namespace JobConsole

/-- A text with the capital letters of ASCII made small. -/
def lowercase (s : String) : String := String.ofList (s.toList.map Char.toLower)

end JobConsole
