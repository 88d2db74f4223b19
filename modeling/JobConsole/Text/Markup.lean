namespace JobConsole.Markup

/-- A character as it stands in markup. -/
def escapeChar : Char → List Char
  | '&' => ['&', 'a', 'm', 'p', ';']
  | '<' => ['&', 'l', 't', ';']
  | '>' => ['&', 'g', 't', ';']
  | '"' => ['&', 'q', 'u', 'o', 't', ';']
  | '\'' => ['&', '#', 'x', '2', '7', ';']
  | c => [c]

/-- A text with the characters that mean something in markup replaced by entities. -/
def escape (s : String) : String := String.ofList (s.toList.flatMap escapeChar)

end JobConsole.Markup
