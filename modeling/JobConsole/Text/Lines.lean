namespace JobConsole

/-- The lines of some octets, each with its line feed; `rev` is the line begun, last octet first. -/
def splitLinesFrom (rev : List UInt8) : List UInt8 → List (List UInt8)
  | [] => if rev.isEmpty then [] else [rev.reverse]
  | b :: rest =>
    if b = 0x0A then (b :: rev).reverse :: splitLinesFrom [] rest else splitLinesFrom (b :: rev) rest

/-- The lines of some octets, each with its line feed. What follows the last line feed is a line
too, unless it is nothing. -/
def splitLines (bytes : List UInt8) : List (List UInt8) := splitLinesFrom [] bytes

/-- A line without its line feed and one carriage return before that. -/
def withoutLineEnd (cs : List Char) : List Char :=
  match cs.reverse with
  | '\n' :: '\r' :: rest => rest.reverse
  | '\n' :: rest => rest.reverse
  | _ => cs

theorem flatten_splitLinesFrom (rev bytes : List UInt8) :
    (splitLinesFrom rev bytes).flatten = rev.reverse ++ bytes := by
  induction bytes generalizing rev with
  | nil => cases rev <;> simp [splitLinesFrom]
  | cons b rest ih => by_cases h : b = 0x0A <;> simp [splitLinesFrom, h, ih]

theorem flatten_splitLines (bytes : List UInt8) : (splitLines bytes).flatten = bytes := by
  simp [splitLines, flatten_splitLinesFrom]

end JobConsole
