import JobConsole.Text.Utf8

/-!
# Faults in JSON text

What can be wrong with a JSON text, and where. While reading, a fault is placed by the octets that
are left behind it; `Fault.located` turns that into a line and a column of the whole text.
-/

namespace JobConsole.Json

inductive Flaw
  | endInValue
  | endInList
  | endInObject
  | endInString
  | expectedValue
  | expectedWord
  | expectedListCommaOrEnd
  | expectedObjectCommaOrEnd
  | expectedColon
  | expectedStringKey
  | trailingComma
  | invalidNumber
  | numberOutOfRange
  | controlCharacter
  | invalidEscape
  | loneLeadingSurrogate
  | unfinishedSurrogatePair
  | nestingLimit
  | trailingCharacters
  deriving DecidableEq, Repr

def Flaw.message : Flaw → String
  | .endInValue => "EOF while parsing a value"
  | .endInList => "EOF while parsing a list"
  | .endInObject => "EOF while parsing an object"
  | .endInString => "EOF while parsing a string"
  | .expectedValue => "expected value"
  | .expectedWord => "expected ident"
  | .expectedListCommaOrEnd => "expected `,` or `]`"
  | .expectedObjectCommaOrEnd => "expected `,` or `\x7d`"
  | .expectedColon => "expected `:`"
  | .expectedStringKey => "key must be a string"
  | .trailingComma => "trailing comma"
  | .invalidNumber => "invalid number"
  | .numberOutOfRange => "number out of range"
  | .controlCharacter => "control character (\\u0000-\\u001F) found while parsing a string"
  | .invalidEscape => "invalid escape"
  | .loneLeadingSurrogate => "lone leading surrogate in hex escape"
  | .unfinishedSurrogatePair => "unexpected end of hex escape"
  | .nestingLimit => "recursion limit exceeded"
  | .trailingCharacters => "trailing characters"

/-- The kinds of refusal a reader tells apart: malformed text, text of the wrong shape, and text
that ends too early. -/
inductive Refusal
  | malformed
  | mismatched
  | truncated
  deriving DecidableEq, Repr

def Flaw.refusal : Flaw → Refusal
  | .endInValue | .endInList | .endInObject | .endInString => .truncated
  | _ => .malformed

/-- A flaw met while reading; `unread` counts the octets behind the place it is reported at. -/
structure Fault where
  flaw : Flaw
  unread : Nat
  deriving DecidableEq, Repr

/-- A flaw reported before the unread text. -/
def Fault.here (flaw : Flaw) (rest : List Char) : Fault := ⟨flaw, utf8Length rest⟩

/-- A flaw reported behind the next octet of the unread text, if there is one. -/
def Fault.ahead (flaw : Flaw) (rest : List Char) : Fault := ⟨flaw, utf8Length rest - 1⟩

/-- A flaw with its place: lines count from one, columns count octets of the line before it. -/
structure ParseError where
  flaw : Flaw
  line : Nat
  column : Nat
  deriving DecidableEq, Repr

def ParseError.message (e : ParseError) : String :=
  e.flaw.message ++ " at line " ++ toString e.line ++ " column " ++ toString e.column

/-- The line and the column after some octets. -/
def placeAfter (read : List UInt8) : Nat × Nat :=
  let advance (place : Nat × Nat) (b : UInt8) : Nat × Nat :=
    if b = 0x0A then (place.1 + 1, 0) else (place.1, place.2 + 1)
  read.foldl advance (1, 0)

/-- The fault placed in the text it was met in. -/
def Fault.located (text : List Char) (fault : Fault) : ParseError :=
  let bytes := Utf8.encode text
  let (line, column) := placeAfter (bytes.take (bytes.length - fault.unread))
  ⟨fault.flaw, line, column⟩

end JobConsole.Json
