import JobConsole.Json.Number

namespace JobConsole.Json

def hexValue? (c : Char) : Option Nat :=
  let n := c.toNat
  if c.isDigit then some (n - '0'.toNat)
  else if 'a' ≤ c ∧ c ≤ 'f' then some (n - 'a'.toNat + 10)
  else if 'A' ≤ c ∧ c ≤ 'F' then some (n - 'A'.toNat + 10)
  else none

/-- The number that the four hexadecimal digits in front stand for. -/
def hexUnit? : List Char → Option Nat
  | a :: b :: c :: d :: _ => do
    let a ← hexValue? a
    let b ← hexValue? b
    let c ← hexValue? c
    let d ← hexValue? d
    return ((a * 16 + b) * 16 + c) * 16 + d
  | _ => none

/-- The fault of a text that does not start with four hexadecimal digits where they are due. The
next four octets are looked at whatever characters they belong to. -/
def hexFault (rest : List Char) : Fault :=
  let octets := utf8Length rest
  if octets < 4 then ⟨.endInString, 0⟩ else ⟨.invalidEscape, octets - 4⟩

def isLeadingSurrogate (n : Nat) : Bool := 0xD800 ≤ n && n < 0xDC00

def isTrailingSurrogate (n : Nat) : Bool := 0xDC00 ≤ n && n < 0xE000

def pairCode (leading trailing : Nat) : Nat :=
  0x10000 + (leading - 0xD800) * 0x400 + (trailing - 0xDC00)

def letterEscape? : Char → Option Char
  | '"' => some '"'
  | '\\' => some '\\'
  | '/' => some '/'
  | 'b' => some '\x08'
  | 'f' => some '\x0C'
  | 'n' => some '\n'
  | 'r' => some '\r'
  | 't' => some '\t'
  | _ => none

/-- The rest of a surrogate pair, behind the digits of its leading half: the character, and how many
characters of the text were used. -/
def pairEscape (leading : Nat) : List Char → Except Fault (Char × Nat)
  | [] => .error (.here .endInString [])
  | '\\' :: [] => .error (.here .endInString [])
  | '\\' :: 'u' :: rest =>
    match hexUnit? rest with
    | none => .error (hexFault rest)
    | some n =>
      if isTrailingSurrogate n then .ok (Char.ofNat (pairCode leading n), 6)
      else .error (.here .loneLeadingSurrogate (rest.drop 4))
  | '\\' :: rest => .error (.ahead .unfinishedSurrogatePair rest)
  | rest => .error (.ahead .unfinishedSurrogatePair rest)

/-- The character that an escape behind a backslash stands for, and how many characters it takes. -/
def escape : List Char → Except Fault (Char × Nat)
  | [] => .error (.here .endInString [])
  | 'u' :: rest =>
    match hexUnit? rest with
    | none => .error (hexFault rest)
    | some n =>
      if isTrailingSurrogate n then .error (.here .loneLeadingSurrogate (rest.drop 4))
      else if isLeadingSurrogate n then
        match pairEscape n (rest.drop 4) with
        | .ok (c, used) => .ok (c, used + 5)
        | .error fault => .error fault
      else .ok (Char.ofNat n, 5)
  | c :: rest =>
    match letterEscape? c with
    | some d => .ok (d, 1)
    | none => .error (.ahead .invalidEscape (c :: rest))

/-- Reads a literal from behind its opening quote, after the characters `rev` (last first) and with
`used` characters of an escape still to be passed over. -/
def readStringFrom : (used : Nat) → (rev : List Char) → List Char → Scan String
  | _, _, [] => .error (.here .endInString [])
  | used + 1, rev, _ :: rest => readStringFrom used rev rest
  | 0, rev, c :: rest =>
    if c = '"' then .ok (String.ofList rev.reverse, rest)
    else if c = '\\' then
      match escape rest with
      | .error fault => .error fault
      | .ok (d, used) => readStringFrom used (d :: rev) rest
    else if c.toNat < 0x20 then .error (.here .controlCharacter rest)
    else readStringFrom 0 (c :: rev) rest

/-- The text of a string literal, from behind its opening quote. -/
def readString (cs : List Char) : Scan String := readStringFrom 0 [] cs

def hexDigit (n : Nat) : Char := Nat.digitChar n

/-- A character as it stands in a literal. -/
def writeChar (c : Char) : List Char :=
  if c = '"' then ['\\', '"']
  else if c = '\\' then ['\\', '\\']
  else if c.toNat < 0x20 then
    if c = '\x08' then ['\\', 'b']
    else if c = '\t' then ['\\', 't']
    else if c = '\n' then ['\\', 'n']
    else if c = '\x0C' then ['\\', 'f']
    else if c = '\r' then ['\\', 'r']
    else ['\\', 'u', '0', '0', hexDigit (c.toNat / 16), hexDigit (c.toNat % 16)]
  else [c]

def writeString (s : String) : List Char := '"' :: (s.toList.flatMap writeChar ++ ['"'])

end JobConsole.Json
