/-!
# UTF-8

Octets and characters. Decoding reads one octet at a time and keeps the character begun so far, so
a refusal can name the octet where the bad sequence starts and how many octets of it were well
formed.
-/

namespace JobConsole

/-- How many octets a list of characters takes. -/
def utf8Length (cs : List Char) : Nat := cs.foldl (fun n c => n + c.utf8Size) 0

namespace Utf8

/-- Why octets are not UTF-8. `start` counts the octets before the bad sequence. -/
inductive Fault
  /-- `length` octets at `start` begin no character. -/
  | invalid (length start : Nat)
  /-- The octets end inside the character that starts at `start`. -/
  | incomplete (start : Nat)
  deriving DecidableEq, Repr

def Fault.message : Fault → String
  | .invalid length start =>
    "invalid utf-8 sequence of " ++ toString length ++ " bytes from index " ++ toString start
  | .incomplete start => "incomplete utf-8 byte sequence from index " ++ toString start

/-- A character begun and not finished: its first octet stands at `start`, `taken` octets of it were
read and gave `code`, `owed` more are due, and the next lies between `low` and `high`. -/
structure Partial where
  start : Nat
  taken : Nat
  code : Nat
  owed : Nat
  low : Nat := 0x80
  high : Nat := 0xBF

/-- What an octet that begins a character at `start` leaves to be read, if it can begin one. The
bounds keep out overlong forms, surrogates and code points above `0x10FFFF`. -/
def begin? (start b : Nat) : Option Partial :=
  if b < 0x80 then some { start, taken := 1, code := b, owed := 0 }
  else if b < 0xC2 then none
  else if b < 0xE0 then some { start, taken := 1, code := b - 0xC0, owed := 1 }
  else if b = 0xE0 then some { start, taken := 1, code := 0, owed := 2, low := 0xA0 }
  else if b = 0xED then some { start, taken := 1, code := 0x0D, owed := 2, high := 0x9F }
  else if b < 0xF0 then some { start, taken := 1, code := b - 0xE0, owed := 2 }
  else if b = 0xF0 then some { start, taken := 1, code := 0, owed := 3, low := 0x90 }
  else if b < 0xF4 then some { start, taken := 1, code := b - 0xF0, owed := 3 }
  else if b = 0xF4 then some { start, taken := 1, code := 4, owed := 3, high := 0x8F }
  else none

/-- The character with one more of its octets. -/
def Partial.extend (p : Partial) (b : Nat) : Partial :=
  { start := p.start, taken := p.taken + 1, code := p.code * 64 + (b - 0x80), owed := p.owed - 1 }

/-- One octet, at `index`: the character it finishes, or the one it leaves unfinished. -/
def step (index : Nat) (begun : Option Partial) (b : Nat) : Except Fault (Char ⊕ Partial) :=
  let finish (p : Partial) : Char ⊕ Partial :=
    if p.owed = 0 then .inl (Char.ofNat p.code) else .inr p
  match begun with
  | none =>
    match begin? index b with
    | some p => .ok (finish p)
    | none => .error (.invalid 1 index)
  | some p =>
    if p.low ≤ b ∧ b ≤ p.high then .ok (finish (p.extend b))
    else .error (.invalid p.taken p.start)

/-- Decodes from `index` on, after the characters `rev` (last first) and with one perhaps begun. -/
def decodeFrom (index : Nat) (begun : Option Partial) (rev : List Char) :
    List UInt8 → Except Fault (List Char)
  | [] =>
    match begun with
    | none => .ok rev.reverse
    | some p => .error (.incomplete p.start)
  | b :: rest =>
    match step index begun b.toNat with
    | .error fault => .error fault
    | .ok (.inl c) => decodeFrom (index + 1) none (c :: rev) rest
    | .ok (.inr p) => decodeFrom (index + 1) (some p) rev rest

/-- The characters that octets stand for. -/
def decode (bytes : List UInt8) : Except Fault (List Char) := decodeFrom 0 none [] bytes

def text? (bytes : List UInt8) : Option String :=
  match decode bytes with
  | .ok cs => some (String.ofList cs)
  | .error _ => none

def encode (cs : List Char) : List UInt8 := cs.flatMap String.utf8EncodeChar

end Utf8

end JobConsole
