import JobConsole.Json.Fault
import JobConsole.Json.Value

/-!
# JSON numbers

The text of a number is read into its parts, and the parts into a value.

A magnitude is formed from the leading digits that fit 64 bits, by one multiplication or by
divisions with rounded powers of ten, so it is not always the one nearest to the decimal that was
written.
-/

namespace JobConsole.Json

/-- Reading from the front of a text: a result and what is left, or a fault. -/
abbrev Scan (α : Type) := Except Fault (α × List Char)

def digitValue (c : Char) : Nat := c.toNat - '0'.toNat

/-- The digits a text starts with, and what is left. -/
def spanDigits (cs : List Char) : List Nat × List Char :=
  ((cs.takeWhile Char.isDigit).map digitValue, cs.dropWhile Char.isDigit)

/-- The greatest value of an unsigned number of 64 bits. -/
def maxUnsigned : Nat := 0xFFFFFFFFFFFFFFFF

/-- The greatest magnitude of a negative number that is signed, of 64 bits. -/
def maxNegative : Nat := 0x8000000000000000

/-- The greatest exponent that is told apart from larger ones. -/
def maxExponent : Nat := 0x7FFFFFFF

/-- Reads digits onto `n` as long as the number stays within `limit`: the number, and the digits
that are left. -/
def readWithin (limit : Nat) (n : Nat) : List Nat → Nat × List Nat
  | [] => (n, [])
  | d :: ds => if n * 10 + d ≤ limit then readWithin limit (n * 10 + d) ds else (n, d :: ds)

/-- The parts of a number: its digits before and after the point, and those of its exponent. -/
structure NumberText where
  negative : Bool
  whole : List Nat
  fraction : Option (List Nat)
  exponent : Option (Bool × List Nat)
  deriving DecidableEq, Repr

namespace NumberText

/-- The digits before the point: a zero alone, or digits that do not start with one. -/
def readWhole : List Char → Scan (List Nat)
  | [] => .error (.here .endInValue [])
  | c :: rest =>
    if c = '0' then
      match rest with
      | d :: _ => if d.isDigit then .error (.ahead .invalidNumber rest) else .ok ([0], rest)
      | [] => .ok ([0], [])
    else if c.isDigit then .ok (spanDigits (c :: rest))
    else .error (.ahead .invalidNumber (c :: rest))

/-- One or more digits, as they are due after a point and in an exponent. -/
def readDigits (cs : List Char) : Scan (List Nat) :=
  match spanDigits cs with
  | ([], []) => .error (.here .endInValue [])
  | ([], rest) => .error (.ahead .invalidNumber rest)
  | (ds, rest) => .ok (ds, rest)

def readFraction : List Char → Except Fault (Option (List Nat) × List Char)
  | '.' :: rest => do
    let (ds, rest) ← readDigits rest
    return (some ds, rest)
  | cs => .ok (none, cs)

/-- The sign of an exponent: whether it is negative, and what is left. -/
def readSign : List Char → Bool × List Char
  | '-' :: rest => (true, rest)
  | '+' :: rest => (false, rest)
  | cs => (false, cs)

def readExponent : List Char → Except Fault (Option (Bool × List Nat) × List Char)
  | [] => .ok (none, [])
  | c :: rest =>
    if c = 'e' ∨ c = 'E' then do
      let (negative, rest) := readSign rest
      let (ds, rest) ← readDigits rest
      return (some (negative, ds), rest)
    else .ok (none, c :: rest)

def read (negative : Bool) (cs : List Char) : Except Fault (NumberText × List Char) := do
  let (whole, cs) ← readWhole cs
  let (fraction, cs) ← readFraction cs
  let (exponent, cs) ← readExponent cs
  return (⟨negative, whole, fraction, exponent⟩, cs)

/-- The digits that take part in the value, as one number, and the power of ten to scale it by.
Digits before the point that no longer fit are dropped and each raises the power; behind the point
each digit that fits lowers it, and those from the first that does not are dropped without effect. -/
def significand (t : NumberText) : Nat × Int :=
  let (n, dropped) := readWithin maxUnsigned 0 t.whole
  let ds := t.fraction.getD []
  let (n, left) := readWithin maxUnsigned n ds
  (n, (dropped.length : Int) - ((ds.length - left.length : Nat) : Int))

/-- Divides by `10 ^ 308` as many times as `rounds` says, unless it reaches zero before. -/
def shrink : (rounds : Nat) → Magnitude → Option Magnitude
  | 0, x => some x
  | rounds + 1, x =>
    if x.isZero then some x
    else do
      let power ← Magnitude.powerOfTen? 308
      shrink rounds (← x.div? power)

/-- `n * 10 ^ power` by rounded powers of ten; none where it is too large. -/
def scale (n : Nat) (power : Int) : Option Magnitude := do
  let x ← Magnitude.ofNat? n
  if 0 ≤ power then
    if power ≤ 308 then x.mul? (← Magnitude.powerOfTen? power.toNat)
    else if x.isZero then some x
    else none
  else
    let p := (-power).toNat
    let blocks := (p - 1) / 308
    let x ← shrink blocks x
    if x.isZero then some x else x.div? (← Magnitude.powerOfTen? (p - 308 * blocks))

/-- The number as an integer, if it is written as one and fits. The literal `-0` is no integer. -/
def integer? (t : NumberText) : Option Int :=
  match t.fraction, t.exponent with
  | none, none =>
    let (n, dropped) := readWithin maxUnsigned 0 t.whole
    if dropped ≠ [] then none
    else if t.negative then
      if n ≠ 0 ∧ n ≤ maxNegative then some (-(n : Int)) else none
    else some n
  | _, _ => none

/-- The number as a magnitude. Where it is too large, how many digits of the exponent stand behind
the place at which that shows. -/
def magnitude (t : NumberText) : Except Nat Magnitude :=
  let (n, power) := t.significand
  match t.exponent with
  | none => (scale n power).elim (.error 0) .ok
  | some (down, ds) =>
    let (e, left) := readWithin maxExponent 0 ds
    match left with
    | _ :: after =>
      if n ≠ 0 ∧ ¬ down then .error after.length else .ok .zero
    | [] =>
      let total := if down then power - e else power + e
      let least : Int := -(maxExponent : Int) - 1
      (scale n (min (max total least) maxExponent)).elim (.error 0) .ok

def value (t : NumberText) (rest : List Char) : Scan Json :=
  match t.integer? with
  | some n => .ok (.integer n, rest)
  | none =>
    match t.magnitude with
    | .ok x => .ok (.float t.negative x, rest)
    | .error after => .error ⟨.numberOutOfRange, utf8Length rest + after⟩

end NumberText

/-- A number behind its sign. -/
def number (negative : Bool) (cs : List Char) : Except Fault (Json × List Char) := do
  let (t, rest) ← NumberText.read negative cs
  t.value rest

end JobConsole.Json
