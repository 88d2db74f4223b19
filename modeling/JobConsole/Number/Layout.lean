import JobConsole.Number.Shortest

namespace JobConsole

/-- The range of places of the first digit for which a number is written without an exponent. -/
structure Layout where
  leastPlain : Int
  greatestPlain : Int
  deriving DecidableEq, Repr

namespace Layout

/-- The digits of a number, the first of which stands for a multiple of `10 ^ place`, written
without an exponent and with at least one digit on each side of the point. -/
def plain (digits : List Char) (place : Int) : List Char :=
  if place < 0 then
    '0' :: '.' :: (List.replicate (-place - 1).toNat '0' ++ digits)
  else
    let whole := place.toNat + 1
    let padded := digits ++ List.replicate (whole - digits.length) '0'
    let fraction := padded.drop whole
    padded.take whole ++ '.' :: (if fraction.isEmpty then ['0'] else fraction)

/-- The same with an exponent: one digit before the point, no point before nothing, and a sign in
every exponent. -/
def scientific (digits : List Char) (place : Int) : List Char :=
  let mantissa := match digits with
    | [] => []
    | [d] => [d]
    | d :: rest => d :: '.' :: rest
  let sign := if place < 0 then '-' else '+'
  mantissa ++ 'e' :: sign :: Nat.toDigits 10 place.natAbs

/-- A decimal without trailing zeros, written out. -/
def write (layout : Layout) (d : Decimal) : List Char :=
  let digits := Nat.toDigits 10 d.significand
  let place := d.exponent + (digits.length - 1 : Nat)
  if layout.leastPlain ≤ place ∧ place ≤ layout.greatestPlain then plain digits place
  else scientific digits place

end Layout

end JobConsole
