import JobConsole.Number.Magnitude

namespace JobConsole

/-- The number `significand * 10 ^ exponent`. -/
structure Decimal where
  significand : Nat
  exponent : Int
  deriving DecidableEq, Repr

namespace Decimal

/-- `n * 10 ^ e` as a ratio of naturals. -/
def scaled (n : Nat) (e : Int) : Nat × Nat :=
  if 0 ≤ e then (n * Nat.pow 10 e.toNat, 1) else (n, Nat.pow 10 (-e).toNat)

def ratio (d : Decimal) : Nat × Nat := scaled d.significand d.exponent

/-- The same number without trailing zeros; `rounds` bounds how many are dropped. -/
def dropZeros : Nat → Decimal → Decimal
  | 0, d => d
  | rounds + 1, d =>
    if d.significand ≠ 0 ∧ d.significand % 10 = 0 then
      dropZeros rounds ⟨d.significand / 10, d.exponent + 1⟩
    else d

end Decimal

namespace Magnitude

/-- The ends of the interval of numbers that round to `x`, in quarters of its last place. The
lower end is nearer where the numbers below lie closer together. -/
def lowerEnd (x : Magnitude) : Nat :=
  if x.significand = Nat.pow 2 (precision - 1) ∧ minExponent < x.exponent then
    4 * x.significand - 1
  else 4 * x.significand - 2

@[inherit_doc lowerEnd]
def upperEnd (x : Magnitude) : Nat := 4 * x.significand + 2

/-- Whether `num / den` lies in the interval of numbers that round to `x`; its ends belong to it
when the significand is even. -/
def RoundsTo (x : Magnitude) (num den : Nat) : Prop :=
  let lo := scaled x.lowerEnd (x.exponent - 2)
  let hi := scaled x.upperEnd (x.exponent - 2)
  if x.significand % 2 = 0 then lo.1 * den ≤ num * lo.2 ∧ num * hi.2 ≤ hi.1 * den
  else lo.1 * den < num * lo.2 ∧ num * hi.2 < hi.1 * den

instance (x : Magnitude) (num den : Nat) : Decidable (x.RoundsTo num den) := by
  unfold RoundsTo; infer_instance

/-- Of the two multiples of `10 ^ e` next to `x`, the nearer one that rounds to `x`; of two equally
near, the even multiple. -/
def onGrid? (x : Magnitude) (e : Int) : Option Decimal :=
  let (n, m) := x.ratio
  let (g, h) := Decimal.scaled 1 e
  let num := n * h
  let den := m * g
  let below : Decimal := ⟨num / den, e⟩
  let above : Decimal := ⟨num / den + 1, e⟩
  let fits (d : Decimal) : Bool := decide (x.RoundsTo d.ratio.1 d.ratio.2)
  let r := num % den
  let belowIsNearer : Bool := 2 * r < den || (2 * r == den && below.significand % 2 == 0)
  match fits below, fits above with
  | true, true => some (if belowIsNearer then below else above)
  | true, false => some below
  | false, true => some above
  | false, false => none

/-- The greatest `e` with `10 ^ e ≤ num / den`, for positive `num` and `den`, searched downwards
from `start`. -/
def floorLog10 (num den : Nat) : (rounds : Nat) → (start : Int) → Int
  | 0, start => start
  | rounds + 1, start =>
    let (n, m) := Decimal.scaled den start
    if n ≤ num * m then start else floorLog10 num den rounds (start - 1)

/-- The exponent of the first decimal digit of a magnitude above zero. -/
def firstDigitExponent (x : Magnitude) : Int :=
  let (n, m) := x.ratio
  -- `log10 x` lies within one of three tenths of `log2 x`, up to the rounding of the fraction.
  let start := (floorLog2 n m + 1) * 30103 / 100000 + 1
  floorLog10 n m 4 start

/-- The first grid, of those with `digits`, `digits + 1`, … digits, with a point for `x`. -/
def firstHit (x : Magnitude) (first : Int) : (rounds : Nat) → (digits : Nat) → Decimal
  | 0, _ => ⟨x.significand, 0⟩
  | rounds + 1, digits =>
    match x.onGrid? (first - (digits - 1 : Nat)) with
    | some d => d
    | none => firstHit x first rounds (digits + 1)

/-- The shortest decimal that rounds to `x`, nearest to it among those; seventeen digits always
suffice. -/
def shortest (x : Magnitude) : Decimal :=
  if x.isZero then ⟨0, 0⟩
  else (firstHit x x.firstDigitExponent 17 1).dropZeros 17

end Magnitude

end JobConsole
