namespace JobConsole

/-- The number that octets stand for. -/
def numberOf (bytes : List UInt8) : Nat := bytes.foldl (fun n b => n * 256 + b.toNat) 0

/-- A number in `width` octets. -/
def octetsOf : (width : Nat) → Nat → List UInt8
  | 0, _ => []
  | width + 1, n => octetsOf width (n / 256) ++ [UInt8.ofNat n]

theorem length_octetsOf (width n : Nat) : (octetsOf width n).length = width := by
  induction width generalizing n with
  | zero => rfl
  | succ width ih => simp [octetsOf, ih]

theorem numberOf_octetsOf (width n : Nat) : numberOf (octetsOf width n) = n % Nat.pow 256 width := by
  induction width generalizing n with
  | zero => exact (Nat.mod_one n).symm
  | succ width ih =>
    have h := ih (n / 256)
    simp only [numberOf] at h
    simp only [octetsOf, numberOf, List.foldl_append, h, List.foldl_cons, List.foldl_nil,
      UInt8.toNat_ofNat']
    have power : Nat.pow 256 (width + 1) = 256 * Nat.pow 256 width := Nat.mul_comm _ _
    rw [power, Nat.mod_mul]
    omega

end JobConsole
