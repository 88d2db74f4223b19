import JobConsole.Json.Parser
import JobConsole.Proofs.Json.Written

namespace JobConsole.Json

/-! ## Strings -/

theorem hexValue_hexDigit {n : Nat} (h : n < 16) : hexValue? (hexDigit n) = some n := by
  have table : ∀ n : Fin 16, hexValue? (hexDigit n) = some n.val := by decide
  exact table ⟨n, h⟩

/-- Two zeros and two digits stand for a control character. -/
theorem hexUnit_control {n : Nat} (h : n < 0x20) (rest : List Char) :
    hexUnit? ('0' :: '0' :: hexDigit (n / 16) :: hexDigit (n % 16) :: rest) = some n := by
  have zero : hexValue? '0' = some 0 := by decide
  have high := hexValue_hexDigit (n := n / 16) (by omega)
  have low := hexValue_hexDigit (n := n % 16) (by omega)
  have parts : n / 16 * 16 + n % 16 = n := by omega
  simp [hexUnit?, zero, high, low, parts]

theorem escape_control {c : Char} (h : c.toNat < 0x20) (rest : List Char) :
    escape ('u' :: '0' :: '0' :: hexDigit (c.toNat / 16) :: hexDigit (c.toNat % 16) :: rest) =
      .ok (c, 5) := by
  have trailing : isTrailingSurrogate c.toNat = false := by
    simp only [isTrailingSurrogate, Bool.and_eq_false_iff, decide_eq_false_iff_not]; omega
  have leading : isLeadingSurrogate c.toNat = false := by
    simp only [isLeadingSurrogate, Bool.and_eq_false_iff, decide_eq_false_iff_not]; omega
  simp [escape, hexUnit_control h, trailing, leading]

theorem escape_letter {letter c : Char} (h : letterEscape? letter = some c) (hu : letter ≠ 'u')
    (rest : List Char) : escape (letter :: rest) = .ok (c, 1) := by
  unfold escape
  split
  · next same => cases same
  · next same => exact absurd (List.cons.inj same).1 hu
  · next same => obtain ⟨rfl, rfl⟩ := List.cons.inj same; simp [h]

theorem readStringFrom_escape {text : List Char} {c : Char} {used : Nat}
    (h : escape text = .ok (c, used)) (rev : List Char) :
    readStringFrom 0 rev ('\\' :: text) = readStringFrom used (c :: rev) text := by
  simp [readStringFrom, h]

/-- The characters of an escape are passed over. -/
theorem readStringFrom_used (escaped rev rest : List Char) :
    readStringFrom escaped.length rev (escaped ++ rest) = readStringFrom 0 rev rest := by
  induction escaped with
  | nil => rfl
  | cons c escaped ih => exact ih

/-- A character is read back from what is written for it. -/
theorem readStringFrom_writeChar (c : Char) (rev rest : List Char) :
    readStringFrom 0 rev (writeChar c ++ rest) = readStringFrom 0 (c :: rev) rest := by
  have byLetter (letter : Char) (h : letterEscape? letter = some c) (hu : letter ≠ 'u') :
      readStringFrom 0 rev ('\\' :: letter :: rest) = readStringFrom 0 (c :: rev) rest := by
    rw [readStringFrom_escape (escape_letter h hu rest)]
    exact readStringFrom_used [letter] _ rest
  unfold writeChar
  split
  · next hc => exact byLetter '"' (by simp [letterEscape?, hc]) (by decide)
  split
  · next hc => exact byLetter '\\' (by simp [letterEscape?, hc]) (by decide)
  split
  · next control =>
    split
    · next hc => exact byLetter 'b' (by simp [letterEscape?, hc]) (by decide)
    split
    · next hc => exact byLetter 't' (by simp [letterEscape?, hc]) (by decide)
    split
    · next hc => exact byLetter 'n' (by simp [letterEscape?, hc]) (by decide)
    split
    · next hc => exact byLetter 'f' (by simp [letterEscape?, hc]) (by decide)
    split
    · next hc => exact byLetter 'r' (by simp [letterEscape?, hc]) (by decide)
    · exact (readStringFrom_escape (escape_control control rest) rev).trans
        (readStringFrom_used ['u', '0', '0', _, _] _ rest)
  · next quote backslash plain => simp [readStringFrom, quote, backslash, plain]

theorem readStringFrom_flatMap (cs rev rest : List Char) :
    readStringFrom 0 rev (cs.flatMap writeChar ++ '"' :: rest) =
      .ok (String.ofList (rev.reverse ++ cs), rest) := by
  induction cs generalizing rev with
  | nil => simp [readStringFrom]
  | cons c cs ih =>
    rw [List.flatMap_cons, List.append_assoc, readStringFrom_writeChar, ih]
    simp

/-- A text is read back from its literal. -/
theorem readString_writeString (s : String) (rest : List Char) :
    readString (s.toList.flatMap writeChar ++ ['"'] ++ rest) = .ok (s, rest) := by
  rw [List.append_assoc]
  exact (readStringFrom_flatMap s.toList [] rest).trans (by simp)

/-! ## Integers -/

/-- Whether a number ends before a text, since the text does not continue it. -/
def endsNumber : List Char → Bool
  | [] => true
  | c :: _ => !(c.isDigit || c == '.' || c == 'e' || c == 'E')

theorem spanDigits_append {ds : List Char} (digits : ∀ c ∈ ds, c.isDigit = true) {rest : List Char}
    (ends : endsNumber rest = true) : spanDigits (ds ++ rest) = (ds.map digitValue, rest) := by
  have taken : rest.takeWhile Char.isDigit = [] ∧ rest.dropWhile Char.isDigit = rest := by
    cases rest with
    | nil => exact ⟨rfl, rfl⟩
    | cons c rest =>
      have stop : c.isDigit = false := by
        simp only [endsNumber, Bool.not_eq_true', Bool.or_eq_false_iff] at ends
        exact ends.1.1.1
      simp [stop]
  rw [spanDigits, List.takeWhile_append_of_pos digits, List.dropWhile_append_of_pos digits, taken.1,
    taken.2, List.append_nil]

/-- A number with more than one digit does not begin with a zero. -/
theorem toDigits_head_ne_zero {n : Nat} (h : 0 < n) : (Nat.toDigits 10 n).head? ≠ some '0' := by
  induction n using Nat.strongRecOn with
  | ind n ih =>
    by_cases small : n < 10
    · have table : ∀ k : Fin 10, 0 < k.val → Nat.digitChar k ≠ '0' := by decide
      simpa [Nat.toDigits_of_lt_base small] using table ⟨n, small⟩ h
    · have head := ih (n / 10) (by omega) (by omega)
      rw [Nat.toDigits_of_base_le (by omega) (by omega), List.head?_append]
      cases h : Nat.toDigits 10 (n / 10) with
      | nil => exact absurd h Nat.toDigits_ne_nil
      | cons c ds => simpa [h] using head

/-- Further digits never make a number smaller. -/
theorem le_ofDigitChars (ds : List Char) (n : Nat) : n ≤ Nat.ofDigitChars 10 ds n := by
  rw [Nat.ofDigitChars_eq_ofDigitChars_zero]
  have := Nat.le_mul_of_pos_left n (Nat.pow_pos (n := ds.length) (show 0 < 10 by decide))
  omega

theorem scalar_digit {c : Char} (digit : c.isDigit = true) (rest : List Char) :
    scalar (c :: rest) = number false (c :: rest) := by
  have other (letter : Char) (h : letter.isDigit = false) : c ≠ letter := by
    rintro rfl
    simp [h] at digit
  simp [scalar, digit, other 'n' rfl, other 't' rfl, other 'f' rfl, other '-' rfl, other '"' rfl]

namespace NumberText

theorem readFraction_ends {rest : List Char} (ends : endsNumber rest = true) :
    readFraction rest = .ok (none, rest) := by
  unfold readFraction
  split
  · simp [endsNumber] at ends
  · rfl

theorem readExponent_ends {rest : List Char} (ends : endsNumber rest = true) :
    readExponent rest = .ok (none, rest) := by
  cases rest with
  | nil => rfl
  | cons c rest =>
    simp only [endsNumber, Bool.not_eq_true', Bool.or_eq_false_iff, beq_eq_false_iff_ne] at ends
    simp [readExponent, ends.1.2, ends.2]

theorem readWhole_toDigits (n : Nat) {rest : List Char} (ends : endsNumber rest = true) :
    readWhole (Nat.toDigits 10 n ++ rest) = .ok ((Nat.toDigits 10 n).map digitValue, rest) := by
  obtain rfl | positive := Nat.eq_zero_or_pos n
  · cases rest with
    | nil => rfl
    | cons c rest =>
      simp only [endsNumber, Bool.not_eq_true', Bool.or_eq_false_iff] at ends
      simp [Nat.toDigits_zero, readWhole, ends.1.1.1, digitValue]
  · have digits : ∀ c ∈ Nat.toDigits 10 n, c.isDigit = true := by
      intro c hc
      exact Nat.isDigit_of_mem_toDigits (by omega) (by omega) hc
    have head := toDigits_head_ne_zero positive
    have span := spanDigits_append digits ends
    cases h : Nat.toDigits 10 n with
    | nil => exact absurd h Nat.toDigits_ne_nil
    | cons c ds =>
      rw [h] at digits head span
      have first : c ≠ '0' := by
        rintro rfl
        exact head rfl
      have digit := digits c List.mem_cons_self
      simpa [readWhole, first, digit] using span

/-- An integer in decimal digits is read as its digits, with nothing behind them. -/
theorem read_toDigits (negative : Bool) (n : Nat) {rest : List Char}
    (ends : endsNumber rest = true) :
    read negative (Nat.toDigits 10 n ++ rest) =
      .ok (⟨negative, (Nat.toDigits 10 n).map digitValue, none, none⟩, rest) := by
  simp [read, readWhole_toDigits n ends, readFraction_ends ends, readExponent_ends ends, bind,
    Except.bind, pure, Except.pure]

/-- A number that stays within the limit is read to its end. -/
theorem readWithin_ofDigitChars (limit : Nat) (ds : List Char) (n : Nat)
    (within : Nat.ofDigitChars 10 ds n ≤ limit) :
    readWithin limit n (ds.map digitValue) = (Nat.ofDigitChars 10 ds n, []) := by
  induction ds generalizing n with
  | nil => simp [readWithin]
  | cons c ds ih =>
    rw [Nat.ofDigitChars_cons, Nat.mul_comm] at within ⊢
    have grows : n * 10 + digitValue c ≤ Nat.ofDigitChars 10 ds (n * 10 + digitValue c) :=
      le_ofDigitChars ds _
    rw [List.map_cons, readWithin, if_pos (Nat.le_trans grows within)]
    exact ih _ within

theorem readWithin_toDigits {n limit : Nat} (within : n ≤ limit) :
    readWithin limit 0 ((Nat.toDigits 10 n).map digitValue) = (n, []) := by
  have read := readWithin_ofDigitChars limit (Nat.toDigits 10 n) 0 (by simpa using within)
  simpa using read

end NumberText

/-- The integers of 64 bits: the signed ones and the unsigned ones. -/
def Fits (n : Int) : Prop := -(maxNegative : Int) ≤ n ∧ n ≤ maxUnsigned

theorem number_nonnegative {n : Nat} (fits : n ≤ maxUnsigned) {rest : List Char}
    (ends : endsNumber rest = true) :
    number false (Nat.toDigits 10 n ++ rest) = .ok (.integer n, rest) := by
  simp [number, NumberText.read_toDigits false n ends, NumberText.value, NumberText.integer?,
    NumberText.readWithin_toDigits fits, bind, Except.bind]

theorem number_negative {n : Nat} (positive : n ≠ 0) (fits : n ≤ maxNegative) {rest : List Char}
    (ends : endsNumber rest = true) :
    number true (Nat.toDigits 10 n ++ rest) = .ok (.integer (-n), rest) := by
  have within : n ≤ maxUnsigned := Nat.le_trans fits (by decide)
  simp [number, NumberText.read_toDigits true n ends, NumberText.value, NumberText.integer?,
    NumberText.readWithin_toDigits within, positive, fits, bind, Except.bind]

/-- An integer of 64 bits is read back from its digits. -/
theorem scalar_writeInteger {n : Int} (fits : Fits n) {rest : List Char}
    (ends : endsNumber rest = true) : scalar (writeInteger n ++ rest) = .ok (.integer n, rest) := by
  unfold writeInteger
  split
  · next negative =>
    have read := number_negative (n := n.natAbs) (by omega)
      (by have := fits.1; simp only [maxNegative] at this ⊢; omega) ends
    have value : -(n.natAbs : Int) = n := by omega
    rw [value] at read
    exact read
  · next nonnegative =>
    have read := number_nonnegative (n := n.natAbs)
      (by have := fits.2; simp only [maxUnsigned] at this ⊢; omega) ends
    have value : (n.natAbs : Int) = n := by omega
    rw [value] at read
    obtain ⟨c, ds, h, digit⟩ := toDigits_head n.natAbs
    rw [h] at read ⊢
    rw [List.cons_append, scalar_digit digit]
    exact read

end JobConsole.Json
