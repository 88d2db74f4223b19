import JobConsole.Settings

namespace JobConsole.Settings

/-- The ways to write a count. -/
def IsCount (text : String) (n : Nat) : Prop :=
  ∃ sign zeros, (sign = [] ∨ sign = ['+']) ∧ (∀ c ∈ zeros, c = '0') ∧
    text.toList = sign ++ zeros ++ (toString n).toList

/-! ## Digits -/

theorem digits_toString (n : Nat) : ∀ c ∈ (toString n).toList, c.isDigit = true := by
  intro c hc
  rw [Nat.toString_eq_ofList_toDigits, String.toList_ofList] at hc
  exact Nat.isDigit_of_mem_toDigits (by decide) (by decide) hc

theorem toString_ne_nil (n : Nat) : (toString n).toList ≠ [] := by
  rw [Nat.toString_eq_ofList_toDigits, String.toList_ofList]
  exact Nat.toDigits_ne_nil

/-- A digit is no character that is not one. -/
theorem beq_of_isDigit {c d : Char} (digit : c.isDigit = true) (other : d.isDigit = false) :
    (c == d) = false := by
  rw [beq_eq_false_iff_ne]
  rintro rfl
  rw [digit] at other
  cases other

section
variable {ds : List Char}

theorem digit_bounds {c : Char} (h : c.isDigit = true) :
    '0'.toNat ≤ c.toNat ∧ c.toNat ≤ '9'.toNat := by
  simpa [Char.isDigit, Char.le_def, UInt32.le_iff_toNat_le] using h

theorem toDigits_digit {c : Char} (h : c.isDigit = true) :
    Nat.toDigits 10 (c.toNat - '0'.toNat) = [c] := by
  have bounds := digit_bounds h
  have small : c.toNat - '0'.toNat < 10 := by simp at bounds ⊢; omega
  rw [Nat.toDigits_of_lt_base small]
  congr 1
  apply Char.toNat_inj.mp
  rw [Nat.toNat_digitChar_of_lt_ten small]
  simp at bounds ⊢
  omega

/-- Digits behind those of a positive number are digits of the number that they make with it. -/
theorem toDigits_append (digits : ∀ c ∈ ds, c.isDigit = true) {n : Nat} (positive : 0 < n) :
    Nat.toDigits 10 n ++ ds = Nat.toDigits 10 (Nat.ofDigitChars 10 ds n) := by
  induction ds generalizing n with
  | nil => simp
  | cons c ds ih =>
    have digit := digits c List.mem_cons_self
    have bounds := digit_bounds digit
    have more : Nat.toDigits 10 n ++ [c] = Nat.toDigits 10 (10 * n + (c.toNat - '0'.toNat)) := by
      rw [← toDigits_digit digit, Nat.toDigits_append_toDigits (by decide) positive]
      simp at bounds ⊢
      omega
    rw [Nat.ofDigitChars_cons, ← ih (fun d hd => digits d (List.mem_cons_of_mem c hd)) (by omega),
      ← more]
    simp

/-- Digits are zeros and the digits of the number that they make. -/
theorem exists_zeros (digits : ∀ c ∈ ds, c.isDigit = true) (nonempty : ds ≠ []) :
    ∃ zeros, (∀ c ∈ zeros, c = '0') ∧ ds = zeros ++ Nat.toDigits 10 (Nat.ofDigitChars 10 ds 0) := by
  induction ds with
  | nil => exact absurd rfl nonempty
  | cons c ds ih =>
    have digit := digits c List.mem_cons_self
    have others : ∀ d ∈ ds, d.isDigit = true := fun d hd => digits d (List.mem_cons_of_mem c hd)
    by_cases zero : c = '0'
    · subst zero
      cases ds with
      | nil => exact ⟨[], nofun, rfl⟩
      | cons d ds =>
        obtain ⟨zeros, all, split⟩ := ih others (List.cons_ne_nil d ds)
        refine ⟨'0' :: zeros, by simpa using all, ?_⟩
        rw [Nat.ofDigitChars_cons, List.cons_append]
        exact congrArg ('0' :: ·) split
    · have positive : 0 < c.toNat - '0'.toNat := by
        have := digit_bounds digit
        have : c.toNat ≠ '0'.toNat := fun same => zero (Char.toNat_inj.mp same)
        omega
      refine ⟨[], nofun, ?_⟩
      rw [Nat.ofDigitChars_cons, Nat.mul_zero, Nat.zero_add, ← toDigits_append others positive,
        toDigits_digit digit]
      rfl

theorem ofDigitChars_zeros {zeros : List Char} (h : ∀ c ∈ zeros, c = '0') (n : Nat) :
    Nat.ofDigitChars 10 (zeros ++ (toString n).toList) 0 = n := by
  rw [List.eq_replicate_of_mem h, Nat.ofDigitChars_append, Nat.ofDigitChars_replicate_zero,
    Nat.toString_eq_ofList_toDigits, String.toList_ofList, Nat.mul_zero,
    Nat.ofDigitChars_toDigits (by decide) (by decide)]

end

/-! ## Reading -/

/-- The digits of a count, behind its sign if it has one. -/
def unsigned : List Char → List Char
  | '+' :: rest => rest
  | cs => cs

theorem readCount_eq_some {limit : Nat} {text : String} {n : Nat} :
    readCount limit text = some n ↔
      (unsigned text.toList ≠ [] ∧ ∀ c ∈ unsigned text.toList, c.isDigit = true) ∧
        Nat.ofDigitChars 10 (unsigned text.toList) 0 = n ∧ n ≤ limit := by
  have value (ds : List Char) : ds.foldl (fun n c => n * 10 + (c.toNat - '0'.toNat)) 0 =
      Nat.ofDigitChars 10 ds 0 := by
    simp only [Nat.ofDigitChars_eq_foldl, Nat.mul_comm]
  have unfolded : readCount limit text =
      if unsigned text.toList ≠ [] ∧ (unsigned text.toList).all Char.isDigit then
        if Nat.ofDigitChars 10 (unsigned text.toList) 0 ≤ limit then
          some (Nat.ofDigitChars 10 (unsigned text.toList) 0)
        else none
      else none := by
    rw [← value]
    rfl
  simp only [unfolded, List.all_eq_true]
  generalize Nat.ofDigitChars 10 (unsigned text.toList) 0 = m
  by_cases digits : unsigned text.toList ≠ [] ∧ ∀ c ∈ unsigned text.toList, c.isDigit = true
  · rw [if_pos digits]
    by_cases fits : m ≤ limit
    · rw [if_pos fits, Option.some.injEq]
      constructor
      · rintro rfl
        exact ⟨digits, rfl, fits⟩
      · rintro ⟨-, same, -⟩
        exact same
    · rw [if_neg fits]
      constructor
      · nofun
      · rintro ⟨-, rfl, within⟩
        exact absurd within fits
  · rw [if_neg digits]
    constructor
    · nofun
    · rintro ⟨all, -⟩
      exact absurd all digits

theorem unsigned_digits {ds : List Char} (digits : ∀ c ∈ ds, c.isDigit = true) :
    unsigned ds = ds := by
  unfold unsigned
  split
  · exact absurd (digits '+' List.mem_cons_self) (by decide)
  · rfl

theorem sign_unsigned (cs : List Char) :
    ∃ sign, (sign = [] ∨ sign = ['+']) ∧ cs = sign ++ unsigned cs := by
  unfold unsigned
  split
  · exact ⟨['+'], .inr rfl, rfl⟩
  · exact ⟨[], .inl rfl, rfl⟩

/-- A text is read as a count if it is one of the ways to write it and the limit allows it. -/
theorem readCount_eq_some_iff {limit : Nat} {text : String} {n : Nat} :
    readCount limit text = some n ↔ IsCount text n ∧ n ≤ limit := by
  rw [readCount_eq_some]
  constructor
  · rintro ⟨⟨nonempty, digits⟩, rfl, fits⟩
    obtain ⟨sign, signed, whole⟩ := sign_unsigned text.toList
    obtain ⟨zeros, all, split⟩ := exists_zeros digits nonempty
    refine ⟨⟨sign, zeros, signed, all, ?_⟩, fits⟩
    rw [Nat.toString_eq_ofList_toDigits, String.toList_ofList, List.append_assoc, ← split, ← whole]
  · rintro ⟨⟨sign, zeros, signed, all, split⟩, fits⟩
    have digits : ∀ c ∈ zeros ++ (toString n).toList, c.isDigit = true := by
      intro c hc
      obtain hc | hc := List.mem_append.mp hc
      · rw [all c hc]
        rfl
      · exact digits_toString n c hc
    have rest : unsigned text.toList = zeros ++ (toString n).toList := by
      obtain rfl | rfl := signed
      · rw [split, List.nil_append, unsigned_digits digits]
      · rw [split]
        rfl
    rw [rest]
    refine ⟨⟨?_, digits⟩, ofDigitChars_zeros all n, fits⟩
    exact List.append_ne_nil_of_right_ne_nil zeros (toString_ne_nil n)

/-- A text is a count in one way only. -/
theorem IsCount.unique {text : String} {n m : Nat} (hn : IsCount text n) (hm : IsCount text m) :
    n = m := by
  have first := readCount_eq_some_iff.mpr ⟨hn, Nat.le_max_left n m⟩
  have second := readCount_eq_some_iff.mpr ⟨hm, Nat.le_max_right n m⟩
  exact Option.some.inj (first.symm.trans second)

theorem isCount_toString (n : Nat) : IsCount (toString n) n :=
  ⟨[], [], .inl rfl, nofun, rfl⟩

end JobConsole.Settings
