import Mathlib.Data.List.DropRight
import JobConsole.Json.Skip
import JobConsole.Proofs.Json.RepeatedKeys
import JobConsole.Proofs.Json.RoundTrip

/-!
# Passing over what can be read

A value that can be read can be passed over, and what is left behind it is the same:

* `skipString_of_read`, `skipNumber_of_read`, `skipScalar_of_read`: literals, numbers and words;
* `Passed`: what stands between two places of a text is passed over, whatever is open around it;
* `scriptValue_passed`: so is every value that is read.
-/

namespace JobConsole.Json

section
variable {cs rest : List Char}

/-! ## Literals -/

theorem hexUnit?_some {n : Nat} (h : hexUnit? cs = some n) :
    ∃ a b c d, cs = a :: b :: c :: d :: cs.drop 4 := by
  unfold hexUnit? at h
  split at h
  · next a b c d tail => exact ⟨a, b, c, d, rfl⟩
  · cases h

theorem skipStringFrom_unit {n : Nat} (h : hexUnit? cs = some n) (used : Nat) :
    skipStringFrom 0 ('\\' :: 'u' :: cs) = skipStringFrom 0 (cs.drop 4) ∧
      skipStringFrom (used + 5) ('u' :: cs) = skipStringFrom used (cs.drop 4) := by
  obtain ⟨a, b, c, d, digits⟩ := hexUnit?_some h
  have passed (used : Nat) : skipStringFrom (used + 5) ('u' :: cs) =
      skipStringFrom used (cs.drop 4) := by
    rw [digits]
    rfl
  refine ⟨?_, passed used⟩
  rw [← passed 0]
  simp [skipStringFrom, h]

/-- The trailing half of a surrogate pair is passed over as an escape of its own. -/
theorem skipStringFrom_pair {leading used : Nat} {d : Char}
    (h : pairEscape leading cs = .ok (d, used)) :
    skipStringFrom 0 cs = skipStringFrom used cs := by
  unfold pairEscape at h
  split at h
  · cases h
  · cases h
  · next digits =>
    split at h
    · cases h
    · next n unit =>
      split at h
      · obtain ⟨-, rfl⟩ := Prod.mk.inj (Except.ok.inj h)
        obtain ⟨read, passed⟩ := skipStringFrom_unit unit 0
        exact read.trans passed.symm
      · cases h
  · cases h
  · cases h

/-- What is passed over for an escape is what is read of it. -/
theorem skipStringFrom_escape {d : Char} {used : Nat} (h : escape cs = .ok (d, used)) :
    skipStringFrom 0 ('\\' :: cs) = skipStringFrom used cs := by
  unfold escape at h
  split at h
  · cases h
  · next digits =>
    split at h
    · cases h
    · next n unit =>
      split at h
      · cases h
      split at h
      · split at h
        · next pair =>
          obtain ⟨-, rfl⟩ := Prod.mk.inj (Except.ok.inj h)
          obtain ⟨read, passed⟩ := skipStringFrom_unit unit _
          rw [read, passed]
          exact skipStringFrom_pair pair
        · cases h
      · obtain ⟨-, rfl⟩ := Prod.mk.inj (Except.ok.inj h)
        obtain ⟨read, passed⟩ := skipStringFrom_unit unit 0
        exact read.trans passed.symm
  · next c tail _ =>
    split at h
    · next letter =>
      obtain ⟨-, rfl⟩ := Prod.mk.inj (Except.ok.inj h)
      simp [skipStringFrom, letter]
    · cases h

theorem skipStringFrom_of_read {used : Nat} {rev : List Char} {s : String}
    (h : readStringFrom used rev cs = .ok (s, rest)) :
    skipStringFrom used cs = .ok rest ∧ rest.length < cs.length := by
  induction cs generalizing used rev with
  | nil => cases used <;> cases h
  | cons c tail ih =>
    cases used with
    | succ used =>
      have behind : readStringFrom used rev tail = .ok (s, rest) := h
      obtain ⟨skips, shorter⟩ := ih behind
      exact ⟨skips, Nat.lt_succ_of_lt shorter⟩
    | zero =>
      rw [readStringFrom] at h
      split at h
      · next quote =>
        obtain ⟨-, rfl⟩ := Prod.mk.inj (Except.ok.inj h)
        exact ⟨by simp [skipStringFrom, quote], Nat.lt_succ_self _⟩
      · next quote =>
        split at h
        · next backslash =>
          split at h
          · cases h
          · next read =>
            obtain ⟨skips, shorter⟩ := ih h
            rw [backslash, skipStringFrom_escape read]
            exact ⟨skips, Nat.lt_succ_of_lt shorter⟩
        · next backslash =>
          split at h
          · cases h
          · next printable =>
            obtain ⟨skips, shorter⟩ := ih h
            refine ⟨?_, Nat.lt_succ_of_lt shorter⟩
            simpa [skipStringFrom, quote, backslash, printable] using skips

theorem skipString_of_read {s : String} (h : readString cs = .ok (s, rest)) :
    skipString cs = .ok rest ∧ rest.length < cs.length :=
  skipStringFrom_of_read h

/-! ## Numbers -/

theorem skipDigits_of_read {ds : List Nat} (h : NumberText.readDigits cs = .ok (ds, rest)) :
    skipDigits cs = .ok rest ∧ rest.length < cs.length := by
  cases cs with
  | nil => cases h
  | cons c tail =>
    by_cases digit : c.isDigit = true
    · obtain ⟨-, rfl⟩ : (spanDigits (c :: tail)).1 = ds ∧ tail.dropWhile Char.isDigit = rest := by
        simpa [NumberText.readDigits, spanDigits, digit] using h
      refine ⟨by simp [skipDigits, digit], ?_⟩
      exact Nat.lt_succ_of_le (List.dropWhile_suffix _).length_le
    · simp [NumberText.readDigits, spanDigits, digit] at h

theorem skipWhole_of_read {ds : List Nat} (h : NumberText.readWhole cs = .ok (ds, rest)) :
    skipWhole cs = .ok rest ∧ rest.length < cs.length := by
  unfold NumberText.readWhole at h
  split at h
  · cases h
  · next c tail =>
    by_cases zero : c = '0'
    · subst zero
      cases tail with
      | nil =>
        obtain ⟨-, rfl⟩ := Prod.mk.inj (Except.ok.inj h)
        exact ⟨rfl, Nat.zero_lt_one⟩
      | cons d tail =>
        by_cases digit : d.isDigit = true
        · simp [digit] at h
        · obtain ⟨-, rfl⟩ : [0] = ds ∧ d :: tail = rest := by simpa [digit] using h
          exact ⟨by simp [skipWhole, digit], Nat.lt_succ_self _⟩
    · by_cases digit : c.isDigit = true
      · obtain ⟨-, rfl⟩ : (spanDigits (c :: tail)).1 = ds ∧ tail.dropWhile Char.isDigit = rest := by
          simpa [zero, spanDigits, digit] using h
        refine ⟨by simp [skipWhole, skipDigits, zero, digit], ?_⟩
        exact Nat.lt_succ_of_le (List.dropWhile_suffix _).length_le
      · simp [zero, digit] at h

/-- A reading that succeeds begins with one that does. -/
theorem bind_ok {α β : Type} {x : Except Fault α} {f : α → Except Fault β} {result : β}
    (h : (x >>= f) = .ok result) : ∃ a, x = .ok a ∧ f a = .ok result := by
  cases x with
  | error fault => cases h
  | ok a => exact ⟨a, rfl, h⟩

theorem skipFraction_of_read {ds : Option (List Nat)}
    (h : NumberText.readFraction cs = .ok (ds, rest)) :
    skipFraction cs = .ok rest ∧ rest.length ≤ cs.length := by
  unfold NumberText.readFraction at h
  split at h
  · next tail =>
    obtain ⟨⟨digits, after⟩, read, h⟩ := bind_ok h
    obtain ⟨-, rfl⟩ := Prod.mk.inj (Except.ok.inj h)
    obtain ⟨skips, shorter⟩ := skipDigits_of_read read
    exact ⟨skips, Nat.le_succ_of_le (Nat.le_of_lt shorter)⟩
  · obtain ⟨-, rfl⟩ := Prod.mk.inj (Except.ok.inj h)
    exact ⟨by simp [skipFraction], Nat.le_refl _⟩

theorem readSign_length (cs : List Char) : (NumberText.readSign cs).2.length ≤ cs.length := by
  unfold NumberText.readSign
  split
  · exact Nat.le_succ _
  · exact Nat.le_succ _
  · exact Nat.le_refl _

theorem skipExponent_of_read {e : Option (Bool × List Nat)}
    (h : NumberText.readExponent cs = .ok (e, rest)) :
    skipExponent cs = .ok rest ∧ rest.length ≤ cs.length := by
  cases cs with
  | nil =>
    obtain ⟨-, rfl⟩ := Prod.mk.inj (Except.ok.inj h)
    exact ⟨rfl, Nat.le_refl _⟩
  | cons c tail =>
    rw [NumberText.readExponent] at h
    split at h
    · next marker =>
      have le := readSign_length tail
      rw [skipExponent, if_pos marker, List.length_cons]
      generalize NumberText.readSign tail = signed at h le ⊢
      obtain ⟨negative, unsigned⟩ := signed
      obtain ⟨⟨digits, after⟩, read, h⟩ := bind_ok h
      obtain ⟨-, rfl⟩ := Prod.mk.inj (Except.ok.inj h)
      obtain ⟨skips, shorter⟩ := skipDigits_of_read read
      dsimp only at le
      exact ⟨skips, by omega⟩
    · next marker =>
      obtain ⟨-, rfl⟩ := Prod.mk.inj (Except.ok.inj h)
      exact ⟨by rw [skipExponent, if_neg marker], Nat.le_refl _⟩

theorem skipNumber_of_read {negative : Bool} {t : NumberText}
    (h : NumberText.read negative cs = .ok (t, rest)) :
    skipNumber cs = .ok rest ∧ rest.length < cs.length := by
  obtain ⟨⟨whole, afterWhole⟩, readWhole, h⟩ := bind_ok h
  obtain ⟨⟨fraction, afterFraction⟩, readFraction, h⟩ := bind_ok h
  obtain ⟨⟨exponent, after⟩, readExponent, h⟩ := bind_ok h
  obtain ⟨-, rfl⟩ := Prod.mk.inj (Except.ok.inj h)
  obtain ⟨skipsWhole, shorter⟩ := skipWhole_of_read readWhole
  obtain ⟨skipsFraction, le⟩ := skipFraction_of_read readFraction
  obtain ⟨skipsExponent, le'⟩ := skipExponent_of_read readExponent
  refine ⟨?_, by omega⟩
  simp [skipNumber, skipsWhole, skipsFraction, skipsExponent, bind, Except.bind]

/-- What is read as a number is the text of one, and is no string. -/
theorem number_ok {negative : Bool} {v : Json} (h : number negative cs = .ok (v, rest)) :
    (∃ t, NumberText.read negative cs = .ok (t, rest)) ∧ ∀ s, v ≠ .string s := by
  obtain ⟨⟨t, after⟩, read, h⟩ := bind_ok h
  change t.value after = .ok (v, rest) at h
  unfold NumberText.value at h
  split at h
  · obtain ⟨rfl, rfl⟩ := Prod.mk.inj (Except.ok.inj h)
    exact ⟨⟨t, read⟩, nofun⟩
  · split at h
    · obtain ⟨rfl, rfl⟩ := Prod.mk.inj (Except.ok.inj h)
      exact ⟨⟨t, read⟩, nofun⟩
    · cases h

theorem skipNumber_of_number {negative : Bool} {v : Json} (h : number negative cs = .ok (v, rest)) :
    skipNumber cs = .ok rest ∧ rest.length < cs.length := by
  obtain ⟨⟨t, read⟩, -⟩ := number_ok h
  exact skipNumber_of_read read

/-! ## Values that are not nested -/

theorem word_ok {w v : Json} {letters : List Char} (h : word w letters cs = .ok (v, rest)) :
    v = w ∧ cs = letters ++ rest := by
  induction letters generalizing cs with
  | nil =>
    obtain ⟨rfl, rfl⟩ := Prod.mk.inj (Except.ok.inj h)
    exact ⟨rfl, rfl⟩
  | cons letter letters ih =>
    cases cs with
    | nil => cases h
    | cons c tail =>
      rw [word] at h
      split at h
      · next same =>
        obtain ⟨value, text⟩ := ih h
        exact ⟨value, by rw [same, text, List.cons_append]⟩
      · cases h

theorem word_length {w v : Json} {letters : List Char} (h : word w letters cs = .ok (v, rest)) :
    rest.length ≤ cs.length := by
  rw [(word_ok h).2, List.length_append]
  exact Nat.le_add_left _ _

theorem skipScalar_of_read {v : Json} (h : scalar cs = .ok (v, rest)) :
    skipScalar cs = .ok rest ∧ rest.length < cs.length := by
  unfold scalar at h
  split at h
  · cases h
  · next tail =>
    exact ⟨by simp [skipScalar, scalar, restOf, h], Nat.lt_succ_of_le (word_length h)⟩
  · next tail =>
    exact ⟨by simp [skipScalar, scalar, restOf, h], Nat.lt_succ_of_le (word_length h)⟩
  · next tail =>
    exact ⟨by simp [skipScalar, scalar, restOf, h], Nat.lt_succ_of_le (word_length h)⟩
  · next tail =>
    obtain ⟨skips, shorter⟩ := skipNumber_of_number h
    exact ⟨skips, Nat.lt_succ_of_lt shorter⟩
  · next tail =>
    split at h
    · next read =>
      obtain ⟨-, rfl⟩ := Prod.mk.inj (Except.ok.inj h)
      obtain ⟨skips, shorter⟩ := skipString_of_read read
      exact ⟨skips, Nat.lt_succ_of_lt shorter⟩
    · cases h
  · next c tail _ _ _ _ _ =>
    split at h
    · next digit =>
      obtain ⟨skips, shorter⟩ := skipNumber_of_number h
      exact ⟨by simp [skipScalar, digit, skips], shorter⟩
    · cases h

/-! ## Keys -/

theorem skipSpace_length (cs : List Char) : (skipSpace cs).length ≤ cs.length :=
  (List.dropWhile_suffix _).length_le

@[simp] theorem skipSpace_skipSpace (cs : List Char) : skipSpace (skipSpace cs) = skipSpace cs :=
  List.dropWhile_idempotent _ cs

theorem passColon_length (h : passColon cs = .ok rest) : rest.length < cs.length := by
  have := skipSpace_length cs
  unfold passColon at h
  split at h
  · cases h
  · next same =>
    obtain rfl := Except.ok.inj h
    rw [same, List.length_cons] at this
    omega
  · cases h

theorem readKey_opening {atEnd : Flaw} {k : String} (h : readKey atEnd cs = .ok (k, rest)) :
    ∃ inside, cs = '"' :: inside ∧ readString inside = .ok (k, rest) := by
  unfold readKey at h
  split at h
  · cases h
  · exact ⟨_, rfl, h⟩
  · cases h

theorem skipKey_of_read {atEnd : Flaw} {k : String} {value : List Char}
    (key : readKey atEnd cs = .ok (k, rest)) (colon : passColon rest = .ok value) :
    skipKey cs = .ok value ∧ value.length < cs.length := by
  obtain ⟨inside, rfl, read⟩ := readKey_opening key
  obtain ⟨skips, shorter⟩ := skipString_of_read read
  have := passColon_length colon
  refine ⟨?_, by rw [List.length_cons]; omega⟩
  simp [skipKey, skipSpace_cons (show isSpace '"' = false from rfl), skips, colon]

end

/-! ## Between two places of a text -/

def Bracket.opening : Bracket → Char
  | .list => '['
  | .object => '{'

/-- What stands between two places of a text is passed over, the brackets in `opened` are closed by
it, and whatever else is open stays open. -/
structure Passed (opened : List Bracket) (cs rest : List Char) : Prop where
  shorter : rest.length < cs.length
  skips (around : List Bracket) (rounds : Nat) (enough : cs.length < rounds) :
    ∃ left, rest.length < left ∧ skipValue rounds (opened ++ around) cs = skipEnd left around rest

section
variable {b : Bracket} {cs inside after behind value rest : List Char}

theorem skipValue_skipSpace (rounds : Nat) (around : List Bracket) (cs : List Char) :
    skipValue rounds around (skipSpace cs) = skipValue rounds around cs := by
  cases rounds with
  | zero => rfl
  | succ rounds => rw [skipValue, skipValue, skipSpace_skipSpace]

theorem skipKey_skipSpace (cs : List Char) : skipKey (skipSpace cs) = skipKey cs := by
  rw [skipKey, skipKey, skipSpace_skipSpace]

theorem skipValue_opening (opens : skipSpace cs = b.opening :: inside) (rounds : Nat)
    (around : List Bracket) :
    skipValue (rounds + 1) around cs =
      match skipSpace inside with
      | [] => .error .truncated
      | c :: rest =>
        if c = b.closing then skipEnd rounds around rest
        else
          match b.skipToValue (c :: rest) with
          | .error refusal => .error refusal
          | .ok rest => skipValue rounds (b :: around) rest := by
  rw [skipValue, opens]
  cases b <;> rfl

/-- Where passing over begins, there is a round left for it. -/
theorem Passed.of_round {opened : List Bracket} (shorter : rest.length < cs.length)
    (skips : ∀ around rounds, cs.length ≤ rounds → ∃ left, rest.length < left ∧
      skipValue (rounds + 1) (opened ++ around) cs = skipEnd left around rest) :
    Passed opened cs rest := by
  refine ⟨shorter, ?_⟩
  intro around rounds enough
  cases rounds with
  | zero => exact absurd enough (Nat.not_lt_zero _)
  | succ rounds => exact skips around rounds (Nat.le_of_lt_succ enough)

/-- A value that is not nested is passed over. -/
theorem Passed.flat (list : ∀ rest, skipSpace cs ≠ '[' :: rest)
    (object : ∀ rest, skipSpace cs ≠ '{' :: rest) (skips : skipScalar (skipSpace cs) = .ok rest)
    (shorter : rest.length < (skipSpace cs).length) : Passed [] cs rest := by
  have le := skipSpace_length cs
  apply Passed.of_round (by omega)
  intro around rounds enough
  refine ⟨rounds, by omega, ?_⟩
  rw [List.nil_append, skipValue]
  split
  · next same => exact absurd same (list _)
  · next same => exact absurd same (object _)
  · rw [skips]

theorem Passed.behind_space {opened : List Bracket} (h : Passed opened (skipSpace cs) rest) :
    Passed opened cs rest := by
  have le := skipSpace_length cs
  refine ⟨by have := h.shorter; omega, ?_⟩
  intro around rounds enough
  obtain ⟨left, more, skips⟩ := h.skips around rounds (by omega)
  exact ⟨left, more, by rw [← skips, skipValue_skipSpace]⟩

/-- A bracket is closed behind a value. -/
theorem Passed.close (h : Passed [] cs after) (closes : skipSpace after = b.closing :: rest) :
    Passed [b] cs rest := by
  have le := skipSpace_length after
  rw [closes, List.length_cons] at le
  have shorter := h.shorter
  refine ⟨by omega, ?_⟩
  intro around rounds enough
  obtain ⟨left, more, skips⟩ := h.skips (b :: around) rounds enough
  obtain ⟨left, rfl⟩ : ∃ less, left = less + 1 := ⟨left - 1, by omega⟩
  refine ⟨left, by omega, skips.trans ?_⟩
  rw [skipEnd, closes]
  cases b <;> rfl

/-- Another value comes behind one. -/
theorem Passed.next (h : Passed [] cs after) (comma : skipSpace after = ',' :: behind)
    (passes : b.skipToValue behind = .ok value) (le : value.length ≤ behind.length)
    (others : Passed [b] value rest) : Passed [b] cs rest := by
  have le' := skipSpace_length after
  rw [comma, List.length_cons] at le'
  have shorter := h.shorter
  have shorter' := others.shorter
  refine ⟨by omega, ?_⟩
  intro around rounds enough
  obtain ⟨left, more, skips⟩ := h.skips (b :: around) rounds enough
  obtain ⟨left, rfl⟩ : ∃ less, left = less + 1 := ⟨left - 1, by omega⟩
  obtain ⟨left', more', skips'⟩ := others.skips around left (by omega)
  refine ⟨left', more', skips.trans (Eq.trans ?_ skips')⟩
  rw [skipEnd, comma]
  simp [passes]

/-- Nothing stands inside a bracket. -/
theorem Passed.empty (opens : skipSpace cs = b.opening :: inside)
    (closes : skipSpace inside = b.closing :: rest) : Passed [] cs rest := by
  have le := skipSpace_length cs
  have le' := skipSpace_length inside
  rw [opens, List.length_cons] at le
  rw [closes, List.length_cons] at le'
  apply Passed.of_round (by omega)
  intro around rounds enough
  refine ⟨rounds, by omega, ?_⟩
  rw [List.nil_append, skipValue_opening opens, closes]
  simp

/-- Values stand inside a bracket. -/
theorem Passed.bracket (opens : skipSpace cs = b.opening :: inside)
    (filled : ∀ rest, skipSpace inside ≠ b.closing :: rest)
    (passes : b.skipToValue (skipSpace inside) = .ok value)
    (le : value.length ≤ (skipSpace inside).length) (values : Passed [b] value rest) :
    Passed [] cs rest := by
  have le' := skipSpace_length cs
  have le'' := skipSpace_length inside
  rw [opens, List.length_cons] at le'
  have shorter := values.shorter
  apply Passed.of_round (by omega)
  intro around rounds enough
  obtain ⟨left, more, skips⟩ := values.skips around rounds (by omega)
  refine ⟨left, more, Eq.trans ?_ skips⟩
  rw [List.nil_append, skipValue_opening opens]
  split
  · next none =>
    rw [none, List.length_nil] at le
    omega
  · next c tail found =>
    have open' : c ≠ b.closing := by
      rintro rfl
      exact filled tail found
    rw [found] at passes
    simp [open', passes]

end

/-! ## What is read -/

theorem readMember_ok {item : List Char → Scan Json} {atEnd : Flaw} {cs rest : List Char}
    {member : String × Json} (h : readMember item atEnd cs = .ok (member, rest)) :
    ∃ behind value, readKey atEnd cs = .ok (member.1, behind) ∧ passColon behind = .ok value ∧
      item value = .ok (member.2, rest) := by
  unfold readMember at h
  split at h
  · cases h
  · next key =>
    split at h
    · cases h
    · next colon =>
      split at h
      · cases h
      · next read =>
        obtain ⟨rfl, rfl⟩ := Prod.mk.inj (Except.ok.inj h)
        exact ⟨_, _, key, colon, read⟩

section
variable {item : List Char → Scan Json} {cs rest : List Char}
  (passes : ∀ {cs v rest}, item cs = .ok (v, rest) → Passed [] cs rest)
include passes

theorem elements_passed {rounds : Nat} {rev items : List Json}
    (h : elements item rounds rev cs = .ok (items, rest)) : Passed [.list] cs rest := by
  induction rounds generalizing rev cs with
  | zero => cases h
  | succ rounds ih =>
    rw [elements] at h
    split at h
    · cases h
    · next read =>
      have first := passes read
      split at h
      · cases h
      · next closes =>
        obtain ⟨-, rfl⟩ := Prod.mk.inj (Except.ok.inj h)
        exact first.close closes
      · next comma =>
        split at h
        · cases h
        · exact first.next comma rfl (Nat.le_refl _) (ih h).behind_space
      · cases h

theorem listTail_passed {rounds : Nat} {items : List Json} {inside : List Char}
    (opens : skipSpace cs = '[' :: inside) (h : listTail item rounds inside = .ok (items, rest)) :
    Passed [] cs rest := by
  unfold listTail at h
  split at h
  · cases h
  · next closes =>
    obtain ⟨-, rfl⟩ := Prod.mk.inj (Except.ok.inj h)
    exact Passed.empty (b := .list) opens closes
  · next filled =>
    exact Passed.bracket (b := .list) opens filled rfl (Nat.le_refl _) (elements_passed passes h)

theorem memberPairs_passed {rounds : Nat} {atEnd : Flaw} {rev pairs : List (String × Json)}
    (h : memberPairs item rounds atEnd rev cs = .ok (pairs, rest)) :
    ∃ value, skipKey cs = .ok value ∧ value.length < cs.length ∧ Passed [.object] value rest := by
  induction rounds generalizing atEnd rev cs with
  | zero => cases h
  | succ rounds ih =>
    rw [memberPairs] at h
    split at h
    · cases h
    · next read =>
      obtain ⟨_, value, key, colon, read⟩ := readMember_ok read
      have first := passes read
      obtain ⟨skips, shorter⟩ := skipKey_of_read key colon
      refine ⟨value, skips, shorter, ?_⟩
      split at h
      · cases h
      · next closes =>
        obtain ⟨-, rfl⟩ := Prod.mk.inj (Except.ok.inj h)
        exact first.close closes
      · next behind comma =>
        split at h
        · cases h
        · obtain ⟨value', skips', shorter', others⟩ := ih h
          rw [skipKey_skipSpace] at skips'
          have := skipSpace_length behind
          exact first.next comma skips' (by omega) others
      · cases h

theorem objectTail_passed {rounds : Nat} {pairs : List (String × Json)} {inside : List Char}
    (opens : skipSpace cs = '{' :: inside) (h : objectTail item rounds inside = .ok (pairs, rest)) :
    Passed [] cs rest := by
  unfold objectTail at h
  split at h
  · next closes =>
    obtain ⟨-, rfl⟩ := Prod.mk.inj (Except.ok.inj h)
    exact Passed.empty (b := .object) opens closes
  · next filled =>
    obtain ⟨value, skips, shorter, values⟩ := memberPairs_passed passes h
    exact Passed.bracket (b := .object) opens filled skips (Nat.le_of_lt shorter) values

end

/-- Every value that is read is passed over. -/
theorem scriptValue_passed {rounds nesting : Nat} {v : Json} {cs rest : List Char}
    (h : scriptValue rounds nesting cs = .ok (v, rest)) : Passed [] cs rest := by
  induction nesting generalizing v cs rest with
  | zero =>
    obtain ⟨inside, list⟩ | ⟨inside, object⟩ | ⟨list, object⟩ := opening_cases (skipSpace cs)
    · simp [scriptValue, list] at h
    · simp [scriptValue, object] at h
    · rw [scriptValue_flat list object] at h
      obtain ⟨skips, shorter⟩ := skipScalar_of_read h
      exact .flat list object skips shorter
  | succ nesting ih =>
    obtain ⟨inside, list⟩ | ⟨inside, object⟩ | ⟨list, object⟩ := opening_cases (skipSpace cs)
    · simp only [scriptValue, list] at h
      split at h
      · next read =>
        obtain ⟨-, rfl⟩ := Prod.mk.inj (Except.ok.inj h)
        exact listTail_passed ih list read
      · cases h
    · simp only [scriptValue, object] at h
      split at h
      · next read =>
        obtain ⟨-, rfl⟩ := Prod.mk.inj (Except.ok.inj h)
        exact objectTail_passed ih object read
      · cases h
    · rw [scriptValue_flat list object] at h
      obtain ⟨skips, shorter⟩ := skipScalar_of_read h
      exact .flat list object skips shorter

/-- What is left when a value is passed over is what is left when it is read. -/
theorem skipValue_of_read {rounds nesting limit : Nat} {v : Json} {cs rest : List Char}
    (h : scriptValue rounds nesting cs = .ok (v, rest)) (enough : cs.length < limit) :
    skipValue limit [] cs = .ok rest := by
  obtain ⟨left, -, skips⟩ := (scriptValue_passed h).skips [] limit enough
  rw [List.append_nil] at skips
  rw [skips]
  cases left <;> rfl

end JobConsole.Json
