import JobConsole.Proofs.Json.Literals

namespace JobConsole.Json

mutual
def hasFloat : Json → Bool
  | .null | .bool _ | .integer _ | .string _ => false
  | .float _ _ => true
  | .array items => anyFloat items
  | .object members => anyMemberFloat members

def anyFloat : List Json → Bool
  | [] => false
  | v :: items => hasFloat v || anyFloat items

def anyMemberFloat : List (String × Json) → Bool
  | [] => false
  | (_, v) :: members => hasFloat v || anyMemberFloat members
end

theorem anyFloat_eq_false {items : List Json} :
    anyFloat items = false ↔ ∀ v ∈ items, hasFloat v = false := by
  induction items with
  | nil => simp [anyFloat]
  | cons v items ih => simp [anyFloat, ih]

theorem anyMemberFloat_eq_false {members : List (String × Json)} :
    anyMemberFloat members = false ↔ ∀ m ∈ members, hasFloat m.2 = false := by
  induction members with
  | nil => simp [anyMemberFloat]
  | cons m members ih => simp only [anyMemberFloat, Bool.or_eq_false_iff, ih, List.forall_mem_cons]

/-- The values that can be read where lists and objects may be nested so deep. -/
inductive Readable : (nesting : Nat) → Json → Prop
  | null {nesting : Nat} : Readable nesting .null
  | bool {nesting : Nat} (b : Bool) : Readable nesting (.bool b)
  | integer {nesting : Nat} {n : Int} (fits : Fits n) : Readable nesting (.integer n)
  | float {nesting : Nat} (negative : Bool) (x : Magnitude) : Readable nesting (.float negative x)
  | string {nesting : Nat} (s : String) : Readable nesting (.string s)
  | array {nesting : Nat} {items : List Json} (each : ∀ v ∈ items, Readable nesting v) :
      Readable (nesting + 1) (.array items)
  | object {nesting : Nat} {members : List (String × Json)} (distinct : DistinctKeys members)
      (each : ∀ m ∈ members, Readable nesting m.2) : Readable (nesting + 1) (.object members)

/-! ## Scalars -/

section
variable {v : Json} {cs rest : List Char} {nesting : Nat}

theorem word_readable {w : Json} {letters : List Char} (readable : Readable nesting w)
    (h : word w letters cs = .ok (v, rest)) : Readable nesting v := by
  induction letters generalizing cs with
  | nil => obtain ⟨rfl, -⟩ := Prod.mk.inj (Except.ok.inj h); exact readable
  | cons letter letters ih =>
    cases cs with
    | nil => cases h
    | cons c cs =>
      rw [word] at h
      split at h
      · exact ih h
      · cases h

theorem readWithin_le {limit n : Nat} (within : n ≤ limit) (ds : List Nat) :
    (readWithin limit n ds).1 ≤ limit := by
  induction ds generalizing n with
  | nil => exact within
  | cons d ds ih =>
    rw [readWithin]
    split
    · next next => exact ih next
    · exact within

theorem integer_fits {t : NumberText} {n : Int} (h : t.integer? = some n) : Fits n := by
  have within := readWithin_le (Nat.zero_le maxUnsigned) t.whole
  unfold NumberText.integer? at h
  split at h
  · generalize readWithin maxUnsigned 0 t.whole = digits at h within
    obtain ⟨k, dropped⟩ := digits
    by_cases whole : dropped = []
    · by_cases negative : t.negative = true
      · by_cases bounds : k ≠ 0 ∧ k ≤ maxNegative
        · obtain rfl : -(k : Int) = n := by simpa [whole, negative, bounds] using h
          simp only [Fits, maxNegative, maxUnsigned] at bounds ⊢
          omega
        · simp [whole, negative, bounds] at h
      · obtain rfl : (k : Int) = n := by simpa [whole, negative] using h
        simp only [Fits, maxNegative, maxUnsigned] at within ⊢
        omega
    · simp [whole] at h
  · cases h

theorem number_readable {negative : Bool} (h : number negative cs = .ok (v, rest)) :
    Readable nesting v := by
  cases hr : NumberText.read negative cs with
  | error fault => simp [number, hr, bind, Except.bind] at h
  | ok parts =>
    obtain ⟨t, after⟩ := parts
    replace h : t.value after = .ok (v, rest) := by simpa [number, hr, bind, Except.bind] using h
    unfold NumberText.value at h
    split at h
    · next n hn =>
      obtain ⟨rfl, -⟩ := Prod.mk.inj (Except.ok.inj h)
      exact .integer (integer_fits hn)
    · split at h
      · obtain ⟨rfl, -⟩ := Prod.mk.inj (Except.ok.inj h)
        exact .float _ _
      · cases h

theorem scalar_readable (h : scalar cs = .ok (v, rest)) : Readable nesting v := by
  unfold scalar at h
  split at h
  · cases h
  · exact word_readable .null h
  · exact word_readable (.bool true) h
  · exact word_readable (.bool false) h
  · exact number_readable h
  · split at h
    · obtain ⟨rfl, -⟩ := Prod.mk.inj (Except.ok.inj h)
      exact .string _
    · cases h
  · split at h
    · exact number_readable h
    · cases h

/-! ## Lists and objects -/

section
variable {item : List Char → Scan Json} {P : Json → Prop}
  (each : ∀ {cs v rest}, item cs = .ok (v, rest) → P v)
include each

theorem elements_forall {rounds : Nat} {rev items : List Json}
    (h : elements item rounds rev cs = .ok (items, rest)) (earlier : ∀ v ∈ rev, P v) :
    ∀ v ∈ items, P v := by
  induction rounds generalizing rev cs with
  | zero => cases h
  | succ rounds ih =>
    rw [elements] at h
    split at h
    · cases h
    · next v after hv =>
      have all : ∀ w ∈ v :: rev, P w := List.forall_mem_cons.mpr ⟨each hv, earlier⟩
      split at h
      · cases h
      · obtain ⟨rfl, -⟩ := Prod.mk.inj (Except.ok.inj h)
        intro w hw
        exact all w (List.mem_reverse.mp hw)
      · split at h
        · cases h
        · exact ih h all
      · cases h

theorem listTail_forall {rounds : Nat} {items : List Json}
    (h : listTail item rounds cs = .ok (items, rest)) : ∀ v ∈ items, P v := by
  unfold listTail at h
  split at h
  · cases h
  · obtain ⟨rfl, -⟩ := Prod.mk.inj (Except.ok.inj h)
    simp
  · exact elements_forall each h (by simp)

theorem readMember_forall {atEnd : Flaw} {m : String × Json}
    (h : readMember item atEnd cs = .ok (m, rest)) : P m.2 := by
  unfold readMember at h
  split at h
  · cases h
  · split at h
    · cases h
    · split at h
      · cases h
      · next hv =>
        obtain ⟨rfl, -⟩ := Prod.mk.inj (Except.ok.inj h)
        exact each hv

theorem memberPairs_forall {rounds : Nat} {atEnd : Flaw} {rev members : List (String × Json)}
    (h : memberPairs item rounds atEnd rev cs = .ok (members, rest)) (earlier : ∀ m ∈ rev, P m.2) :
    ∀ m ∈ members, P m.2 := by
  induction rounds generalizing atEnd rev cs with
  | zero => cases h
  | succ rounds ih =>
    rw [memberPairs] at h
    split at h
    · cases h
    · next m after hm =>
      have all : ∀ w ∈ m :: rev, P w.2 :=
        List.forall_mem_cons.mpr ⟨readMember_forall each hm, earlier⟩
      split at h
      · cases h
      · obtain ⟨rfl, -⟩ := Prod.mk.inj (Except.ok.inj h)
        intro w hw
        exact all w (List.mem_reverse.mp hw)
      · split at h
        · cases h
        · exact ih h all
      · cases h

theorem objectTail_forall {rounds : Nat} {members : List (String × Json)}
    (h : objectTail item rounds cs = .ok (members, rest)) : ∀ m ∈ members, P m.2 := by
  unfold objectTail at h
  split at h
  · obtain ⟨rfl, -⟩ := Prod.mk.inj (Except.ok.inj h)
    simp
  · exact memberPairs_forall each h (by simp)

end

theorem setMember_forall {P : Json → Prop} {members : List (String × Json)} {key : String}
    {value : Json} (h : ∀ m ∈ members, P m.2) (hv : P value) :
    ∀ m ∈ setMember members key value, P m.2 := by
  induction members with
  | nil => simpa [setMember] using hv
  | cons m members ih =>
    obtain ⟨here, later⟩ := List.forall_mem_cons.mp h
    rw [setMember]
    split
    · exact List.forall_mem_cons.mpr ⟨hv, later⟩
    · exact List.forall_mem_cons.mpr ⟨here, ih later⟩

/-- Setting members keeps only values that were among them. -/
theorem membersOf_forall {P : Json → Prop} {pairs : List (String × Json)}
    (h : ∀ m ∈ pairs, P m.2) : ∀ m ∈ membersOf pairs, P m.2 := by
  have step (pairs members : List (String × Json)) (earlier : ∀ m ∈ members, P m.2)
      (later : ∀ m ∈ pairs, P m.2) :
      ∀ m ∈ pairs.foldl (fun members pair => setMember members pair.1 pair.2) members, P m.2 := by
    induction pairs generalizing members with
    | nil => exact earlier
    | cons pair pairs ih =>
      obtain ⟨here, rest⟩ := List.forall_mem_cons.mp later
      exact ih _ (setMember_forall earlier here) rest
  exact step pairs [] (by simp) h

/-- A value that is read is one that can be read at this depth. -/
theorem value_readable {rounds : Nat} (h : value rounds nesting cs = .ok (v, rest)) :
    Readable nesting v := by
  induction nesting generalizing cs v rest with
  | zero =>
    rw [value] at h
    split at h
    · cases h
    · cases h
    · exact scalar_readable h
  | succ nesting ih =>
    rw [value] at h
    split at h
    · split at h
      · next items after hl =>
        obtain ⟨rfl, -⟩ := Prod.mk.inj (Except.ok.inj h)
        exact .array (listTail_forall ih hl)
      · cases h
    · split at h
      · next pairs after ho =>
        obtain ⟨rfl, -⟩ := Prod.mk.inj (Except.ok.inj h)
        exact .object (distinctKeys_membersOf pairs) (membersOf_forall (objectTail_forall ih ho))
      · cases h
    · exact scalar_readable h

end

theorem parse_readable {text : String} {v : Json} (h : parse text = .ok v) :
    Readable maxNesting v := by
  unfold parse at h
  split at h
  · next w hd =>
    obtain rfl := Except.ok.inj h
    unfold document at hd
    split at hd
    · cases hd
    · next read =>
      split at hd
      · obtain rfl := Except.ok.inj hd
        exact value_readable read
      · cases hd
  · cases h

end JobConsole.Json
