import JobConsole.Proofs.Json.Readable

namespace JobConsole.Json

theorem isSpace_of_startsValue {c : Char} (h : startsValue c = true) : isSpace c = false := by
  have other (space : Char) (hs : startsValue space = false) : c ≠ space := by
    rintro rfl
    simp [hs] at h
  simp [isSpace, other ' ' rfl, other '\n' rfl, other '\t' rfl, other '\r' rfl]

@[simp] theorem skipSpace_write (v : Json) (rest : List Char) :
    skipSpace (write v ++ rest) = write v ++ rest := by
  obtain ⟨c, cs, h, starts⟩ := write_head v
  simp [h, skipSpace, isSpace_of_startsValue starts]

theorem skipSpace_cons {c : Char} (h : isSpace c = false) (rest : List Char) :
    skipSpace (c :: rest) = c :: rest := by
  simp [skipSpace, h]

/-- No bracket is closed where a value begins. -/
theorem write_ne_closing (v : Json) (rest cs : List Char) :
    write v ++ rest ≠ ']' :: cs ∧ write v ++ rest ≠ '}' :: cs := by
  obtain ⟨c, cs, h, starts⟩ := write_head v
  rw [h]
  constructor <;>
  · intro same
    obtain ⟨rfl, -⟩ := List.cons.inj same
    cases starts

/-- A reader that reads this value from what is written for it, unless more of a number follows. -/
def ReadsBack (item : List Char → Scan Json) (v : Json) : Prop :=
  ∀ rest, endsNumber rest = true → item (write v ++ rest) = .ok (v, rest)

/-! ## Lists -/

section
variable {item : List Char → Scan Json} {rounds : Nat} {cs rest : List Char} {v w : Json}
  {items : List Json}

theorem elements_end (h : item cs = .ok (v, ']' :: rest)) (rev : List Json) :
    elements item (rounds + 1) rev cs = .ok ((v :: rev).reverse, rest) := by
  simp [elements, h, skipSpace_cons (c := ']') rfl]

theorem elements_more (h : item cs = .ok (v, ',' :: (write w ++ rest))) (rev : List Json) :
    elements item (rounds + 1) rev cs = elements item rounds (v :: rev) (write w ++ rest) := by
  simp only [elements, h, skipSpace_cons (c := ',') rfl, skipSpace_write]
  split
  · next same => exact absurd same (write_ne_closing w rest _).1
  · rfl

/-- Elements are read one after the other from what is written for them. -/
theorem elements_write
    (each : ∀ w ∈ v :: items, ReadsBack item w)
    (enough : items.length < rounds) (rev : List Json) :
    elements item rounds rev (write v ++ (writeItems items ++ rest)) =
      .ok (rev.reverse ++ v :: items, rest) := by
  -- A comma or a bracket follows every element, and neither continues a number.
  induction items generalizing v rounds rev with
  | nil =>
    obtain ⟨rounds, rfl⟩ := Nat.exists_eq_succ_of_ne_zero (Nat.ne_zero_of_lt enough)
    have last := each v List.mem_cons_self (']' :: rest) rfl
    simpa [writeItems] using elements_end last rev
  | cons w items ih =>
    obtain ⟨rounds, rfl⟩ := Nat.exists_eq_succ_of_ne_zero (Nat.ne_zero_of_lt enough)
    obtain ⟨here, later⟩ := List.forall_mem_cons.mp each
    have first := here (',' :: (write w ++ (writeItems items ++ rest))) rfl
    simp only [writeItems, List.cons_append, List.append_assoc]
    rw [elements_more first, ih later (Nat.lt_of_succ_lt_succ enough)]
    simp

theorem length_lt_writeItems (items : List Json) : items.length < (writeItems items).length := by
  induction items with
  | nil => simp [writeItems]
  | cons v items ih => simp only [writeItems, List.length_cons, List.length_append]; omega

theorem length_le_writeItems (h : v ∈ items) : (write v).length ≤ (writeItems items).length := by
  induction items with
  | nil => cases h
  | cons w items ih =>
    simp only [writeItems, List.length_cons, List.length_append]
    cases h with
    | head => omega
    | tail _ h => have := ih h; omega

/-- A list is read from behind its bracket, if it may have as many parts as characters are written
for it. -/
theorem listTail_write
    (each : ∀ w ∈ v :: items, ReadsBack item w)
    (enough : (write (.array (v :: items))).length ≤ rounds) (rest : List Char) :
    listTail item rounds (write v ++ (writeItems items ++ rest)) = .ok (v :: items, rest) := by
  have parts : items.length < rounds := by
    have := length_lt_writeItems items
    simp only [write, List.length_cons, List.length_append] at enough
    omega
  unfold listTail
  rw [skipSpace_write]
  split
  · next same =>
    obtain ⟨c, cs, h, -⟩ := write_head v
    simp [h] at same
  · next same => exact absurd same (write_ne_closing v _ _).1
  · exact elements_write each parts []

end

/-! ## Objects -/

section
variable {item : List Char → Scan Json} {rounds : Nat} {cs rest : List Char} {v : Json}
  {key : String} {members : List (String × Json)} {m : String × Json} {atEnd : Flaw}

def writeMember (m : String × Json) : List Char := writeString m.1 ++ ':' :: write m.2

theorem writeMember_append (m : String × Json) (rest : List Char) :
    writeMember m ++ rest = writeString m.1 ++ (':' :: (write m.2 ++ rest)) := by
  simp [writeMember]

theorem readMember_write (h : item (write m.2 ++ rest) = .ok (m.2, rest)) (atEnd : Flaw) :
    readMember item atEnd (writeMember m ++ rest) = .ok (m, rest) := by
  have key : readKey atEnd (writeMember m ++ rest) = .ok (m.1, ':' :: (write m.2 ++ rest)) := by
    rw [writeMember_append]
    exact readString_writeString m.1 _
  simp [readMember, key, passColon, skipSpace_cons (c := ':') rfl, h]

theorem skipSpace_writeMember (m : String × Json) (rest : List Char) :
    skipSpace (writeMember m ++ rest) = writeMember m ++ rest :=
  skipSpace_cons (c := '"') rfl _

theorem memberPairs_end (h : readMember item atEnd cs = .ok (m, '}' :: rest))
    (rev : List (String × Json)) :
    memberPairs item (rounds + 1) atEnd rev cs = .ok ((m :: rev).reverse, rest) := by
  simp [memberPairs, h, skipSpace_cons (c := '}') rfl]

theorem memberPairs_more {next : String × Json}
    (h : readMember item atEnd cs = .ok (m, ',' :: (writeMember next ++ rest)))
    (rev : List (String × Json)) :
    memberPairs item (rounds + 1) atEnd rev cs =
      memberPairs item rounds .endInValue (m :: rev) (writeMember next ++ rest) := by
  simp only [memberPairs, h, skipSpace_cons (c := ',') rfl, skipSpace_writeMember]
  split
  · next same => cases same
  · rfl

theorem writeMembers_cons (m : String × Json) (members : List (String × Json)) :
    writeMembers (m :: members) = ',' :: (writeMember m ++ writeMembers members) := by
  simp [writeMembers, writeMember]

/-- Members are read one after the other from what is written for them. -/
theorem memberPairs_write
    (each : ∀ w ∈ m :: members, ReadsBack item w.2)
    (enough : members.length < rounds) (atEnd : Flaw) (rev : List (String × Json)) :
    memberPairs item rounds atEnd rev (writeMember m ++ (writeMembers members ++ rest)) =
      .ok (rev.reverse ++ m :: members, rest) := by
  induction members generalizing m rounds atEnd rev with
  | nil =>
    obtain ⟨rounds, rfl⟩ := Nat.exists_eq_succ_of_ne_zero (Nat.ne_zero_of_lt enough)
    have last := readMember_write (each m List.mem_cons_self ('}' :: rest) rfl) atEnd
    simpa [writeMembers] using memberPairs_end last rev
  | cons next members ih =>
    obtain ⟨rounds, rfl⟩ := Nat.exists_eq_succ_of_ne_zero (Nat.ne_zero_of_lt enough)
    obtain ⟨here, later⟩ := List.forall_mem_cons.mp each
    have first := readMember_write
      (here (',' :: (writeMember next ++ (writeMembers members ++ rest))) rfl) atEnd
    simp only [writeMembers_cons, List.cons_append, List.append_assoc]
    rw [memberPairs_more first, ih later (Nat.lt_of_succ_lt_succ enough)]
    simp

theorem length_lt_writeMembers (members : List (String × Json)) :
    members.length < (writeMembers members).length := by
  induction members with
  | nil => simp [writeMembers]
  | cons m members ih =>
    simp only [writeMembers_cons, List.length_cons, List.length_append]; omega

theorem length_le_writeMembers (h : m ∈ members) :
    (write m.2).length ≤ (writeMembers members).length := by
  induction members with
  | nil => cases h
  | cons w members ih =>
    simp only [writeMembers_cons, writeMember, List.length_cons, List.length_append]
    cases h with
    | head => omega
    | tail _ h => have := ih h; omega

theorem write_object_cons (m : String × Json) (members : List (String × Json)) :
    write (.object (m :: members)) = '{' :: (writeMember m ++ writeMembers members) := by
  simp [write, writeMember]

/-- An object's members are read from behind its brace, if it may have as many as characters are
written for it. -/
theorem objectTail_write
    (each : ∀ w ∈ m :: members, ReadsBack item w.2)
    (enough : (write (.object (m :: members))).length ≤ rounds) (rest : List Char) :
    objectTail item rounds (writeMember m ++ (writeMembers members ++ rest)) =
      .ok (m :: members, rest) := by
  have parts : members.length < rounds := by
    have := length_lt_writeMembers members
    simp only [write_object_cons, List.length_cons, List.length_append] at enough
    omega
  unfold objectTail
  rw [skipSpace_writeMember]
  split
  · next same => cases same
  · exact memberPairs_write each parts _ []

end

/-- Members with distinct keys are left as they are when they are set one after the other. -/
theorem membersOf_eq_self {members : List (String × Json)} (h : DistinctKeys members) :
    membersOf members = members := by
  have setNew (before : List (String × Json)) (m : String × Json)
      (fresh : m.1 ∉ before.map (·.1)) : setMember before m.1 m.2 = before ++ [m] := by
    induction before with
    | nil => rfl
    | cons b before ih =>
      rw [List.map_cons, List.mem_cons, not_or] at fresh
      simp [setMember, Ne.symm fresh.1, ih fresh.2]
  have step (after before : List (String × Json)) (distinct : DistinctKeys (before ++ after)) :
      after.foldl (fun members pair => setMember members pair.1 pair.2) before =
        before ++ after := by
    induction after generalizing before with
    | nil => simp
    | cons m after ih =>
      have fresh : m.1 ∉ before.map (·.1) := by
        intro old
        rw [DistinctKeys, List.map_append, List.map_cons] at distinct
        exact (List.nodup_append.mp distinct).2.2 _ old _ List.mem_cons_self rfl
      rw [List.foldl_cons, setNew before m fresh, ih _ (by simpa using distinct)]
      simp
  exact step members [] h

/-! ## Values -/

section
variable {nesting rounds : Nat} {v : Json} {rest : List Char}

theorem value_scalar {c : Char} (space : isSpace c = false) (list : c ≠ '[') (object : c ≠ '{')
    (cs : List Char) : value rounds nesting (c :: cs) = scalar (c :: cs) := by
  cases nesting <;> simp [value, skipSpace_cons space, list, object]

/-- A value without floats is read from what is written for it, at a depth at which it can be read
and if as many parts are read as characters are written for it. -/
theorem value_write (h : Readable nesting v) (noFloat : v.hasFloat = false)
    (enough : (write v).length ≤ rounds) : ReadsBack (value rounds nesting) v := by
  -- What is nested in a value is read one level down, which is where it can be read by hypothesis.
  induction h with
  | null =>
    intro rest _
    exact value_scalar rfl (by decide) (by decide) _
  | bool b =>
    intro rest _
    cases b <;> exact value_scalar rfl (by decide) (by decide) _
  | string s =>
    intro rest _
    rw [write, writeString, List.cons_append, value_scalar rfl (by decide) (by decide)]
    simp only [scalar, readString_writeString]
  | float => cases noFloat
  | @integer nesting n fits =>
    intro rest ends
    obtain ⟨c, cs, written, first⟩ := writeInteger_head n
    have read := scalar_writeInteger fits ends
    have other (bracket : Char) (hb : bracket.isDigit = false) (hm : bracket ≠ '-') :
        c ≠ bracket := by
      rintro rfl
      obtain minus | digit := first
      · exact hm minus
      · simp [hb] at digit
    rw [write, written, List.cons_append] at *
    rw [value_scalar _ (other '[' rfl (by decide)) (other '{' rfl (by decide))]
    · exact read
    · apply isSpace_of_startsValue
      obtain rfl | digit := first
      · rfl
      · exact startsValue_of_isDigit digit
  | @array nesting items each ih =>
    intro rest _
    cases items with
    | nil => rfl
    | cons v items =>
      have within (w : Json) (hw : w ∈ v :: items) : (write w).length ≤ rounds := by
        simp only [write, List.length_cons, List.length_append] at enough
        obtain rfl | later := List.mem_cons.mp hw
        · omega
        · have := length_le_writeItems later; omega
      have each : ∀ w ∈ v :: items, ReadsBack (value rounds nesting) w := by
        intro w hw
        exact ih w hw (anyFloat_eq_false.mp noFloat w hw) (within w hw)
      have read := listTail_write each enough rest
      simp [write, value, skipSpace_cons (c := '[') rfl, read]
  | @object nesting members distinct each ih =>
    intro rest _
    cases members with
    | nil => rfl
    | cons m members =>
      have within (w : String × Json) (hw : w ∈ m :: members) : (write w.2).length ≤ rounds := by
        simp only [write_object_cons, writeMember, List.length_cons, List.length_append] at enough
        obtain rfl | later := List.mem_cons.mp hw
        · omega
        · have := length_le_writeMembers later; omega
      have each : ∀ w ∈ m :: members, ReadsBack (value rounds nesting) w.2 := by
        intro w hw
        exact ih w hw (anyMemberFloat_eq_false.mp noFloat w hw) (within w hw)
      have read := objectTail_write each enough rest
      simp [write_object_cons, value, skipSpace_cons (c := '{') rfl, read,
        membersOf_eq_self distinct]

/-- A value without floats that can be read is the value of its text. -/
theorem parse_render (h : Readable maxNesting v) (noFloat : v.hasFloat = false) :
    parse v.render = .ok v := by
  have read := value_write h noFloat (Nat.le_refl _) [] rfl
  rw [List.append_nil] at read
  simp [parse, document, render, read, skipSpace]

end

end JobConsole.Json
