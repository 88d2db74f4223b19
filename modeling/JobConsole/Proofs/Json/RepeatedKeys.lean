import JobConsole.Proofs.Json.Readable

namespace JobConsole.Json

/-! ## The last member of a key -/

def last? (key : String) : Json → Option Json
  | .object pairs => pairs.reverse.lookup key
  | _ => none

theorem lookup_membersOf (pairs : List (String × Json)) (key : String) :
    (membersOf pairs).lookup key = pairs.reverse.lookup key := by
  have step (pairs members : List (String × Json)) :
      (pairs.foldl (fun members pair => setMember members pair.1 pair.2) members).lookup key =
        (pairs.reverse.lookup key).or (members.lookup key) := by
    induction pairs generalizing members with
    | nil => rfl
    | cons pair pairs ih =>
      obtain ⟨k, v⟩ := pair
      rw [List.foldl_cons, ih, lookup_setMember, List.reverse_cons, List.lookup_append,
        Option.or_assoc]
      by_cases same : key = k
      · simp [same]
      · simp [same, List.lookup_cons, beq_eq_false_iff_ne.mpr same]
  rw [membersOf, step, List.lookup_nil, Option.or_none]

/-! ## What is meant -/

mutual
/-- The value that is meant by one whose objects may have keys more than once. -/
def resolve : Json → Json
  | .array items => .array (resolveItems items)
  | .object pairs => .object (membersOf (resolvePairs pairs))
  | .null => .null
  | .bool b => .bool b
  | .integer n => .integer n
  | .float negative x => .float negative x
  | .string s => .string s

def resolveItems : List Json → List Json
  | [] => []
  | v :: items => resolve v :: resolveItems items

def resolvePairs : List (String × Json) → List (String × Json)
  | [] => []
  | (key, v) :: pairs => (key, resolve v) :: resolvePairs pairs
end

theorem resolveItems_eq_map (items : List Json) : resolveItems items = items.map resolve := by
  induction items with
  | nil => rfl
  | cons v items ih => rw [resolveItems, ih, List.map_cons]

def resolvePair (pair : String × Json) : String × Json := (pair.1, resolve pair.2)

theorem resolvePairs_eq_map (pairs : List (String × Json)) :
    resolvePairs pairs = pairs.map resolvePair := by
  induction pairs with
  | nil => rfl
  | cons pair pairs ih => rw [resolvePairs, ih, List.map_cons, resolvePair]

theorem lookup_resolvePair (pairs : List (String × Json)) (key : String) :
    (pairs.map resolvePair).lookup key = (pairs.lookup key).map resolve := by
  induction pairs with
  | nil => rfl
  | cons pair pairs ih =>
    obtain ⟨k, v⟩ := pair
    by_cases same : key = k
    · simp [resolvePair, same]
    · simp [resolvePair, List.lookup_cons, beq_eq_false_iff_ne.mpr same, ih]

theorem get?_resolve (written : Json) (key : String) :
    written.resolve.get? key = (written.last? key).map resolve := by
  cases written with
  | object pairs =>
    simp only [resolve, get?, last?]
    rw [lookup_membersOf, resolvePairs_eq_map, ← List.map_reverse, lookup_resolvePair]
  | null | bool | integer | float | string | array => rfl

/-- What is found in a value under some keys, one inside the other. -/
def follow (member : String → Json → Option Json) : (path : List String) → Json → Option Json
  | [], v => some v
  | key :: path, v => (member key v).bind (follow member path)

theorem follow_resolve (path : List String) (written : Json) :
    written.resolve.follow get? path = (written.follow last? path).map resolve := by
  induction path generalizing written with
  | nil => rfl
  | cons key path ih =>
    simp only [follow, get?_resolve]
    cases written.last? key with
    | none => rfl
    | some v => exact ih v

/-! ## What stands in a text -/

/-- Reads one value, as `value` does, with all members of its objects as they are written. -/
def scriptValue (rounds : Nat) : (nesting : Nat) → List Char → Scan Json
  | 0, cs =>
    match skipSpace cs with
    | '[' :: rest => .error (.ahead .nestingLimit ('[' :: rest))
    | '{' :: rest => .error (.ahead .nestingLimit ('{' :: rest))
    | cs => scalar cs
  | nesting + 1, cs =>
    match skipSpace cs with
    | '[' :: rest =>
      match listTail (scriptValue rounds nesting) rounds rest with
      | .ok (items, rest) => .ok (.array items, rest)
      | .error fault => .error fault
    | '{' :: rest =>
      match objectTail (scriptValue rounds nesting) rounds rest with
      | .ok (pairs, rest) => .ok (.object pairs, rest)
      | .error fault => .error fault
    | cs => scalar cs

/-- What stands in a JSON text. -/
def script (text : String) : Option Json :=
  match scriptValue text.toList.length maxNesting text.toList with
  | .ok (written, rest) => if skipSpace rest = [] then some written else none
  | .error _ => none

/-- A result of reading with another value in it. -/
def Scan.convert {α β : Type} (f : α → β) (scan : Scan α) : Scan β := scan.map (Prod.map f id)

/-- Values that are not nested mean what they are. -/
theorem resolve_scalar {cs rest : List Char} {v : Json} (h : scalar cs = .ok (v, rest)) :
    v.resolve = v := by
  have flat : Readable 0 v := scalar_readable h
  cases flat <;> rfl

theorem convert_scalar (cs : List Char) : (scalar cs).convert resolve = scalar cs := by
  cases h : scalar cs with
  | error fault => rfl
  | ok found =>
    obtain ⟨v, rest⟩ := found
    simp only [Scan.convert, Except.map, Prod.map_apply, id, resolve_scalar h]

section
variable {item written : List Char → Scan Json}
  (reads : ∀ cs, item cs = (written cs).convert resolve)
include reads

theorem elements_convert (rounds : Nat) (rev : List Json) (cs : List Char) :
    elements item rounds (rev.map resolve) cs =
      (elements written rounds rev cs).convert (List.map resolve) := by
  induction rounds generalizing rev cs with
  | zero => rfl
  | succ rounds ih =>
    rw [elements, elements, reads]
    cases written cs with
    | error fault => rfl
    | ok found =>
      obtain ⟨v, rest⟩ := found
      simp only [Scan.convert, Except.map, Prod.map_apply, id]
      split
      · rfl
      · simp
      · split
        · rfl
        · exact ih (v :: rev) _
      · rfl

theorem listTail_convert (rounds : Nat) (cs : List Char) :
    listTail item rounds cs = (listTail written rounds cs).convert (List.map resolve) := by
  unfold listTail
  split
  · rfl
  · rfl
  · exact elements_convert reads rounds [] _

theorem readMember_convert (atEnd : Flaw) (cs : List Char) :
    readMember item atEnd cs = (readMember written atEnd cs).convert resolvePair := by
  unfold readMember
  split
  · rfl
  · split
    · rfl
    · rw [reads]
      next rest _ =>
      cases written rest <;> rfl

theorem memberPairs_convert (rounds : Nat) (atEnd : Flaw) (rev : List (String × Json))
    (cs : List Char) :
    memberPairs item rounds atEnd (rev.map resolvePair) cs =
      (memberPairs written rounds atEnd rev cs).convert (List.map resolvePair) := by
  induction rounds generalizing atEnd rev cs with
  | zero => rfl
  | succ rounds ih =>
    rw [memberPairs, memberPairs, readMember_convert reads]
    cases readMember written atEnd cs with
    | error fault => rfl
    | ok found =>
      obtain ⟨pair, rest⟩ := found
      simp only [Scan.convert, Except.map, Prod.map_apply, id]
      split
      · rfl
      · simp
      · split
        · rfl
        · exact ih .endInValue (pair :: rev) _
      · rfl

theorem objectTail_convert (rounds : Nat) (cs : List Char) :
    objectTail item rounds cs = (objectTail written rounds cs).convert (List.map resolvePair) := by
  unfold objectTail
  split
  · rfl
  · exact memberPairs_convert reads rounds .endInObject [] _

end

/-- A text begins with a list, with an object, or with neither. -/
theorem opening_cases (cs : List Char) :
    (∃ rest, cs = '[' :: rest) ∨ (∃ rest, cs = '{' :: rest) ∨
      ((∀ rest, cs ≠ '[' :: rest) ∧ ∀ rest, cs ≠ '{' :: rest) := by
  by_cases list : ∃ rest, cs = '[' :: rest
  · exact .inl list
  · by_cases object : ∃ rest, cs = '{' :: rest
    · exact .inr (.inl object)
    · exact .inr (.inr ⟨not_exists.mp list, not_exists.mp object⟩)

section
variable {rounds nesting : Nat} {cs : List Char}
  (list : ∀ rest, skipSpace cs ≠ '[' :: rest) (object : ∀ rest, skipSpace cs ≠ '{' :: rest)
include list object

theorem value_flat : value rounds nesting cs = scalar (skipSpace cs) := by
  cases nesting with
  | zero | succ =>
    rw [value]
    split
    · next same => exact absurd same (list _)
    · next same => exact absurd same (object _)
    · rfl

theorem scriptValue_flat : scriptValue rounds nesting cs = scalar (skipSpace cs) := by
  cases nesting with
  | zero | succ =>
    rw [scriptValue]
    split
    · next same => exact absurd same (list _)
    · next same => exact absurd same (object _)
    · rfl

end

theorem value_eq_convert (rounds nesting : Nat) (cs : List Char) :
    value rounds nesting cs = (scriptValue rounds nesting cs).convert resolve := by
  induction nesting generalizing cs with
  | zero =>
    obtain ⟨rest, list⟩ | ⟨rest, object⟩ | ⟨list, object⟩ := opening_cases (skipSpace cs)
    · simp only [value, scriptValue, list]
      rfl
    · simp only [value, scriptValue, object]
      rfl
    · rw [value_flat list object, scriptValue_flat list object, convert_scalar]
  | succ nesting ih =>
    obtain ⟨rest, list⟩ | ⟨rest, object⟩ | ⟨list, object⟩ := opening_cases (skipSpace cs)
    · simp only [value, scriptValue, list, listTail_convert ih]
      cases listTail (scriptValue rounds nesting) rounds rest with
      | error fault => rfl
      | ok found => simp [Scan.convert, Except.map, resolve, resolveItems_eq_map]
    · simp only [value, scriptValue, object, objectTail_convert ih]
      cases objectTail (scriptValue rounds nesting) rounds rest with
      | error fault => rfl
      | ok found => simp [Scan.convert, Except.map, resolve, resolvePairs_eq_map]
    · rw [value_flat list object, scriptValue_flat list object, convert_scalar]

/-- The value of a text is the one that is meant by what stands in it. -/
theorem parse_eq_resolve (text : String) : (parse text).toOption = (script text).map resolve := by
  unfold parse document script
  rw [value_eq_convert]
  cases scriptValue text.toList.length maxNesting text.toList with
  | error fault => rfl
  | ok found =>
    obtain ⟨written, rest⟩ := found
    simp only [Scan.convert, Except.map, Prod.map_apply, id]
    cases skipSpace rest <;> rfl

end JobConsole.Json
