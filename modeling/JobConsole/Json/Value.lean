import JobConsole.Number.Magnitude

/-!
# JSON values

Values keep the members of an object in order. An integer is exact; every other number is a signed
magnitude of double precision.
-/

namespace JobConsole

inductive Json
  | null
  | bool (value : Bool)
  | integer (value : Int)
  | float (negative : Bool) (magnitude : Magnitude)
  | string (value : String)
  | array (items : List Json)
  | object (members : List (String × Json))
  deriving Inhabited, Repr, BEq

namespace Json

/-- The value of the member with this key, in an object that has one. -/
def get? (key : String) : Json → Option Json
  | .object members => members.lookup key
  | _ => none

def string? : Json → Option String
  | .string s => some s
  | _ => none

def isObject : Json → Bool
  | .object _ => true
  | _ => false

/-- The members with `key` set to `value`: in its old place where the key is there already, else at
the end. -/
def setMember (members : List (String × Json)) (key : String) (value : Json) :
    List (String × Json) :=
  match members with
  | [] => [(key, value)]
  | (k, v) :: rest => if k = key then (k, value) :: rest else (k, v) :: setMember rest key value

/-- The members that a list of pairs leaves when they are set one after the other. -/
def membersOf (pairs : List (String × Json)) : List (String × Json) :=
  pairs.foldl (fun members pair => setMember members pair.1 pair.2) []

theorem lookup_setMember (members : List (String × Json)) (key k : String) (value : Json) :
    (setMember members key value).lookup k = if k = key then some value else members.lookup k := by
  induction members with
  | nil =>
    by_cases h : k = key
    · simp [setMember, h]
    · simp [setMember, List.lookup_cons, h, beq_eq_false_iff_ne.mpr h]
  | cons m rest ih =>
    obtain ⟨k', v⟩ := m
    by_cases hk : k' = key
    · subst hk
      by_cases h : k = k'
      · simp [setMember, h]
      · simp [setMember, List.lookup_cons, h, beq_eq_false_iff_ne.mpr h]
    · by_cases h : k = k'
      · subst h; simp [setMember, hk]
      · simp [setMember, hk, List.lookup_cons, beq_eq_false_iff_ne.mpr h, ih]

def DistinctKeys (members : List (String × Json)) : Prop := (members.map (·.1)).Nodup

/-- A key that is there already stays where it is, and another one comes last. -/
theorem keys_setMember (members : List (String × Json)) (key : String) (value : Json) :
    (setMember members key value).map (·.1) =
      if key ∈ members.map (·.1) then members.map (·.1) else members.map (·.1) ++ [key] := by
  induction members with
  | nil => simp [setMember]
  | cons m rest ih =>
    obtain ⟨k, v⟩ := m
    by_cases hk : k = key
    · simp [setMember, hk]
    · simp only [setMember, hk, if_false, List.map_cons, List.mem_cons, Ne.symm hk, false_or, ih]
      split <;> simp

theorem distinctKeys_setMember {members : List (String × Json)} (h : DistinctKeys members)
    (key : String) (value : Json) : DistinctKeys (setMember members key value) := by
  rw [DistinctKeys, keys_setMember]
  split
  · exact h
  · next absent =>
    refine List.nodup_append.mpr ⟨h, by simp, ?_⟩
    intro k hk k' hk' same
    rw [List.mem_singleton] at hk'
    exact absent (hk' ▸ same ▸ hk)

/-- Setting members one after the other gives distinct keys, whichever keys come twice. -/
theorem distinctKeys_membersOf (pairs : List (String × Json)) : DistinctKeys (membersOf pairs) := by
  have step (pairs members : List (String × Json)) (h : DistinctKeys members) :
      DistinctKeys (pairs.foldl (fun members pair => setMember members pair.1 pair.2) members) := by
    induction pairs generalizing members with
    | nil => exact h
    | cons pair rest ih => exact ih _ (distinctKeys_setMember h pair.1 pair.2)
  exact step pairs [] List.nodup_nil

end Json

end JobConsole
