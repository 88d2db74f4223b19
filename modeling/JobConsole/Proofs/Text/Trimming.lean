import JobConsole.Text.Blank

namespace JobConsole

/-- Characters that neither begin nor end with a blank. -/
structure Tight (cs : List Char) : Prop where
  head : ∀ c, cs.head? = some c → isBlank c = false
  last : ∀ c, cs.getLast? = some c → isBlank c = false

/-- A text as characters with blanks around them. -/
def Surrounded (text inner : List Char) : Prop :=
  ∃ front back, text = front ++ inner ++ back ∧ (∀ c ∈ front, isBlank c = true) ∧
    ∀ c ∈ back, isBlank c = true

theorem head?_dropBlanks {cs : List Char} {c : Char} (h : (dropBlanks cs).head? = some c) :
    isBlank c = false := by
  have := List.head?_dropWhile_not isBlank cs
  rw [dropBlanks] at h
  simpa [h] using this

theorem dropBlanks_suffix (cs : List Char) :
    ∃ front, cs = front ++ dropBlanks cs ∧ ∀ c ∈ front, isBlank c = true :=
  ⟨cs.takeWhile isBlank, List.takeWhile_append_dropWhile.symm,
    List.all_eq_true.mp List.all_takeWhile⟩

theorem dropTrailingBlanks_prefix (cs : List Char) :
    ∃ back, cs = dropTrailingBlanks cs ++ back ∧ ∀ c ∈ back, isBlank c = true := by
  obtain ⟨front, split, blank⟩ := dropBlanks_suffix cs.reverse
  refine ⟨front.reverse, ?_, fun c hc => blank c (List.mem_reverse.mp hc)⟩
  rw [dropTrailingBlanks, ← List.reverse_append, ← split, List.reverse_reverse]

theorem dropBlanks_append {front cs : List Char} (blank : ∀ c ∈ front, isBlank c = true) :
    dropBlanks (front ++ cs) = dropBlanks cs :=
  List.dropWhile_append_of_pos blank

theorem dropBlanks_eq_self {cs : List Char} (h : ∀ c, cs.head? = some c → isBlank c = false) :
    dropBlanks cs = cs := by
  cases cs with
  | nil => rfl
  | cons c cs => simp [dropBlanks, h c rfl]

theorem dropTrailingBlanks_append {cs back : List Char} (blank : ∀ c ∈ back, isBlank c = true) :
    dropTrailingBlanks (cs ++ back) = dropTrailingBlanks cs := by
  rw [dropTrailingBlanks, List.reverse_append,
    dropBlanks_append fun c hc => blank c (List.mem_reverse.mp hc), dropTrailingBlanks]

theorem dropTrailingBlanks_eq_self {cs : List Char}
    (h : ∀ c, cs.getLast? = some c → isBlank c = false) : dropTrailingBlanks cs = cs := by
  rw [dropTrailingBlanks, dropBlanks_eq_self, List.reverse_reverse]
  simpa only [List.head?_reverse] using h

/-- What trimming leaves neither begins nor ends with a blank. -/
theorem tight_trim (s : String) : Tight (trim s).toList := by
  rw [trim, String.toList_ofList]
  constructor
  · intro c first
    obtain ⟨back, split, -⟩ := dropTrailingBlanks_prefix (dropBlanks s.toList)
    have head : (dropBlanks s.toList).head? = some c := by
      rw [split, List.head?_append, first]
      rfl
    exact head?_dropBlanks head
  · intro c last
    rw [dropTrailingBlanks, List.getLast?_reverse] at last
    exact head?_dropBlanks last

/-- A text is what trimming leaves of it, with blanks around that. -/
theorem trim_split (s : String) : Surrounded s.toList (trim s).toList := by
  obtain ⟨front, split, blankFront⟩ := dropBlanks_suffix s.toList
  obtain ⟨back, rest, blankBack⟩ := dropTrailingBlanks_prefix (dropBlanks s.toList)
  refine ⟨front, back, ?_, blankFront, blankBack⟩
  rw [trim, String.toList_ofList, List.append_assoc, ← rest, ← split]

/-- Blanks around characters that neither begin nor end with one are all that trimming takes. -/
theorem trim_surrounded {s : String} {inner : List Char} (tight : Tight inner)
    (around : Surrounded s.toList inner) : trim s = String.ofList inner := by
  obtain ⟨front, back, split, blankFront, blankBack⟩ := around
  rw [trim, split, List.append_assoc, dropBlanks_append blankFront]
  congr 1
  cases inner with
  | nil =>
    rw [List.nil_append, ← List.append_nil back, dropBlanks_append blankBack]
    rfl
  | cons c inner =>
    have head : dropBlanks (c :: inner ++ back) = c :: inner ++ back := dropBlanks_eq_self tight.head
    rw [head, dropTrailingBlanks_append blankBack, dropTrailingBlanks_eq_self tight.last]

theorem trim_eq_iff {s word : String} (tight : Tight word.toList) :
    trim s = word ↔ Surrounded s.toList word.toList := by
  constructor
  · rintro rfl
    exact trim_split s
  · intro around
    rw [trim_surrounded tight around, String.ofList_toList]

/-- A text is all blanks if trimming leaves nothing of it. -/
theorem trim_eq_empty_iff {s : String} : trim s = "" ↔ ∀ c ∈ s.toList, isBlank c = true := by
  constructor
  · intro h c hc
    obtain ⟨front, back, split, blankFront, blankBack⟩ := trim_split s
    rw [split, h] at hc
    obtain hc | hc : c ∈ front ∨ c ∈ back := by simpa using hc
    · exact blankFront c hc
    · exact blankBack c hc
  · intro blank
    have tight : Tight [] := ⟨nofun, nofun⟩
    exact trim_surrounded tight ⟨s.toList, [], by simp, blank, nofun⟩

end JobConsole
