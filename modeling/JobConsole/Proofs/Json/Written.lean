import JobConsole.Json.Printer

namespace JobConsole

theorem toDigits_head (n : Nat) :
    ∃ c rest, Nat.toDigits 10 n = c :: rest ∧ c.isDigit = true := by
  cases h : Nat.toDigits 10 n with
  | nil => exact absurd h Nat.toDigits_ne_nil
  | cons c rest =>
    refine ⟨c, rest, rfl, Nat.isDigit_of_mem_toDigits (b := 10) (n := n) (by omega) (by omega) ?_⟩
    rw [h]; exact List.mem_cons_self

namespace Layout

theorem plain_head (c : Char) (ds : List Char) (place : Int) (h : c.isDigit = true) :
    ∃ d rest, plain (c :: ds) place = d :: rest ∧ d.isDigit = true := by
  unfold plain
  split
  · exact ⟨'0', _, rfl, rfl⟩
  · exact ⟨c, _, by simp only [List.cons_append, List.take_succ_cons]; rfl, h⟩

theorem scientific_head (c : Char) (ds : List Char) (place : Int) :
    ∃ rest, scientific (c :: ds) place = c :: rest := by
  cases ds with
  | nil => exact ⟨_, rfl⟩
  | cons d ds => exact ⟨_, rfl⟩

theorem write_head (layout : Layout) (d : Decimal) :
    ∃ c rest, layout.write d = c :: rest ∧ c.isDigit = true := by
  obtain ⟨c, ds, hc, digit⟩ := toDigits_head d.significand
  simp only [write, hc]
  split
  · exact plain_head c ds _ digit
  · obtain ⟨rest, hr⟩ := scientific_head c ds (d.exponent + ((c :: ds).length - 1 : Nat))
    exact ⟨c, rest, hr, digit⟩

end Layout

namespace Json

def startsValue (c : Char) : Bool := c.isDigit || "-\"[\x7btfn".toList.contains c

theorem startsValue_of_isDigit {c : Char} (h : c.isDigit = true) : startsValue c = true := by
  simp [startsValue, h]

theorem writeInteger_head (n : Int) :
    ∃ c rest, writeInteger n = c :: rest ∧ (c = '-' ∨ c.isDigit = true) := by
  unfold writeInteger
  split
  · exact ⟨'-', _, rfl, .inl rfl⟩
  · obtain ⟨c, rest, h, digit⟩ := toDigits_head n.natAbs
    exact ⟨c, rest, h, .inr digit⟩

theorem writeFloat_head (negative : Bool) (x : Magnitude) :
    ∃ c rest, writeFloat negative x = c :: rest ∧ startsValue c = true := by
  cases negative with
  | true => exact ⟨'-', _, rfl, rfl⟩
  | false =>
    obtain ⟨c, rest, h, digit⟩ := numberLayout.write_head x.shortest
    exact ⟨c, rest, h, startsValue_of_isDigit digit⟩

/-- The text of a value begins as values do. -/
theorem write_head (v : Json) : ∃ c rest, write v = c :: rest ∧ startsValue c = true := by
  cases v with
  | null => exact ⟨'n', _, rfl, rfl⟩
  | bool b => cases b <;> exact ⟨_, _, rfl, rfl⟩
  | integer n =>
    obtain ⟨c, rest, h, rfl | digit⟩ := writeInteger_head n
    · exact ⟨'-', rest, h, rfl⟩
    · exact ⟨c, rest, h, startsValue_of_isDigit digit⟩
  | float negative x => simpa only [write] using writeFloat_head negative x
  | string s => exact ⟨'"', _, rfl, rfl⟩
  | array items => cases items <;> exact ⟨'[', _, rfl, rfl⟩
  | object members => cases members <;> exact ⟨'{', _, rfl, rfl⟩

/-! ## Spaces and control characters -/

inductive Place
  | outside
  | literal
  /-- Behind a backslash in a literal. -/
  | escaped
  deriving DecidableEq, Repr

def Place.next (c : Char) : Place → Place
  | .outside => if c = '"' then .literal else .outside
  | .literal => if c = '"' then .outside else if c = '\\' then .escaped else .literal
  | .escaped => .literal

/-- The characters of a text outside its string literals and their quotes. -/
def outsideFrom : Place → List Char → List Char
  | _, [] => []
  | place, c :: rest =>
    if place = .outside ∧ c ≠ '"' then c :: outsideFrom (place.next c) rest
    else outsideFrom (place.next c) rest

def outsideLiterals (cs : List Char) : List Char := outsideFrom .outside cs

/-- A part of a text that has no control character, closes its literals and has no space outside of
them. -/
structure Neat (cs : List Char) : Prop where
  printable : ∀ c ∈ cs, 0x20 ≤ c.toNat
  compact (rest : List Char) (h : ' ' ∉ outsideLiterals rest) : ' ' ∉ outsideLiterals (cs ++ rest)

theorem Neat.append {cs ds : List Char} (h : Neat cs) (h' : Neat ds) : Neat (cs ++ ds) := by
  constructor
  · intro c hc
    exact (List.mem_append.mp hc).elim (h.printable c) (h'.printable c)
  · intro rest hr
    rw [List.append_assoc]
    exact h.compact _ (h'.compact rest hr)

theorem neat_nil : Neat [] := ⟨by simp, fun _ h => h⟩

/-- A character that may stand anywhere outside a literal. -/
def isPlain (c : Char) : Bool := 0x21 ≤ c.toNat && c != '"'

theorem Neat.cons {c : Char} {cs : List Char} (plain : isPlain c = true) (h : Neat cs) :
    Neat (c :: cs) := by
  simp only [isPlain, Bool.and_eq_true, decide_eq_true_eq, bne_iff_ne] at plain
  obtain ⟨visible, quote⟩ := plain
  have space : ' ' ≠ c := by
    rintro rfl
    exact absurd visible (by decide)
  constructor
  · exact List.forall_mem_cons.mpr ⟨by omega, h.printable⟩
  · intro rest hr
    have after : outsideLiterals (c :: cs ++ rest) = c :: outsideLiterals (cs ++ rest) := by
      simp [outsideLiterals, outsideFrom, Place.next, quote]
    rw [after, List.mem_cons, not_or]
    exact ⟨space, h.compact rest hr⟩

theorem neat_of_plain {cs : List Char} (h : ∀ c ∈ cs, isPlain c = true) : Neat cs := by
  induction cs with
  | nil => exact neat_nil
  | cons c cs ih =>
    obtain ⟨here, later⟩ := List.forall_mem_cons.mp h
    exact .cons here (ih later)

theorem isPlain_of_isDigit {c : Char} (h : c.isDigit = true) : isPlain c = true := by
  have quote : c ≠ '"' := by
    rintro rfl
    cases h
  simp only [Char.isDigit, Bool.and_eq_true, decide_eq_true_eq] at h
  have low : (0x30 : Nat) ≤ c.toNat := h.1
  simp only [isPlain, Bool.and_eq_true, decide_eq_true_eq, bne_iff_ne]
  exact ⟨by omega, quote⟩

theorem toDigits_plain (n : Nat) : ∀ c ∈ Nat.toDigits 10 n, isPlain c = true := by
  intro c hc
  apply isPlain_of_isDigit
  exact Nat.isDigit_of_mem_toDigits (by omega) (by omega) hc

theorem writeInteger_neat (n : Int) : Neat (writeInteger n) := by
  have digits := neat_of_plain (toDigits_plain n.natAbs)
  unfold writeInteger
  split
  · exact .cons rfl digits
  · exact digits

theorem layoutPlain_plain {digits : List Char} (h : ∀ c ∈ digits, isPlain c = true)
    (place : Int) : ∀ c ∈ Layout.plain digits place, isPlain c = true := by
  have zeros (n : Nat) : ∀ c ∈ List.replicate n '0', isPlain c = true := by
    intro c hc
    rw [List.eq_of_mem_replicate hc]
    rfl
  unfold Layout.plain
  split
  · exact List.forall_mem_cons.mpr ⟨rfl, List.forall_mem_cons.mpr
      ⟨rfl, List.forall_mem_append.mpr ⟨zeros _, h⟩⟩⟩
  · have padded : ∀ c ∈ digits ++ List.replicate (place.toNat + 1 - digits.length) '0',
        isPlain c = true := List.forall_mem_append.mpr ⟨h, zeros _⟩
    refine List.forall_mem_append.mpr ⟨?_, List.forall_mem_cons.mpr ⟨rfl, ?_⟩⟩
    · intro c hc
      exact padded c (List.mem_of_mem_take hc)
    · split
      · exact zeros 1
      · intro c hc
        exact padded c (List.mem_of_mem_drop hc)

theorem layoutScientific_plain {digits : List Char} (h : ∀ c ∈ digits, isPlain c = true)
    (place : Int) : ∀ c ∈ Layout.scientific digits place, isPlain c = true := by
  have exponent : ∀ c ∈ 'e' :: (if place < 0 then '-' else '+') :: Nat.toDigits 10 place.natAbs,
      isPlain c = true := by
    refine List.forall_mem_cons.mpr ⟨rfl, List.forall_mem_cons.mpr ⟨?_, toDigits_plain _⟩⟩
    split <;> rfl
  refine List.forall_mem_append.mpr ⟨?_, exponent⟩
  match digits, h with
  | [], h => exact h
  | [_], h => exact h
  | d :: e :: rest, h =>
    obtain ⟨here, later⟩ := List.forall_mem_cons.mp h
    exact List.forall_mem_cons.mpr ⟨here, List.forall_mem_cons.mpr ⟨rfl, later⟩⟩

theorem layout_plain (layout : Layout) (d : Decimal) :
    ∀ c ∈ layout.write d, isPlain c = true := by
  have digits := toDigits_plain d.significand
  simp only [Layout.write]
  split
  · exact layoutPlain_plain digits _
  · exact layoutScientific_plain digits _

theorem writeFloat_neat (negative : Bool) (x : Magnitude) : Neat (writeFloat negative x) := by
  have digits : Neat (numberLayout.write x.shortest) := neat_of_plain (layout_plain _ _)
  cases negative with
  | true => exact .cons rfl digits
  | false => exact digits

theorem hexDigit_inside {n : Nat} (h : n < 16) :
    0x20 ≤ (hexDigit n).toNat ∧ Place.next (hexDigit n) .literal = .literal := by
  have table : ∀ n : Fin 16,
      0x20 ≤ (hexDigit n).toNat ∧ Place.next (hexDigit n) .literal = .literal := by decide
  exact table ⟨n, h⟩

theorem outsideFrom_literal {c : Char} (h : Place.next c .literal = .literal) (rest : List Char) :
    outsideFrom .literal (c :: rest) = outsideFrom .literal rest := by
  simp [outsideFrom, h]

/-- What is written for a character in a literal leaves the literal open. -/
theorem outsideFrom_writeChar (c : Char) (rest : List Char) :
    outsideFrom .literal (writeChar c ++ rest) = outsideFrom .literal rest := by
  unfold writeChar
  split
  · rfl
  split
  · rfl
  split
  · next control =>
    have high := (hexDigit_inside (n := c.toNat / 16) (by omega)).2
    have low := (hexDigit_inside (n := c.toNat % 16) (by omega)).2
    have escaped : outsideFrom .literal (['\\', 'u', '0', '0', hexDigit (c.toNat / 16),
        hexDigit (c.toNat % 16)] ++ rest) = outsideFrom .literal rest :=
      (outsideFrom_literal high _).trans (outsideFrom_literal low rest)
    split; · rfl
    split; · rfl
    split; · rfl
    split; · rfl
    split; · rfl
    exact escaped
  · next quote backslash _ => exact outsideFrom_literal (by simp [Place.next, quote, backslash]) rest

theorem writeChar_printable (c : Char) : ∀ d ∈ writeChar c, 0x20 ≤ d.toNat := by
  have pair (d : Char) (h : 0x20 ≤ d.toNat) : ∀ e ∈ ['\\', d], 0x20 ≤ e.toNat := by simp [h]
  unfold writeChar
  split
  · exact pair '"' (by decide)
  split
  · exact pair '\\' (by decide)
  split
  · next control =>
    have high := (hexDigit_inside (n := c.toNat / 16) (by omega)).1
    have low := (hexDigit_inside (n := c.toNat % 16) (by omega)).1
    split; · exact pair 'b' (by decide)
    split; · exact pair 't' (by decide)
    split; · exact pair 'n' (by decide)
    split; · exact pair 'f' (by decide)
    split; · exact pair 'r' (by decide)
    simp [high, low]
  · next plain => simpa using plain

theorem writeString_neat (s : String) : Neat (writeString s) := by
  constructor
  · intro c hc
    obtain rfl | hc := List.mem_cons.mp hc
    · decide
    · obtain hc | hc := List.mem_append.mp hc
      · obtain ⟨d, -, hd⟩ := List.mem_flatMap.mp hc
        exact writeChar_printable d c hd
      · rw [List.mem_singleton.mp hc]; decide
  · intro rest hr
    have closed (cs : List Char) : outsideFrom .literal (cs.flatMap writeChar ++ '"' :: rest) =
        outsideLiterals rest := by
      induction cs with
      | nil => rfl
      | cons c cs ih => rw [List.flatMap_cons, List.append_assoc, outsideFrom_writeChar, ih]
    have text : writeString s ++ rest = '"' :: (s.toList.flatMap writeChar ++ '"' :: rest) := by
      simp [writeString]
    rw [text]
    intro space
    apply hr
    rw [← closed s.toList]
    exact space

mutual
/-- What is written for a value has no control character, and no space outside literals. -/
theorem write_neat : (v : Json) → Neat (write v)
  | .null | .bool true | .bool false => neat_of_plain (List.all_eq_true.mp rfl)
  | .integer n => writeInteger_neat n
  | .float negative x => writeFloat_neat negative x
  | .string s => writeString_neat s
  | .array [] | .object [] => neat_of_plain (List.all_eq_true.mp rfl)
  | .array (v :: items) => .cons rfl ((write_neat v).append (writeItems_neat items))
  | .object ((key, v) :: members) => .cons rfl ((writeString_neat key).append
      (.cons rfl ((write_neat v).append (writeMembers_neat members))))

theorem writeItems_neat : (items : List Json) → Neat (writeItems items)
  | [] => neat_of_plain (List.all_eq_true.mp rfl)
  | v :: items => .cons rfl ((write_neat v).append (writeItems_neat items))

theorem writeMembers_neat : (members : List (String × Json)) → Neat (writeMembers members)
  | [] => neat_of_plain (List.all_eq_true.mp rfl)
  | (key, v) :: members => .cons rfl ((writeString_neat key).append
      (.cons rfl ((write_neat v).append (writeMembers_neat members))))
end

end Json

end JobConsole
