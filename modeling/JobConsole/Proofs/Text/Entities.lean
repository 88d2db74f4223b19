import Mathlib.Data.List.Basic
import JobConsole.Text.Markup

namespace JobConsole.Markup

/-- The entities that stand for characters. -/
def entities : List String := ["&amp;", "&lt;", "&gt;", "&quot;", "&#x27;"]

/-- The characters of a text in which some are replaced by entities. -/
def unescapeChars : List Char → List Char
  | '&' :: 'a' :: 'm' :: 'p' :: ';' :: rest => '&' :: unescapeChars rest
  | '&' :: 'l' :: 't' :: ';' :: rest => '<' :: unescapeChars rest
  | '&' :: 'g' :: 't' :: ';' :: rest => '>' :: unescapeChars rest
  | '&' :: 'q' :: 'u' :: 'o' :: 't' :: ';' :: rest => '"' :: unescapeChars rest
  | '&' :: '#' :: 'x' :: '2' :: '7' :: ';' :: rest => '\'' :: unescapeChars rest
  | c :: rest => c :: unescapeChars rest
  | [] => []

def unescape (s : String) : String := String.ofList (unescapeChars s.toList)

theorem toList_escape (s : String) : (escape s).toList = s.toList.flatMap escapeChar :=
  String.toList_ofList

/-! ## Back from entities -/

theorem unescapeChars_cons {c : Char} (h : c ≠ '&') (rest : List Char) :
    unescapeChars (c :: rest) = c :: unescapeChars rest := by
  conv_lhs => unfold unescapeChars
  split <;> simp_all

theorem escapeChar_plain {c : Char} (h : c ∉ ['&', '<', '>', '"', '\'']) : escapeChar c = [c] := by
  unfold escapeChar
  split <;> simp_all

theorem unescapeChars_escapeChar (c : Char) (rest : List Char) :
    unescapeChars (escapeChar c ++ rest) = c :: unescapeChars rest := by
  by_cases special : c ∈ ['&', '<', '>', '"', '\'']
  · simp only [List.mem_cons, List.not_mem_nil, or_false] at special
    obtain rfl | rfl | rfl | rfl | rfl := special <;> rfl
  · have other : c ≠ '&' := by
      rintro rfl
      exact special List.mem_cons_self
    rw [escapeChar_plain special, List.singleton_append, unescapeChars_cons other]

/-- What was made safe is given back, also where it looked like an entity. -/
theorem unescape_escape (s : String) : unescape (escape s) = s := by
  have chars (cs : List Char) : unescapeChars (cs.flatMap escapeChar) = cs := by
    induction cs with
    | nil => rfl
    | cons c cs ih => rw [List.flatMap_cons, unescapeChars_escapeChar, ih]
  rw [unescape, toList_escape, chars, String.ofList_toList]

theorem escape_injective : Function.Injective escape :=
  Function.LeftInverse.injective unescape_escape

/-! ## What is left -/

/-- A character is left as it is, or replaced by an entity. -/
theorem escapeChar_cases (c : Char) :
    (escapeChar c = [c] ∧ c ∉ ['&', '<', '>', '"', '\'']) ∨
      ∃ entity ∈ entities, escapeChar c = entity.toList := by
  by_cases special : c ∈ ['&', '<', '>', '"', '\'']
  · right
    simp only [List.mem_cons, List.not_mem_nil, or_false] at special
    obtain rfl | rfl | rfl | rfl | rfl := special
    · exact ⟨"&amp;", by decide, rfl⟩
    · exact ⟨"&lt;", by decide, rfl⟩
    · exact ⟨"&gt;", by decide, rfl⟩
    · exact ⟨"&quot;", by decide, rfl⟩
    · exact ⟨"&#x27;", by decide, rfl⟩
  · exact .inl ⟨escapeChar_plain special, special⟩

/-- An entity is an ampersand and characters that mean nothing in markup. -/
theorem entity_chars {entity : String} (h : entity ∈ entities) :
    ∃ name, entity.toList = '&' :: name ∧ ∀ c ∈ name, c ∉ ['&', '<', '>', '"', '\''] := by
  have spelled : ∀ entity ∈ entities, entity.toList = '&' :: entity.toList.tail ∧
      (entity.toList.tail.all fun c => c ∉ ['&', '<', '>', '"', '\'']) = true := by
    decide
  obtain ⟨begins, plain⟩ := spelled entity h
  refine ⟨_, begins, fun c member => ?_⟩
  exact of_decide_eq_true (List.all_eq_true.mp plain c member)

theorem plain_escape (s : String) : ∀ c ∈ (escape s).toList, c ∉ ['<', '>', '"', '\''] := by
  intro c member
  rw [toList_escape] at member
  obtain ⟨d, -, inside⟩ := List.mem_flatMap.mp member
  obtain ⟨same, plain⟩ | ⟨entity, among, same⟩ := escapeChar_cases d
  · rw [same, List.mem_singleton] at inside
    subst inside
    intro markup
    exact plain (List.mem_cons_of_mem _ markup)
  · obtain ⟨name, chars, plain⟩ := entity_chars among
    rw [same, chars] at inside
    obtain rfl | later := List.mem_cons.mp inside
    · decide
    · intro markup
      exact plain c later (List.mem_cons_of_mem _ markup)

/-- Every ampersand of a safe text begins an entity. -/
theorem ampersand_escape {s : String} {before after : List Char}
    (h : (escape s).toList = before ++ '&' :: after) :
    ∃ entity ∈ entities, entity.toList <+: '&' :: after := by
  rw [toList_escape] at h
  generalize s.toList = cs at h
  induction cs generalizing before with
  | nil => simp at h
  | cons c cs ih =>
    rw [List.flatMap_cons] at h
    obtain ⟨later, -, rest⟩ | ⟨inside, first, rest⟩ := List.append_eq_append_iff.mp h
    · exact ih rest
    · cases inside with
      | nil =>
        have begins : cs.flatMap escapeChar = [] ++ '&' :: after := rest.symm
        exact ih begins
      | cons d inside =>
        -- The ampersand stands in what the first character became, and so at its front.
        obtain ⟨rfl, rfl⟩ : d = '&' ∧ inside ++ cs.flatMap escapeChar = after := by
          simpa using rest.symm
        obtain ⟨same, plain⟩ | ⟨entity, among, same⟩ := escapeChar_cases c
        · have ampersand : '&' ∈ [c] := by
            rw [← same, first]
            simp
          rw [List.mem_singleton] at ampersand
          exact absurd (ampersand ▸ List.mem_cons_self) plain
        · obtain ⟨name, chars, plain⟩ := entity_chars among
          refine ⟨entity, among, ?_⟩
          rw [same, chars] at first
          cases before with
          | nil =>
            rw [chars, first]
            exact List.prefix_append _ _
          | cons b before =>
            have ampersand : '&' ∈ name := by
              rw [(List.cons.inj first).2]
              simp
            exact absurd List.mem_cons_self (plain '&' ampersand)

end JobConsole.Markup
