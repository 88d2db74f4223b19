import Mathlib.Data.List.Basic
import JobConsole.Control
import JobConsole.Proofs.Text.Utf8

namespace JobConsole

/-! ## Line feeds among octets -/

namespace Utf8

/-- A line feed is among the octets of no other character, and is the one octet of its own. -/
theorem feed_mem_encodeChar {c : Char} : 0x0A ∈ String.utf8EncodeChar c ↔ c = '\n' := by
  constructor
  · intro member
    have high (n : Nat) (lo : 0x80 ≤ n) (hi : n < 0x100) : (0x0A : UInt8) ≠ .ofNat n := by
      intro same
      have value : (0x0A : UInt8).toNat = n := by rw [same, toNat_ofNat hi]
      rw [← value] at lo
      exact absurd lo (by decide)
    have scalar : c.toNat < 0xD800 ∨ (0xDFFF < c.toNat ∧ c.toNat < 0x110000) := c.valid
    rw [← Char.ofNat_toNat c] at member ⊢
    generalize c.toNat = v at member scalar
    by_cases one : v ≤ 0x7F
    · rw [encodeChar_one one, List.mem_singleton] at member
      have value : (0x0A : UInt8).toNat = v := by rw [member, toNat_ofNat (by omega)]
      rw [← value]
      rfl
    by_cases two : v ≤ 0x7FF
    · rw [encodeChar_two (by omega) two] at member
      simp only [List.mem_cons, List.not_mem_nil, or_false] at member
      obtain first | second := member
      · exact absurd first (high _ (by omega) (by omega))
      · exact absurd second (high _ (by omega) (by omega))
    by_cases three : v ≤ 0xFFFF
    · rw [encodeChar_three (by omega) three (by omega)] at member
      simp only [List.mem_cons, List.not_mem_nil, or_false] at member
      obtain first | second | third := member
      · exact absurd first (high _ (by omega) (by omega))
      · exact absurd second (high _ (by omega) (by omega))
      · exact absurd third (high _ (by omega) (by omega))
    · rw [encodeChar_four (by omega) (by omega)] at member
      simp only [List.mem_cons, List.not_mem_nil, or_false] at member
      obtain first | second | third | fourth := member
      · exact absurd first (high _ (by omega) (by omega))
      · exact absurd second (high _ (by omega) (by omega))
      · exact absurd third (high _ (by omega) (by omega))
      · exact absurd fourth (high _ (by omega) (by omega))
  · rintro rfl
    decide

theorem feed_mem_encode {cs : List Char} : 0x0A ∈ encode cs ↔ '\n' ∈ cs := by
  simp [encode, feed_mem_encodeChar]

theorem encode_append (cs ds : List Char) : encode (cs ++ ds) = encode cs ++ encode ds :=
  List.flatMap_append

theorem encode_feed (cs : List Char) : encode cs ++ [0x0A] = encode (cs ++ ['\n']) := by
  rw [encode_append]
  rfl

theorem encode_eq_nil_iff {cs : List Char} : encode cs = [] ↔ cs = [] := by
  constructor
  · intro none
    cases cs with
    | nil => rfl
    | cons c cs =>
      have := c.utf8Size_pos
      have length := congrArg List.length none
      simp [encode] at length
      omega
  · rintro rfl
    rfl

/-- A line with its line feed is text only if it is text without. -/
theorem encode_of_feed {line : List UInt8} (inside : 0x0A ∉ line) {cs : List Char}
    (octets : line ++ [0x0A] = encode cs) : ∃ text, cs = text ++ ['\n'] ∧ line = encode text := by
  have feed : '\n' ∈ cs := by
    rw [← feed_mem_encode, ← octets]
    exact List.mem_append_right line (List.mem_singleton_self _)
  obtain ⟨text, behind, rfl⟩ := List.append_of_mem feed
  have parts : encode (text ++ '\n' :: behind) = encode text ++ 0x0A :: encode behind :=
    encode_append text ('\n' :: behind)
  rw [parts, List.append_cons_inj_of_notMem inside List.not_mem_nil] at octets
  obtain ⟨rfl, -, none⟩ := octets
  rw [eq_comm, encode_eq_nil_iff] at none
  exact ⟨text, by rw [none], rfl⟩

end Utf8

open Utf8

/-! ## Lines -/

/-- Octets as typed lines. A line ends at a line feed, a carriage return in front of which is not part
of it; what stands behind the last line feed is a line too. The lines end before the first one that is
not UTF-8. -/
inductive Typed : List UInt8 → List String → Prop
  | nothing : Typed [] []
  | unread {line behind : List UInt8} (inside : 0x0A ∉ line) (noText : ∀ cs, line ≠ encode cs)
      (ends : behind = [] ∨ behind.head? = some 0x0A) : Typed (line ++ behind) []
  | last {line : List Char} (inside : '\n' ∉ line) (nonempty : line ≠ []) :
      Typed (encode line) [String.ofList line]
  | feed {line : List Char} {behind : List UInt8} {lines : List String} (inside : '\n' ∉ line)
      (bare : line.getLast? ≠ some '\r') (others : Typed behind lines) :
      Typed (encode line ++ 0x0A :: behind) (String.ofList line :: lines)
  | returnFeed {line : List Char} {behind : List UInt8} {lines : List String} (inside : '\n' ∉ line)
      (others : Typed behind lines) :
      Typed (encode line ++ 0x0D :: 0x0A :: behind) (String.ofList line :: lines)

section
variable {line behind : List UInt8}

theorem splitLinesFrom_feed (inside : 0x0A ∉ line) (rev : List UInt8) :
    splitLinesFrom rev (line ++ 0x0A :: behind) =
      (rev.reverse ++ line ++ [0x0A]) :: splitLines behind := by
  induction line generalizing rev with
  | nil => simp [splitLinesFrom, splitLines]
  | cons b line ih =>
    obtain ⟨first, others⟩ := not_or.mp (List.mem_cons.not.mp inside)
    rw [List.cons_append, splitLinesFrom, if_neg (Ne.symm first), ih others]
    simp

theorem splitLinesFrom_last (inside : 0x0A ∉ line) {rev : List UInt8}
    (nonempty : rev.reverse ++ line ≠ []) : splitLinesFrom rev line = [rev.reverse ++ line] := by
  induction line generalizing rev with
  | nil =>
    have begun : rev ≠ [] := by simpa using nonempty
    simp [splitLinesFrom, begun]
  | cons b line ih =>
    obtain ⟨first, others⟩ := not_or.mp (List.mem_cons.not.mp inside)
    rw [splitLinesFrom, if_neg (Ne.symm first), ih others (by simp)]
    simp

theorem splitLines_feed (inside : 0x0A ∉ line) :
    splitLines (line ++ 0x0A :: behind) = (line ++ [0x0A]) :: splitLines behind :=
  splitLinesFrom_feed inside []

theorem splitLines_last (inside : 0x0A ∉ line) (nonempty : line ≠ []) : splitLines line = [line] :=
  splitLinesFrom_last inside nonempty

end

section
variable {text : List Char}

theorem withoutLineEnd_last (inside : '\n' ∉ text) : withoutLineEnd text = text := by
  have ends (rest : List Char) : text.reverse ≠ '\n' :: rest := by
    intro same
    apply inside
    rw [← List.mem_reverse, same]
    exact List.mem_cons_self
  unfold withoutLineEnd
  split
  · next same => exact absurd same (ends _)
  · next same => exact absurd same (ends _)
  · rfl

theorem withoutLineEnd_feed (bare : text.getLast? ≠ some '\r') :
    withoutLineEnd (text ++ ['\n']) = text := by
  rw [← List.head?_reverse] at bare
  unfold withoutLineEnd
  rw [List.reverse_append, List.reverse_singleton, List.singleton_append]
  split
  · next same =>
    rw [(List.cons.inj same).2] at bare
    exact absurd rfl bare
  · next same => rw [← (List.cons.inj same).2, List.reverse_reverse]
  · next other => exact absurd rfl (other _)

theorem withoutLineEnd_returnFeed (text : List Char) :
    withoutLineEnd (text ++ ['\r'] ++ ['\n']) = text := by
  simp [withoutLineEnd]

end

section
variable {bytes : List UInt8} {lines : List String}

theorem textLines_encode (text : List Char) (rest : List (List UInt8)) :
    Control.textLines (encode text :: rest) =
      String.ofList (withoutLineEnd text) :: Control.textLines rest := by
  simp [Control.textLines, decode_eq_ok_iff.mpr rfl]

theorem textLines_noText {line : List UInt8} (noText : ∀ cs, line ≠ encode cs)
    (rest : List (List UInt8)) : Control.textLines (line :: rest) = [] := by
  unfold Control.textLines
  split
  · next cs read => exact absurd (decode_eq_ok_iff.mp read) (noText cs)
  · rfl

/-- A typed line is read as it was typed. -/
theorem Typed.read (h : Typed bytes lines) : Control.textLines (splitLines bytes) = lines := by
  induction h with
  | nothing => rfl
  | @unread line behind inside noText ends =>
    cases behind with
    | nil =>
      rw [List.append_nil, splitLines_last inside (noText [])]
      exact textLines_noText noText []
    | cons b behind =>
      obtain rfl : b = 0x0A := by simpa using ends
      rw [splitLines_feed inside]
      apply textLines_noText
      intro cs octets
      obtain ⟨text, -, read⟩ := encode_of_feed inside octets
      exact noText text read
  | @last text inside nonempty =>
    have octets : encode text ≠ [] := mt encode_eq_nil_iff.mp nonempty
    rw [splitLines_last (by rwa [feed_mem_encode]) octets, textLines_encode,
      withoutLineEnd_last inside]
    rfl
  | @feed text behind lines inside bare others ih =>
    rw [splitLines_feed (by rwa [feed_mem_encode]), encode_feed, textLines_encode,
      withoutLineEnd_feed bare, ih]
  | @returnFeed text behind lines inside others ih =>
    have octets : encode text ++ 0x0D :: 0x0A :: behind =
        encode (text ++ ['\r']) ++ 0x0A :: behind := by
      rw [encode_append, List.append_assoc]
      rfl
    have inside' : 0x0A ∉ encode (text ++ ['\r']) := by
      rw [feed_mem_encode]
      simp [inside]
    rw [octets, splitLines_feed inside', encode_feed, textLines_encode, withoutLineEnd_returnFeed, ih]

/-- All octets are typed lines, up to the first that is not UTF-8. -/
theorem exists_typed (bytes : List UInt8) : ∃ lines, Typed bytes lines := by
  induction length : bytes.length using Nat.strongRecOn generalizing bytes with
  | ind n ih =>
    by_cases feed : 0x0A ∈ bytes
    · obtain ⟨line, behind, rfl, inside⟩ := List.eq_append_cons_of_mem feed
      by_cases text : ∃ cs, line = encode cs
      · obtain ⟨cs, rfl⟩ := text
        rw [feed_mem_encode] at inside
        obtain ⟨lines, others⟩ := ih behind.length (by simp at length; omega) behind rfl
        by_cases bare : cs.getLast? = some '\r'
        · obtain ⟨line, rfl⟩ := List.getLast?_eq_some_iff.mp bare
          refine ⟨String.ofList line :: lines, ?_⟩
          rw [encode_append, List.append_assoc]
          exact .returnFeed (fun member => inside (List.mem_append_left _ member)) others
        · exact ⟨_, .feed inside bare others⟩
      · exact ⟨[], .unread inside (not_exists.mp text) (.inr rfl)⟩
    · by_cases text : ∃ cs, bytes = encode cs
      · obtain ⟨cs, rfl⟩ := text
        rw [feed_mem_encode] at feed
        by_cases none : cs = []
        · subst none
          exact ⟨[], .nothing⟩
        · exact ⟨_, .last feed none⟩
      · refine ⟨[], ?_⟩
        rw [← List.append_nil bytes]
        exact .unread feed (not_exists.mp text) (.inl rfl)

/-- The lines that are read are those that were typed. -/
theorem typed_iff : Typed bytes lines ↔ Control.textLines (splitLines bytes) = lines := by
  constructor
  · exact Typed.read
  · rintro rfl
    obtain ⟨lines, typed⟩ := exists_typed bytes
    rwa [typed.read]

end

end JobConsole
