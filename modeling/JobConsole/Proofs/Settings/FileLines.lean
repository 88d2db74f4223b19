import JobConsole.Settings.EnvFile

namespace JobConsole

/-! ## Physical lines -/

theorem splitLinesFrom_append (rev file more : List UInt8) :
    splitLinesFrom rev (file ++ 0x0A :: more) =
      splitLinesFrom rev (file ++ [0x0A]) ++ splitLinesFrom [] more := by
  induction file generalizing rev with
  | nil => simp [splitLinesFrom]
  | cons b file ih =>
    rw [List.cons_append, List.cons_append, splitLinesFrom, splitLinesFrom]
    by_cases feed : b = 0x0A
    · simp [feed, ih]
    · simp [feed, ih]

/-- What follows a line feed begins a line. -/
theorem splitLines_append {file : List UInt8} (closed : file.getLast? = some 0x0A)
    (more : List UInt8) : splitLines (file ++ more) = splitLines file ++ splitLines more := by
  obtain ⟨before, rfl⟩ := List.getLast?_eq_some_iff.mp closed
  rw [List.append_assoc]
  exact splitLinesFrom_append [] before more

namespace EnvFile

def mark : List UInt8 := [0xEF, 0xBB, 0xBF]

theorem withoutMark_unmarked {file : List UInt8} (unmarked : ¬mark <+: file) :
    withoutMark file = file := by
  unfold withoutMark
  split
  · next rest => exact absurd (List.prefix_append mark rest) unmarked
  · rfl

section
variable {file : List UInt8} (closed : file.getLast? = some 0x0A)
include closed

/-- Whether a file begins with the mark does not depend on what stands behind a line feed. -/
theorem withoutMark_append (more : List UInt8) :
    withoutMark (file ++ more) = withoutMark file ++ more := by
  by_cases marked : mark <+: file
  · obtain ⟨rest, rfl⟩ := marked
    rfl
  · have unmarked : ¬mark <+: file ++ more := by
      intro marked'
      obtain longer | shorter :=
        List.prefix_or_prefix_of_prefix marked' (List.prefix_append file more)
      · exact marked longer
      · have feed : (0x0A : UInt8) ∈ mark := shorter.subset (List.mem_of_getLast? closed)
        revert feed
        decide
    rw [withoutMark_unmarked marked, withoutMark_unmarked unmarked]

theorem withoutMark_closed : (withoutMark file).getLast? = some 0x0A := by
  by_cases marked : mark <+: file
  · obtain ⟨rest, rfl⟩ := marked
    change rest.getLast? = some 0x0A
    rw [List.getLast?_append] at closed
    cases last : rest.getLast? with
    | none =>
      rw [last] at closed
      revert closed
      decide
    | some b => simpa [last] using closed
  · rwa [withoutMark_unmarked marked]

end

/-! ## Malformed lines -/

/-- Whether a line is malformed where its names stand for nothing. -/
def IsMalformed (line : List Char) : Prop := readLine (fun _ => "") line = .malformed

instance (line : List Char) : Decidable (IsMalformed line) :=
  inferInstanceAs (Decidable (readLine (fun _ => "") line = .malformed))

section
variable (lookup lookup' : String → String)

/-- What names stand for decides neither whether a character may stand in a value nor what may
follow it. -/
theorem step_phase (phase : Phase) (out out' : List Char) (c : Char) :
    (step lookup phase out c).map Prod.fst = (step lookup' phase out' c).map Prod.fst := by
  cases phase with
  | comment => rfl
  | ended =>
    simp only [step]
    split
    · rfl
    split <;> rfl
  | escaped quote =>
    simp only [step, Option.map_map]
    rfl
  | name quote rev =>
    simp only [step]
    split
    · rfl
    split
    · rfl
    split <;> rfl
  | braced quote rev =>
    simp only [step]
    split <;> rfl
  | inside quote =>
    simp only [step, Option.map_some, Option.some.injEq]
    cases quote with
    | strong =>
      simp only [stepInside]
      split <;> rfl
    | weak =>
      simp only [stepInside]
      split
      · rfl
      split
      · rfl
      split <;> rfl
    | bare =>
      simp only [stepInside]
      split
      · rfl
      split
      · rfl
      split
      · rfl
      split
      · rfl
      split <;> rfl

theorem finish_isSome (phase : Phase) (out out' : List Char) :
    (finish lookup phase out).isSome = (finish lookup' phase out').isSome := by
  cases phase with
  | inside quote | escaped quote | name quote rev => cases quote <;> rfl
  | braced | ended | comment => rfl

theorem readValueFrom_isSome (phase : Phase) (out out' cs : List Char) :
    (readValueFrom lookup phase out cs).isSome = (readValueFrom lookup' phase out' cs).isSome := by
  induction cs generalizing phase out out' with
  | nil => exact finish_isSome lookup lookup' phase out out'
  | cons c rest ih =>
    have same := step_phase lookup lookup' phase out out' c
    rw [readValueFrom, readValueFrom]
    cases stepped : step lookup phase out c with
    | none =>
      cases stepped' : step lookup' phase out' c with
      | none => rfl
      | some next' => simp [stepped, stepped'] at same
    | some next =>
      cases stepped' : step lookup' phase out' c with
      | none => simp [stepped, stepped'] at same
      | some next' =>
        obtain ⟨phase, out⟩ := next
        obtain ⟨phase', out'⟩ := next'
        obtain rfl : phase = phase' := by simpa [stepped, stepped'] using same
        exact ih phase out out'

theorem readLine_malformed (line : List Char) :
    readLine lookup line = .malformed ↔ readLine lookup' line = .malformed := by
  have value (cs : List Char) :
      readValue lookup cs = none ↔ readValue lookup' cs = none := by
    have same := readValueFrom_isSome lookup lookup' (.inside .bare) [] [] cs
    rw [readValue, readValue, Option.map_eq_none_iff, Option.map_eq_none_iff,
      ← Option.isNone_iff_eq_none, ← Option.isNone_iff_eq_none, ← Option.not_isSome, same,
      Option.not_isSome]
  unfold readLine
  dsimp only
  split
  · rfl
  split
  · rfl
  next key rest _ =>
  split
  · rfl
  have same := value (dropBlanks rest)
  cases read : readValue lookup (dropBlanks rest) with
  | none => simp [same.mp read]
  | some text =>
    cases read' : readValue lookup' (dropBlanks rest) with
    | none => simp [same.mpr read'] at read
    | some text' => simp

end

theorem isMalformed_iff (lookup : String → String) {line : List Char} :
    IsMalformed line ↔ readLine lookup line = .malformed :=
  readLine_malformed _ lookup line

/-! ## Logical lines -/

/-- The logical lines of a file. A fault, which ends the list, stands as `none`. -/
def linesOf (file : List UInt8) : List (Option (List Char)) :=
  logicalLines [] .complete (splitLines (withoutMark file))

/-- A file that is closed by a line feed, and in which a line is malformed or no text. -/
structure BreaksOff (file : List UInt8) : Prop where
  closed : file.getLast? = some 0x0A
  fault : (∃ line, some line ∈ linesOf file ∧ IsMalformed line) ∨
    ∃ physical ∈ splitLines (withoutMark file), Utf8.text? physical = none

section
variable {joined : List Char} {standing : Standing} {physicals : List (List UInt8)}

/-- Logical lines that are complete do not depend on what stands behind them. -/
theorem logicalLines_append {before after : List (Option (List Char))} {line : List Char}
    (h : logicalLines joined standing physicals = before ++ some line :: after)
    (more : List (List UInt8)) :
    ∃ after', logicalLines joined standing (physicals ++ more) =
      before ++ some line :: after' := by
  induction physicals generalizing joined standing before with
  | nil =>
    rw [logicalLines] at h
    split at h
    · simp at h
    · cases before <;> simp at h
  | cons physical physicals ih =>
    -- A line that ends here is the one that is looked for, or stands before it.
    have ends {line' : List Char}
        (h : some line' :: logicalLines [] .complete physicals = before ++ some line :: after) :
        ∃ after', some line' :: logicalLines [] .complete (physicals ++ more) =
          before ++ some line :: after' := by
      cases before with
      | nil =>
        obtain ⟨rfl, -⟩ : line' = line ∧ _ := by simpa using h
        exact ⟨_, rfl⟩
      | cons first before =>
        obtain ⟨rfl, rest⟩ := List.cons.inj h
        obtain ⟨after', behind⟩ := ih rest
        exact ⟨after', by rw [behind, List.cons_append]⟩
    rw [List.cons_append, logicalLines]
    rw [logicalLines] at h
    split at h
    · cases before <;> simp at h
    · next cs decoded =>
      dsimp only at h ⊢
      split at h
      · next comment =>
        rw [if_pos comment]
        exact ends h
      · next noComment =>
        rw [if_neg noComment]
        split at h
        · exact ends h
        · exact ends h
        · exact ih h

/-- A line that is no text ends the list. -/
theorem logicalLines_undecoded (h : ∃ physical ∈ physicals, Utf8.text? physical = none)
    (more : List (List UInt8)) :
    logicalLines joined standing (physicals ++ more) = logicalLines joined standing physicals := by
  induction physicals generalizing joined standing with
  | nil => simp at h
  | cons physical physicals ih =>
    rw [List.cons_append, logicalLines, logicalLines]
    cases decoded : Utf8.decode physical with
    | error fault => rfl
    | ok cs =>
      have later : ∃ physical ∈ physicals, Utf8.text? physical = none := by
        obtain ⟨other, among, noText⟩ := h
        obtain rfl | among := List.mem_cons.mp among
        · simp [Utf8.text?, decoded] at noText
        · exact ⟨other, among, noText⟩
      simp only [ih later]

end

/-- Lines behind a malformed one are not read. -/
theorem loadLines_malformed {line : List Char} (malformed : IsMalformed line) (s : Loading)
    (before after after' : List (Option (List Char))) :
    loadLines s (before ++ some line :: after) = loadLines s (before ++ some line :: after') := by
  induction before generalizing s with
  | nil =>
    have broken := (isMalformed_iff s.lookup).mp malformed
    simp only [List.nil_append, loadLines, broken]
  | cons first before ih =>
    cases first with
    | none => rfl
    | some line =>
      simp only [List.cons_append, loadLines]
      split
      · exact ih s
      · rfl
      · split
        · exact ih _
        · rfl

/-- What stands behind a file that is closed and has a fault is not read. -/
theorem loadLines_behind {file : List UInt8} (h : BreaksOff file) (more : List UInt8)
    (s : Loading) : loadLines s (linesOf (file ++ more)) = loadLines s (linesOf file) := by
  have lines : linesOf (file ++ more) =
      logicalLines [] .complete (splitLines (withoutMark file) ++ splitLines more) := by
    rw [linesOf, withoutMark_append h.closed, splitLines_append (withoutMark_closed h.closed)]
  rw [lines]
  obtain ⟨line, among, malformed⟩ | undecoded := h.fault
  · obtain ⟨before, after, split⟩ := List.append_of_mem among
    obtain ⟨after', behind⟩ := logicalLines_append split (splitLines more)
    rw [behind, split]
    exact loadLines_malformed malformed s before after' after
  · rw [logicalLines_undecoded undecoded]
    rfl

end EnvFile

end JobConsole
