import JobConsole.Log

namespace JobConsole.Log

def fragments (log : Log) : List String := log.entries.map Entry.html

theorem length_fragments (log : Log) : log.fragments.length = log.length := by
  simp [fragments, length]

@[simp] theorem fragments_append (log : Log) (html : String) :
    (log.append html).fragments = log.fragments ++ [html] := by
  simp [append, fragments]

@[simp] theorem fragments_appendLine (log : Log) (line : String) :
    (log.appendLine line).fragments = log.fragments ++ [line ++ lineBreak] :=
  fragments_append log _

@[simp] theorem length_appendLine (log : Log) (line : String) :
    (log.appendLine line).length = log.length + 1 := by
  simp [appendLine, append, length]

/-- Behind a line the view stands at the bottom. -/
@[simp] theorem scrollTop_appendLine (log : Log) (line : String) :
    (log.appendLine line).scrollTop = log.fragments.length + 1 := by
  simp [appendLine, append, fragments]

@[simp] theorem input_appendLine (log : Log) (line : String) :
    (log.appendLine line).input = log.input := rfl

@[simp] theorem fragments_setInput (log : Log) (input : String) :
    (log.setInput input).fragments = log.fragments := rfl

@[simp] theorem fragments_clearInput (log : Log) : log.clearInput.fragments = log.fragments := rfl

/-- A log that was just made is empty. -/
theorem fragments_ofCapacity {capacity : Nat} {log : Log} (h : ofCapacity capacity = .ok log) :
    log.fragments = [] := by
  unfold ofCapacity at h
  cases hf : Feed.ofCapacity (α := Entry) entrySize (max capacity 1) with
  | error e => simp [hf, Except.map] at h
  | ok feed =>
    simp only [hf, Except.map, Except.ok.injEq] at h
    rw [← h]; rfl

end JobConsole.Log
