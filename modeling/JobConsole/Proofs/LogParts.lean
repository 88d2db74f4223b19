import Mathlib.Data.List.Induction
import JobConsole.Proofs.Audience

/-!
# The parts of a log

A log has its entries, a view of them, and the line being typed. Each has operations of its own, and
what is done to one part does not show in another:

* `Log.Part`, `LogOp.touches`, `Log.Matches`: the parts, the operations that touch them, and logs that
  match in a part;
* `Matches.run`: a part depends on the operations that touch it, and on no others;
* `Log.ViewAt`: where the view is behind some operations, told by the last one that moved it;
* `log_parts_stand_apart`: what each part is behind whatever was done to a log.
-/

namespace JobConsole

/-! ## Operations by the parts they touch -/

/-- What a log consists of, beside what it keeps for its observers. -/
inductive Log.Part
  | entries
  | view
  | input
  deriving DecidableEq, Repr

namespace LogOp

/-- Whether an operation can change a part. The entries are stamped with the time. -/
def touches (part : Log.Part) : LogOp → Bool
  | .append _ | .appendLine _ => part ≠ .input
  | .scrollTo _ => part = .view
  | .setInput _ | .clearInput => part = .input
  | .setClock _ => part = .entries

def added? : LogOp → Option String
  | .append html => some html
  | .appendLine line => some (line ++ lineBreak)
  | .scrollTo _ | .setInput _ | .clearInput | .setClock _ => none

/-- What an operation makes of the line being typed. -/
def typed? : LogOp → Option String
  | .setInput input => some input
  | .clearInput => some ""
  | .append _ | .appendLine _ | .scrollTo _ | .setClock _ => none

def fragments (ops : List LogOp) : List String := ops.filterMap added?

theorem fragments_append (ops more : List LogOp) :
    fragments (ops ++ more) = fragments ops ++ fragments more :=
  List.filterMap_append

end LogOp

namespace Log

section
variable {log log' : Log}

theorem run_append (log : Log) (ops more : List LogOp) :
    log.run (ops ++ more) = (log.run ops).run more :=
  List.foldl_append

/-! ## Logs that match in a part -/

/-- Two logs have the same entries and will stamp alike, have the same view of as many entries, or have
the same line being typed. -/
def Matches (log log' : Log) : Part → Prop
  | .entries => log.entries = log'.entries ∧ log.clock = log'.clock
  | .view => log.scrollTop = log'.scrollTop ∧ log.length = log'.length
  | .input => log.input = log'.input

theorem Matches.perform {part : Part} (h : log.Matches log' part) (op : LogOp) :
    (log.perform op).Matches (log'.perform op) part := by
  cases part with
  | entries =>
    obtain ⟨entries, clock⟩ := h
    cases op <;> simp [Matches, Log.perform, appendLine, append, scrollTo, setInput, clearInput,
      setClock, entries, clock]
  | view =>
    obtain ⟨top, length⟩ := h
    unfold Log.length at length
    cases op <;> simp [Matches, Log.perform, appendLine, append, scrollTo, scrollHeight, setInput,
      clearInput, setClock, Log.length, top, length]
  | input =>
    have input : log.input = log'.input := h
    cases op <;> simp [Matches, Log.perform, appendLine, append, scrollTo, setInput, clearInput,
      setClock, input]

/-- An operation leaves the parts that it does not touch as they were. -/
theorem perform_untouched (log : Log) {op : LogOp} {part : Part} (h : op.touches part = false) :
    (log.perform op).Matches log part := by
  cases part with
  | entries =>
    cases op with
    | append | appendLine | setClock => cases h
    | scrollTo | setInput | clearInput => exact ⟨rfl, rfl⟩
  | view =>
    cases op with
    | append | appendLine | scrollTo => cases h
    | setInput | clearInput | setClock => exact ⟨rfl, rfl⟩
  | input =>
    cases op with
    | setInput | clearInput => cases h
    | append | appendLine | scrollTo | setClock => rfl

theorem Matches.trans {log'' : Log} {part : Part} (h : log.Matches log' part)
    (h' : log'.Matches log'' part) : log.Matches log'' part := by
  cases part with
  | entries | view => exact ⟨h.1.trans h'.1, h.2.trans h'.2⟩
  | input => exact Eq.trans h h'

theorem Matches.symm {part : Part} (h : log.Matches log' part) : log'.Matches log part := by
  cases part with
  | entries | view => exact ⟨h.1.symm, h.2.symm⟩
  | input => exact Eq.symm h

/-- Operations that do not touch a part can be left out. -/
theorem Matches.run_filter {part : Part} (h : log.Matches log' part) (ops : List LogOp) :
    (log.run ops).Matches (log'.run (ops.filter (LogOp.touches part))) part := by
  induction ops generalizing log log' with
  | nil => exact h
  | cons op ops ih =>
    cases touched : op.touches part with
    | true =>
      rw [List.filter_cons_of_pos touched]
      exact ih (h.perform op)
    | false =>
      rw [List.filter_cons_of_neg (by simp [touched])]
      exact ih ((log.perform_untouched touched).trans h)

/-- A part depends only on the operations that touch it. -/
theorem Matches.run {part : Part} (h : log.Matches log' part) {ops ops' : List LogOp}
    (same : ops.filter (LogOp.touches part) = ops'.filter (LogOp.touches part)) :
    (log.run ops).Matches (log'.run ops') part := by
  have first := h.run_filter ops
  rw [same] at first
  exact first.trans ((h.symm.trans h).run_filter ops').symm

end

/-! ## What the parts are -/

theorem perform_fragments (log : Log) (op : LogOp) :
    (log.perform op).fragments = log.fragments ++ op.added?.toList := by
  cases op with
  | append html => exact fragments_append log html
  | appendLine line => exact fragments_appendLine log line
  | scrollTo | setInput | clearInput | setClock => exact (List.append_nil _).symm

theorem run_fragments (log : Log) (ops : List LogOp) :
    (log.run ops).fragments = log.fragments ++ LogOp.fragments ops := by
  induction ops generalizing log with
  | nil => exact (List.append_nil _).symm
  | cons op ops ih =>
    rw [run_cons, ih, perform_fragments, List.append_assoc]
    cases added : op.added? <;> simp [LogOp.fragments, added]

theorem perform_input (log : Log) (op : LogOp) :
    (log.perform op).input = op.typed?.getD log.input := by
  cases op <;> rfl

/-- The line being typed is what the last operation on it made of it. -/
theorem run_input (log : Log) (ops : List LogOp) :
    (log.run ops).input = (ops.filterMap LogOp.typed?).getLast?.getD log.input := by
  induction ops generalizing log with
  | nil => rfl
  | cons op ops ih =>
    rw [run_cons, ih, perform_input]
    cases typed : op.typed? with
    | none => simp [typed]
    | some input =>
      rw [List.filterMap_cons_some typed, List.getLast?_cons]
      simp

/-- The entries of a log are only ever extended. -/
theorem entries_prefix_run (log : Log) (ops : List LogOp) : log.entries <+: (log.run ops).entries := by
  induction ops generalizing log with
  | nil => exact List.prefix_rfl
  | cons op ops ih =>
    have first : log.entries <+: (log.perform op).entries := by
      cases log.perform_change op with
      | adds entry entries => exact ⟨[entry], entries.symm⟩
      | keeps entries => exact ⟨[], by rw [entries, List.append_nil]⟩
    exact first.trans (ih (log.perform op))

/-! ## The view -/

/-- Where the view is behind some operations on an empty log: at the bottom of all entries behind one
that was added, where it was moved to within those that there were, or at the top if nothing moved
it. -/
inductive ViewAt : List LogOp → Nat → Prop
  | top {ops : List LogOp} (still : ∀ op ∈ ops, op.touches .view = false) : ViewAt ops 0
  | bottom {before rest : List LogOp} {op : LogOp} (adds : op.added?.isSome = true)
      (still : ∀ op ∈ rest, op.touches .view = false) :
      ViewAt (before ++ op :: rest) (LogOp.fragments (before ++ op :: rest)).length
  | moved {before rest : List LogOp} (position : Nat)
      (still : ∀ op ∈ rest, op.touches .view = false) :
      ViewAt (before ++ .scrollTo position :: rest)
        (min position (LogOp.fragments before).length)

/-- What does not touch the view leaves it where it is. -/
theorem run_still (log : Log) {ops : List LogOp} (still : ∀ op ∈ ops, op.touches .view = false) :
    (log.run ops).Matches log .view := by
  have none : ops.filter (LogOp.touches .view) = List.filter (LogOp.touches .view) [] :=
    List.filter_eq_nil_iff.mpr fun op member => by simp [still op member]
  have same : log.Matches log .view := ⟨rfl, rfl⟩
  exact same.run none

/-- An entry that is added takes the view to the bottom. -/
theorem perform_bottom (log : Log) {op : LogOp} (adds : op.added?.isSome = true) :
    (log.perform op).scrollTop = (log.perform op).length := by
  cases op with
  | append | appendLine => rfl
  | scrollTo | setInput | clearInput | setClock => cases adds

section
variable {log : Log} {ops : List LogOp} {position : Nat}

theorem length_run (empty : log.fragments = []) (ops : List LogOp) :
    (log.run ops).length = (LogOp.fragments ops).length := by
  rw [← length_fragments, run_fragments, empty, List.nil_append]

theorem ViewAt.scrollTop (h : ViewAt ops position) (empty : log.fragments = [])
    (top : log.scrollTop = 0) : (log.run ops).scrollTop = position := by
  cases h with
  | top still => rw [(run_still log still).1, top]
  | @bottom before rest op adds still =>
    have height := length_run empty (before ++ op :: rest)
    rw [run_append, run_cons] at height ⊢
    obtain ⟨same, length⟩ := run_still ((log.run before).perform op) still
    rw [same, perform_bottom _ adds, ← length, height]
  | @moved before rest position still =>
    rw [run_append, run_cons, (run_still _ still).1]
    change min position (log.run before).length = _
    rw [length_run empty before]

theorem ViewAt.still (h : ViewAt ops position) {op : LogOp} (still : op.touches .view = false) :
    ∃ position', ViewAt (ops ++ [op]) position' := by
  have behind {rest : List LogOp} (earlier : ∀ o ∈ rest, o.touches .view = false) :
      ∀ o ∈ rest ++ [op], o.touches .view = false := by
    intro o member
    obtain member | member := List.mem_append.mp member
    · exact earlier o member
    · exact List.mem_singleton.mp member ▸ still
  cases h with
  | top earlier => exact ⟨0, .top (behind earlier)⟩
  | bottom adds earlier =>
    rw [List.append_assoc, List.cons_append]
    exact ⟨_, .bottom adds (behind earlier)⟩
  | moved position earlier =>
    rw [List.append_assoc, List.cons_append]
    exact ⟨_, .moved position (behind earlier)⟩

theorem exists_viewAt (ops : List LogOp) : ∃ position, ViewAt ops position := by
  induction ops using List.reverseRecOn with
  | nil => exact ⟨0, .top nofun⟩
  | append_singleton ops op ih =>
    obtain ⟨position, view⟩ := ih
    cases op with
    | append | appendLine => exact ⟨_, .bottom rfl nofun⟩
    | scrollTo position => exact ⟨_, .moved position nofun⟩
    | setInput | clearInput | setClock => exact view.still rfl

/-- The view of a log that was empty is where the operations on it say, and nowhere else. -/
theorem viewAt_iff (empty : log.fragments = []) (top : log.scrollTop = 0) :
    ViewAt ops position ↔ (log.run ops).scrollTop = position := by
  constructor
  · intro view
    exact view.scrollTop empty top
  · rintro rfl
    obtain ⟨position, view⟩ := exists_viewAt ops
    rwa [view.scrollTop empty top]

theorem ViewAt.le (h : ViewAt ops position) : position ≤ (LogOp.fragments ops).length := by
  cases h with
  | top => exact Nat.zero_le _
  | bottom => exact Nat.le_refl _
  | @moved before rest position still =>
    rw [LogOp.fragments_append, List.length_append]
    exact Nat.le_trans (Nat.min_le_right _ _) (Nat.le_add_right _ _)

end

end Log

/-- **The parts of a log stand apart.** A log is made, and whatever is done to it, by whoever observes
it. Its view is never below its entries, of which there are as many as were added. The view is where
the last operation that moved it took it: to the bottom, if that added an entry, else to the place it
was told, within the entries that there were then. The log shows the fragments that were added, one
after the other, and the line being typed is the last one that was set since the line was cleared, or
empty. What is done later only adds entries behind those that there are, and fragments behind what is
shown. Two logs that were treated alike as to one of the three parts match in it, whatever was done
to the others, how many entries each keeps and who observes it. -/
theorem log_parts_stand_apart {capacity : Nat} {log : Log} (made : Log.ofCapacity capacity = .ok log)
    (events : List Audience.Event) :
    let ops := events.filterMap Audience.Event.edit?
    let l := ((Audience.ofLog log).run events).log
    (l.scrollTop ≤ l.scrollHeight ∧ l.scrollHeight = (LogOp.fragments ops).length) ∧
    (∀ position, Log.ViewAt ops position ↔ l.scrollTop = position) ∧
    (l.fragments = LogOp.fragments ops ∧ l.html = String.join (LogOp.fragments ops)) ∧
    l.input = (ops.filterMap LogOp.typed?).getLast?.getD "" ∧
    (∀ more : List Audience.Event,
      let later := ((Audience.ofLog log).run (events ++ more)).log
      l.entries <+: later.entries ∧
        later.html = l.html ++ String.join (LogOp.fragments (more.filterMap Audience.Event.edit?))) ∧
    ∀ (capacity' : Nat) (log' : Log) (part : Log.Part) (events' : List Audience.Event),
      Log.ofCapacity capacity' = .ok log' →
        ops.filter (LogOp.touches part) =
          (events'.filterMap Audience.Event.edit?).filter (LogOp.touches part) →
        l.Matches ((Audience.ofLog log').run events').log part := by
  intro ops l
  have fresh := Log.ofCapacity_ok made
  have empty : log.fragments = [] := by rw [fresh]; rfl
  have top : log.scrollTop = 0 := by rw [fresh]; rfl
  have blank : log.input = "" := by rw [fresh]; rfl
  have edited : l = log.run ops := Audience.run_log _ events
  have fragments : l.fragments = LogOp.fragments ops := by
    rw [edited, Log.run_fragments, empty, List.nil_append]
  have height : l.scrollHeight = (LogOp.fragments ops).length := by
    rw [edited]
    exact Log.length_run empty ops
  have view : ∀ position, Log.ViewAt ops position ↔ l.scrollTop = position := by
    intro position
    rw [edited]
    exact Log.viewAt_iff empty top
  have html (ops : List LogOp) : (log.run ops).html = String.join (LogOp.fragments ops) := by
    change String.join (log.run ops).fragments = _
    rw [Log.run_fragments, empty, List.nil_append]
  refine ⟨⟨?_, height⟩, view, ⟨fragments, ?_⟩, ?_, ?_, ?_⟩
  · rw [height]
    exact ((view l.scrollTop).mpr rfl).le
  · rw [edited, html]
  · rw [edited, Log.run_input, blank]
  · intro more later
    have edited' : later = (log.run ops).run (more.filterMap Audience.Event.edit?) := by
      rw [← Log.run_append, ← List.filterMap_append]
      exact Audience.run_log _ (events ++ more)
    refine ⟨?_, ?_⟩
    · rw [edited, edited']
      exact (log.run ops).entries_prefix_run _
    · rw [edited', ← Log.run_append, html, LogOp.fragments_append, String.join_append, edited, html]
  · intro capacity' log' part events' made' same
    have fresh' := Log.ofCapacity_ok made'
    have matched : log.Matches log' part := by
      rw [fresh, fresh']
      cases part with
      | entries | view => exact ⟨rfl, rfl⟩
      | input => rfl
    have run' : ((Audience.ofLog log').run events').log =
        log'.run (events'.filterMap Audience.Event.edit?) := Audience.run_log _ events'
    rw [edited, run']
    exact matched.run same

/-- A view that is moved below the one entry there is stays there, while a line is typed. On another log
the same line is typed among other entries and other moves. -/
theorem log_parts_stand_apart_of_typing :
    let log : Log := { Log.empty with feed := ⟨4, 0, []⟩ }
    let log' : Log := { Log.empty with feed := ⟨8, 0, []⟩ }
    let events : List Audience.Event :=
      [.edit (.appendLine "a"), .edit (.scrollTo 9), .edit (.setInput "watch"), .join,
        .edit .clearInput, .edit (.setInput "list")]
    let events' : List Audience.Event :=
      [.edit (.setInput "watch"), .edit (.append "b"), .edit .clearInput, .look 0,
        .edit (.appendLine "c"), .edit (.setInput "list"), .edit (.scrollTo 0)]
    let ops := events.filterMap Audience.Event.edit?
    Log.ofCapacity 3 = .ok log ∧ Log.ofCapacity 5 = .ok log' ∧
      (∀ position, Log.ViewAt ops position ↔ 1 = position) ∧
      ((Audience.ofLog log).run events).log.Matches ((Audience.ofLog log').run events').log .input ∧
      ((Audience.ofLog log).run (events ++ events')).log.html = "a<br/>" ++ "bc<br/>" := by
  intro log log' events events' ops
  have made : Log.ofCapacity 3 = .ok log := rfl
  have made' : Log.ofCapacity 5 = .ok log' := rfl
  obtain ⟨-, view, -, -, later, apart⟩ := log_parts_stand_apart made events
  exact ⟨made, made', view, apart 5 log' .input events' made' rfl, (later events').2⟩

end JobConsole
