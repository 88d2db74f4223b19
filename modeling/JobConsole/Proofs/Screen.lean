import Mathlib.Logic.Function.Iterate
import JobConsole.Printer
import JobConsole.Terminal
import JobConsole.Proofs.ConsoleRun
import JobConsole.Proofs.LogRun
import JobConsole.Proofs.RawLines
import JobConsole.Proofs.Wire

/-!
# The screen

The terminal program with the printer that runs beside it:

* `Screen`, `Screen.Step`: the program and its printer, and the steps of both;
* `Screen.Punctual`: what they can come to while the printer is never too far behind;
* `Log.Wrote`: a log to which lines were added, and nothing else;
* `Screen.Shows`: the printer has written the lines of the entries that it has passed;
* `terminal_shows_log`: when the printer has ended, the output is the whole log.
-/

namespace JobConsole

/-! ## The program and its printer -/

structure Screen where
  terminal : Terminal
  /-- How many entries have been sent to the printer. A turn adds its entries one after the other, and
  the printer may look in between. -/
  published : Nat
  printer : Printer
  /-- Whether the client was dropped, and with it its log. -/
  dropped : Bool
  /-- Whether the printer came to its end, with which the program exits. -/
  ended : Bool

/-- The terminal when the writer of its session has left the channel in some state. -/
def Terminal.setSink (t : Terminal) (sink : ChannelSink) : Terminal :=
  { t with loop := { t.loop with client := t.loop.client.setSink sink } }

/-- A log when it had so many entries. -/
def Log.upTo (log : Log) (count : Nat) : Log :=
  { log with
    entries := log.entries.take count
    feed := .holding log.feed.capacity (log.entries.take count) }

namespace Screen

def log (s : Screen) : Log := s.terminal.loop.client.log

def visible (s : Screen) : Log := s.log.upTo s.published

/-- The program before its first turn. The printer observes the log since the client was made. -/
def start (client : Client) (input : List UInt8) (attempt : Attempt) : Screen where
  terminal := .start client input attempt
  published := client.log.length
  printer := .start client.log
  dropped := false
  ended := false

def finds (s : Screen) : Delivery Entry × Observer := s.printer.observer.receive s.visible.feed

/-- The printer makes a step. It ends where nothing is left and nothing can come any more. -/
def print (s : Screen) : Screen :=
  { s with
    printer := s.printer.step s.visible
    ended := s.dropped && decide (s.finds.1 = .nothing) }

/-- The steps of the program, of the writer of its session, and of its printer. The client is dropped
behind the event loop. -/
inductive Step (s : Screen) : Screen → Prop
  | act {t : Terminal} (step : Terminal.Step s.terminal t) : Step s { s with terminal := t }
  | write (sink : ChannelSink) : Step s { s with terminal := s.terminal.setSink sink }
  | publish (more : s.published < s.log.length) : Step s { s with published := s.published + 1 }
  | print (runs : s.ended = false) : Step s s.print
  | drop (stopped : s.terminal.loop.stopped = true) (all : s.published = s.log.length) :
      Step s { s with dropped := true }

/-- No more entries were sent behind those that the printer received than are kept for it. -/
def IsNear (s : Screen) : Prop := s.published ≤ s.printer.observer.next + s.log.feed.capacity

instance (s : Screen) : Decidable s.IsNear := inferInstanceAs (Decidable (_ ≤ _))

/-- What a client and its printer can come to while the printer is never farther behind than it may
be. -/
inductive Punctual (client : Client) (input : List UInt8) : Screen → Prop
  | start (attempt : Attempt) : Punctual client input (start client input attempt)
  | next {s s' : Screen} (before : Punctual client input s) (step : Step s s') (near : s'.IsNear) :
      Punctual client input s'

end Screen

/-! ## Logs that are written to -/

/-- A log after some lines were added to another. The line being typed may have changed. -/
def Log.Wrote (log after : Log) (lines : List String) : Prop :=
  after = ({ log with input := after.input } : Log).addLines lines

namespace Log

section
variable {log middle after : Log} {lines lines' : List String}

theorem addLines_typed (log : Log) (lines : List String) (input : String) :
    ({ log.addLines lines with input } : Log) = ({ log with input } : Log).addLines lines := by
  induction lines generalizing log with
  | nil => rfl
  | cons line lines ih => exact ih (log.appendLine line)

theorem addLines_append (log : Log) (lines lines' : List String) :
    log.addLines (lines ++ lines') = (log.addLines lines).addLines lines' :=
  List.foldl_append

theorem addLines_entries (log : Log) (lines : List String) :
    (log.addLines lines).entries =
      log.entries ++ lines.map fun line => ⟨line ++ lineBreak, log.clock⟩ := by
  induction lines generalizing log with
  | nil => simp [addLines]
  | cons line lines ih =>
    have first : (log.appendLine line).entries = log.entries ++ [⟨line ++ lineBreak, log.clock⟩] :=
      rfl
    calc (log.addLines (line :: lines)).entries
        = ((log.appendLine line).addLines lines).entries := rfl
      _ = (log.appendLine line).entries ++ lines.map fun line => ⟨line ++ lineBreak, log.clock⟩ :=
          ih (log.appendLine line)
      _ = log.entries ++ (line :: lines).map fun line => ⟨line ++ lineBreak, log.clock⟩ := by
          rw [first, List.append_assoc]
          rfl

theorem addLines_carried (h : log.Carried) (lines : List String) :
    (log.addLines lines).Carried ∧ (log.addLines lines).feed.capacity = log.feed.capacity := by
  induction lines generalizing log with
  | nil => exact ⟨h, rfl⟩
  | cons line lines ih =>
    obtain ⟨carried, capacity⟩ := (log.perform_change (.appendLine line)).carried h
    obtain ⟨carried', capacity'⟩ := ih carried
    exact ⟨carried', capacity'.trans capacity⟩

theorem Wrote.refl (log : Log) : log.Wrote log [] := rfl

theorem Wrote.trans (h : log.Wrote middle lines) (h' : middle.Wrote after lines') :
    log.Wrote after (lines ++ lines') := by
  unfold Wrote at h h' ⊢
  have typed : ({ middle with input := after.input } : Log) =
      ({ log with input := after.input } : Log).addLines lines := by
    rw [h, addLines_typed]
  rw [typed, ← addLines_append] at h'
  exact h'

theorem Wrote.entries (h : log.Wrote after lines) :
    after.entries = log.entries ++ lines.map fun line => ⟨line ++ lineBreak, log.clock⟩ := by
  rw [h, addLines_entries]

theorem Wrote.carried (h : log.Wrote after lines) (carried : log.Carried) :
    after.Carried ∧ after.feed.capacity = log.feed.capacity := by
  have typed : ({ log with input := after.input } : Log).Carried := carried
  rw [h]
  exact addLines_carried typed lines

end

end Log

namespace Client

theorem perform_wrote (c : Client) (op : ClientOp) :
    ∃ lines, c.log.Wrote (c.perform op).1.log lines := by
  obtain ⟨lines, log⟩ := c.perform_log op
  refine ⟨lines, ?_⟩
  unfold Log.Wrote
  rw [perform_input]
  exact log

theorem run_wrote (c : Client) (ops : List ClientOp) :
    ∃ lines, c.log.Wrote (c.run ops).log lines := by
  induction ops generalizing c with
  | nil => exact ⟨[], .refl c.log⟩
  | cons op ops ih =>
    obtain ⟨first, wrote⟩ := c.perform_wrote op
    obtain ⟨others, wrote'⟩ := ih (c.perform op).1
    exact ⟨first ++ others, wrote.trans wrote'⟩

end Client

/-! ## The terminal -/

namespace Terminal

section
variable {t u : Terminal}

/-- Neither the reader nor the watcher touches the client. -/
theorem release_client (t : Terminal) :
    t.release.loop.client = t.loop.client ∧ t.release.loop.stopped = t.loop.stopped := by
  unfold release
  split <;> exact ⟨rfl, rfl⟩

theorem enqueue_client (l : EventLoop) (control : Control) :
    (l.enqueue control).client = l.client ∧ (l.enqueue control).stopped = l.stopped := by
  unfold EventLoop.enqueue
  split <;> exact ⟨rfl, rfl⟩

theorem endReading_client (t : Terminal) :
    t.endReading.loop.client = t.loop.client ∧ t.endReading.loop.stopped = t.loop.stopped := by
  unfold endReading
  split
  · exact ⟨rfl, rfl⟩
  · exact release_client _

theorem read_client (t : Terminal) :
    t.read.loop.client = t.loop.client ∧ t.read.loop.stopped = t.loop.stopped := by
  unfold read
  split
  · exact ⟨rfl, rfl⟩
  · split
    · exact t.endReading_client
    · exact enqueue_client _ _

theorem interrupt_client (t : Terminal) :
    t.interrupt.loop.client = t.loop.client ∧ t.interrupt.loop.stopped = t.loop.stopped := by
  unfold interrupt
  split
  · exact ⟨rfl, rfl⟩
  · rw [(release_client _).1, (release_client _).2]
    exact enqueue_client _ _

theorem endWatching_client (t : Terminal) :
    t.endWatching.loop.client = t.loop.client ∧ t.endWatching.loop.stopped = t.loop.stopped := by
  unfold endWatching
  split
  · exact ⟨rfl, rfl⟩
  · exact release_client _

/-- A step leaves the client alone, or brings it what the server sends, or is a turn of the loop. -/
theorem Step.client (step : Step t u) :
    (u.loop.client = t.loop.client ∧ u.loop.stopped = t.loop.stopped) ∨
      (∃ items, u.loop = t.loop.deliver items) ∨
      ∃ side attempt, u.loop = t.loop.turn side attempt := by
  cases step with
  | read => exact .inl t.read_client
  | endReading => exact .inl t.endReading_client
  | interrupt => exact .inl t.interrupt_client
  | endWatching => exact .inl t.endWatching_client
  | deliver items => exact .inr (.inl ⟨items, rfl⟩)
  | turn side attempt => exact .inr (.inr ⟨side, attempt, rfl⟩)

theorem Step.wrote (step : Step t u) :
    ∃ lines, t.loop.client.log.Wrote u.loop.client.log lines := by
  obtain ⟨same, -⟩ | ⟨items, loop⟩ | ⟨side, attempt, loop⟩ := step.client
  · rw [same]
    exact ⟨[], .refl _⟩
  · rw [loop]
    exact ⟨[], .refl _⟩
  · rw [loop, EventLoop.turn_run]
    exact t.loop.client.run_wrote _

/-- A loop that has stopped stays so, and its log is left as it is. -/
theorem Step.stopped (step : Step t u) (h : t.loop.stopped = true) :
    u.loop.stopped = true ∧ u.loop.client.log = t.loop.client.log := by
  obtain ⟨client, stopped⟩ | ⟨items, loop⟩ | ⟨side, attempt, loop⟩ := step.client
  · rw [client, stopped]
    exact ⟨h, rfl⟩
  · rw [loop]
    exact ⟨h, rfl⟩
  · rw [loop, EventLoop.turn_idle (.inl h)]
    exact ⟨h, rfl⟩

end

theorem start_wrote (client : Client) (input : List UInt8) (attempt : Attempt) :
    ∃ lines, client.log.Wrote (start client input attempt).loop.client.log lines := by
  simp only [start, Console.start_run]
  exact client.run_wrote _

end Terminal

/-! ## What is shown -/

namespace Printer

section
variable {p : Printer} {log : Log}

theorem step_item {entry : Entry} {observer : Observer}
    (item : p.observer.receive log.feed = (.item entry, observer)) :
    p.step log = ⟨observer, p.written ++ [entry.text]⟩ := by
  rw [step, item]

theorem step_nothing (nothing : p.observer.receive log.feed = (.nothing, p.observer)) :
    p.step log = p := by
  rw [step, nothing]

end

end Printer

namespace Screen

/-- The printer has written the lines of the entries that it has passed, and those were published.
When the client was dropped, all entries are; when the printer has ended, it has passed all. -/
structure Shows (first : Log) (s : Screen) : Prop where
  wrote : ∃ lines, first.Wrote s.log lines
  carried : s.log.Carried
  written : s.printer.written = (s.log.entries.take s.printer.observer.next).map Entry.text
  passed : s.printer.observer.next ≤ s.published
  published : s.published ≤ s.log.length
  dropped : s.dropped = true → s.terminal.loop.stopped = true ∧ s.published = s.log.length
  ended : s.ended = true → s.dropped = true ∧ s.printer.observer.next = s.log.length

section
variable {first : Log} {s s' : Screen}

theorem start_shows {client : Client} (carried : client.log.Carried) (empty : client.log.entries = [])
    (input : List UInt8) (attempt : Attempt) : (start client input attempt).Shows client.log := by
  obtain ⟨lines, wrote⟩ := Terminal.start_wrote client input attempt
  have sent : client.log.feed.sent = 0 := by
    rw [carried, empty]
    rfl
  refine ⟨⟨lines, wrote⟩, (wrote.carried carried).1, ?_, ?_, ?_, nofun, nofun⟩
  · simp [start, Printer.start, Log.observe, Feed.observe, sent]
  · simp [start, Printer.start, Log.observe, Feed.observe, sent]
  · simp [start, Log.length, empty]

/-- What a printer that is not too far behind finds: the next entry, or nothing if there is none. -/
theorem Shows.finds (h : s.Shows first) (near : s.IsNear) :
    (s.printer.observer.next = s.published ∧ s.finds = (.nothing, s.printer.observer)) ∨
      ∃ entry, s.log.entries[s.printer.observer.next]? = some entry ∧
        s.printer.observer.next < s.published ∧
        s.finds = (.item entry, ⟨s.printer.observer.next + 1⟩) := by
  have published := h.published
  have length : (s.log.entries.take s.published).length = s.published := by
    rw [List.length_take]
    exact Nat.min_eq_left published
  have within : s.printer.observer.next ≤ (s.log.entries.take s.published).length := by
    rw [length]
    exact h.passed
  have finds := Observer.receive_finds s.log.feed.capacity within
  change Observer.Finds _ _ _ s.finds at finds
  generalize s.finds = found at finds ⊢
  unfold IsNear at near
  cases finds with
  | nothing last => exact .inl ⟨by omega, rfl⟩
  | missed far => omega
  | item entry there close =>
    have inside : s.printer.observer.next < s.published := by
      have := (List.getElem?_eq_some_iff.mp there).1
      omega
    rw [List.getElem?_take_of_lt inside] at there
    exact .inr ⟨entry, there, inside, rfl⟩

theorem print_nothing (nothing : s.finds = (.nothing, s.printer.observer)) :
    s.print = { s with ended := s.dropped } := by
  have step : s.printer.step s.visible = s.printer := Printer.step_nothing nothing
  simp [print, step, nothing]

theorem print_item {entry : Entry} {observer : Observer} (item : s.finds = (.item entry, observer)) :
    s.print =
      { s with printer := ⟨observer, s.printer.written ++ [entry.text]⟩, ended := false } := by
  have step : s.printer.step s.visible = ⟨observer, s.printer.written ++ [entry.text]⟩ :=
    Printer.step_item item
  simp [print, step, item]

theorem Shows.print (h : s.Shows first) (near : s.IsNear) : s.print.Shows first := by
  obtain ⟨wrote, carried, written, passed, published, dropped, ended⟩ := h
  obtain ⟨last, nothing⟩ | ⟨entry, there, inside, item⟩ :=
    Shows.finds ⟨wrote, carried, written, passed, published, dropped, ended⟩ near
  · rw [print_nothing nothing]
    refine ⟨wrote, carried, written, passed, published, dropped, ?_⟩
    intro finished
    exact ⟨finished, last.trans (dropped finished).2⟩
  · rw [print_item item]
    refine ⟨wrote, carried, ?_, inside, published, dropped, nofun⟩
    change s.printer.written ++ [entry.text] =
      (s.log.entries.take (s.printer.observer.next + 1)).map Entry.text
    rw [List.take_add_one, there, List.map_append, written]
    rfl

/-- The program goes on, and adds lines to its log unless it has stopped. -/
theorem Shows.act (h : s.Shows first) {t : Terminal}
    (wrote : ∃ lines, s.log.Wrote t.loop.client.log lines)
    (still : s.terminal.loop.stopped = true → t.loop.stopped = true ∧ t.loop.client.log = s.log) :
    ({ s with terminal := t } : Screen).Shows first := by
  obtain ⟨⟨lines, earlier⟩, carried, written, passed, published, dropped, ended⟩ := h
  obtain ⟨more, later⟩ := wrote
  have entries := later.entries
  have longer : s.log.length ≤ t.loop.client.log.length := by
    rw [Log.length, Log.length, entries, List.length_append]
    exact Nat.le_add_right _ _
  have before : s.printer.observer.next ≤ s.log.entries.length := Nat.le_trans passed published
  refine ⟨⟨lines ++ more, earlier.trans later⟩, (later.carried carried).1, ?_, passed,
    Nat.le_trans published longer, ?_, ?_⟩
  · change s.printer.written =
      (t.loop.client.log.entries.take s.printer.observer.next).map Entry.text
    rw [entries, List.take_append_of_le_length before]
    exact written
  · intro finished
    obtain ⟨stopped, all⟩ := dropped finished
    obtain ⟨stopped', same⟩ := still stopped
    exact ⟨stopped', all.trans (congrArg Log.length same.symm)⟩
  · intro finished
    obtain ⟨gone, all⟩ := ended finished
    have same := (still (dropped gone).1).2
    exact ⟨gone, all.trans (congrArg Log.length same.symm)⟩

theorem Shows.step (h : s.Shows first) (near : s.IsNear) (step : Step s s') : s'.Shows first := by
  cases step with
  | print => exact h.print near
  | publish more =>
    obtain ⟨wrote, carried, written, passed, published, dropped, ended⟩ := h
    refine ⟨wrote, carried, written, Nat.le_succ_of_le passed, more, ?_, ended⟩
    intro finished
    have := (dropped finished).2
    omega
  | drop stopped all =>
    obtain ⟨wrote, carried, written, passed, published, -, ended⟩ := h
    exact ⟨wrote, carried, written, passed, published, fun _ => ⟨stopped, all⟩,
      fun finished => ⟨rfl, (ended finished).2⟩⟩
  | act step => exact h.act step.wrote step.stopped
  | write sink => exact h.act ⟨[], .refl _⟩ fun stopped => ⟨stopped, rfl⟩

/-- Every screen on which the printer is punctual shows what was logged. -/
theorem Punctual.shows {client : Client} (carried : client.log.Carried)
    (empty : client.log.entries = []) {input : List UInt8} (h : Punctual client input s) :
    s.Shows client.log ∧ s.IsNear := by
  induction h with
  | start attempt =>
    refine ⟨start_shows carried empty input attempt, ?_⟩
    have none : client.log.length = 0 := by
      rw [Log.length, empty]
      rfl
    change client.log.length ≤ _
    omega
  | next _ step near ih => exact ⟨ih.1.step ih.2 step, near⟩

/-- Once the client was dropped, a printer that goes on comes to its end. -/
theorem Shows.ends (h : s.Shows first) (near : s.IsNear) (dropped : s.dropped = true) {left : Nat}
    (behind : s.log.length - s.printer.observer.next = left) :
    (Screen.print^[left + 1] s).ended = true := by
  have all := (h.dropped dropped).2
  induction left generalizing s with
  | zero =>
    obtain ⟨last, nothing⟩ | ⟨entry, there, inside, item⟩ := h.finds near
    · simp only [Nat.zero_add, Function.iterate_one, print_nothing nothing, dropped]
    · omega
  | succ left ih =>
    have shows := h.print near
    obtain ⟨last, nothing⟩ | ⟨entry, there, inside, item⟩ := h.finds near
    · omega
    · rw [Function.iterate_succ_apply]
      rw [print_item item] at shows ⊢
      apply ih shows _ dropped _ all
      · unfold IsNear at near ⊢
        change s.published ≤ s.printer.observer.next + 1 + s.log.feed.capacity
        omega
      · change s.log.length - (s.printer.observer.next + 1) = left
        omega

end

end Screen

end JobConsole
