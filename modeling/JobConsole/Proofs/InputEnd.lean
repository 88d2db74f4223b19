import JobConsole.Proofs.Parties
import JobConsole.Proofs.Screen
import JobConsole.Proofs.Settings.Sources

/-!
# The end of the input

What the terminal program does when its input is used up:

* `Parties.Spent`: the reader has ended, what it sent was handled, and no connection is read;
* `Spent.step`: all that can happen then;
* `Terminal.run_endless_iff`: the program on a whole input goes on for ever unless the input asks for
  its end;
* `ends_with_input_iff_unwatched`: the program ends with its input only if it cannot be interrupted.
-/

namespace JobConsole

/-- Nothing arrives where nothing is read. -/
theorem Client.deliver_idle {c : Client} (idle : c.isReading = false) (items : List Incoming) :
    c.deliver items = c := by
  have none (a : Active) (current : c.active = some a) : a.inbound = none := by
    simpa [isReading, inbound?, current] using idle
  obtain ⟨settings, log, active, ids⟩ := c
  cases active with
  | none => rfl
  | some a =>
    obtain ⟨session, inbound⟩ := a
    obtain rfl : inbound = Option.none := none _ rfl
    rfl

namespace Parties

/-- The reader has ended, the loop has handled all that the reader sent and reads no connection, and
the user has not interrupted the program. -/
structure Spent (p : Parties) : Prop where
  ended : p.reading = false
  handled : p.handled = p.sent
  idle : p.loop.client.isReading = false
  calm : p.watcher.interrupted = false

section
variable {client : Client} {input : List UInt8} {p q : Parties}

/-- The watcher has not been interrupted, so it waits for that, or cannot. -/
theorem Spent.watcher (h : p.Spent) : p.watcher = .waiting ∨ p.watcher = .failed := by
  have calm := h.calm
  cases watcher : p.watcher with
  | waiting => exact .inl rfl
  | failed => exact .inr rfl
  | sending | done => simp [watcher, Watcher.interrupted] at calm

theorem Spent.empty (h : p.Spent) (sound : p.Sound input) : p.loop.controls = [] := by
  have unsaid : p.watcher ≠ .done := by
    obtain watcher | watcher := h.watcher <;> simp [watcher]
  have flow := sound.flow unsaid
  rw [h.handled] at flow
  exact List.append_right_eq_self.mp flow

theorem Spent.senders (h : p.Spent) (sound : p.Sound input) :
    p.loop.senders = false ↔ p.watcher = .failed := by
  rw [sound.held, h.ended, Bool.false_or]
  obtain watcher | watcher := h.watcher <;> simp [watcher, Watcher.holds]

theorem Spent.listening (h : p.Spent) (sound : p.Sound input) (live : p.loop.stopped = false) :
    p.loop.listening = true :=
  (sound.waits live).2.resolve_right (by simp [h.idle])

/-- Only the side of the controls can be ready, and it is if the watcher has failed. -/
theorem Spent.ready (h : p.Spent) (sound : p.Sound input) (live : p.loop.stopped = false)
    (side : Side) : p.loop.isReady side = true ↔ side = .control ∧ p.watcher = .failed := by
  cases side with
  | control =>
    simp [EventLoop.isReady, h.listening sound live, h.empty sound, h.senders sound]
  | inbound =>
    have none : p.loop.client.inbound? = none := by simpa [Client.isReading] using h.idle
    simp [EventLoop.isReady, none]

/-- The loop hears that no controls can come, and stops. -/
theorem Spent.stops (h : p.Spent) (sound : p.Sound input) (live : p.loop.stopped = false)
    (failed : p.watcher = .failed) (attempt : Attempt) :
    (p.loop.turn .control attempt).stopped = true := by
  have ready : p.loop.isReady .control = true := (h.ready sound live .control).mpr ⟨rfl, failed⟩
  have empty := h.empty sound
  generalize after : p.loop.turn .control attempt = l
  have step := EventLoop.turn_step live ready attempt
  rw [after] at step
  cases step with
  | submits _ _ _ queue | reconnects _ _ queue | shutsDown _ _ queue => simp [empty] at queue
  | hearsEnd =>
    rw [EventLoop.settle_stops (l := { p.loop with listening := false }) rfl h.idle]
    rfl

/-- All that can happen then: nothing, or an interrupt, or the failure of the watcher, or the end of the
loop if the watcher has failed. -/
theorem Spent.step (h : p.Spent) (sound : p.Sound input) (step : Step p q) :
    q = p ∨ (p.watcher = .waiting ∧ (q.watcher = .sending ∨ q.watcher = .failed)) ∨
      (p.watcher = .failed ∧ q.loop.stopped = true) := by
  cases step with
  | read runs | send runs | finish runs => simp [h.ended] at runs
  | interrupt waits => exact .inr (.inl ⟨waits, .inl rfl⟩)
  | fail waits => exact .inr (.inl ⟨waits, .inr (release_watcher _)⟩)
  | shutDown interrupted | giveUp interrupted =>
    have calm := h.calm
    simp [interrupted, Watcher.interrupted] at calm
  | arrive items =>
    have same : p.loop.deliver items = p.loop := by
      rw [EventLoop.deliver, Client.deliver_idle h.idle]
    exact .inl (by rw [same])
  | turn live side ready attempt =>
    obtain ⟨rfl, failed⟩ := (h.ready sound live side).mp ready
    exact .inr (.inr ⟨failed, h.stops sound live failed attempt⟩)

/-- A watcher that waits has waited since it began. -/
theorem Step.waiting (step : Step p q) (waits : q.watcher = .waiting) : p.watcher = .waiting := by
  cases step with
  | finish => rwa [release_watcher] at waits
  | interrupt quiet | fail quiet => exact quiet
  | shutDown | giveUp => simp at waits
  | read | send | arrive | turn => exact waits

/-- As long as the watcher waits, nothing happens any more. -/
theorem Spent.rests (h : p.Spent) (sound : p.Sound input) (leads : Leads p q)
    (waits : q.watcher = .waiting) : q = p := by
  induction leads with
  | start => rfl
  | next _ step ih =>
    have before := step.waiting waits
    obtain rfl := ih before
    obtain same | ⟨-, interrupted | failed⟩ | ⟨failed, -⟩ := h.step sound step
    · exact same
    · simp [interrupted] at waits
    · simp [failed] at waits
    · simp [failed] at before

/-- An interrupt is sent as a shutdown, and the loop stops. -/
theorem Spent.interrupted (h : p.Spent) (sound : p.Sound input) (live : p.loop.stopped = false)
    (waits : p.watcher = .waiting) :
    ∃ q, Leads { p with watcher := .sending } q ∧ q.loop.stopped = true := by
  have empty := h.empty sound
  have unclosed := sound.unclosed_watcher (by rw [waits]; rfl)
  have queued : (p.loop.enqueue .shutdown).controls = [.shutdown] := by
    simp [EventLoop.enqueue, unclosed, empty]
  have alike : (p.loop.enqueue .shutdown).listening = true ∧
      (p.loop.enqueue .shutdown).stopped = false := by
    simp [EventLoop.enqueue, unclosed, h.listening sound live, live]
  have sent := Leads.start.next
    (Step.shutDown (p := { p with watcher := .sending }) rfl live (by simp [empty, capacity]))
  have loop : (release { p with loop := p.loop.enqueue .shutdown, watcher := .done }).loop =
      (p.loop.enqueue .shutdown).closeControls := by
    simp [release, h.ended, Watcher.holds]
  generalize release { p with loop := p.loop.enqueue .shutdown, watcher := .done } = r at sent loop
  have there : r.loop.stopped = false := by rw [loop]; exact alike.2
  have ready : r.loop.isReady .control = true := by
    simp [loop, EventLoop.isReady, EventLoop.closeControls, alike.1]
  refine ⟨_, sent.next (.turn there .control ready .silent), ?_⟩
  have step := EventLoop.turn_step there ready .silent
  generalize r.loop.turn .control .silent = l at step ⊢
  have queue : r.loop.controls = [.shutdown] := by rw [loop]; exact queued
  cases step with
  | submits _ _ _ other | reconnects _ _ other | hearsEnd _ other => simp [queue] at other
  | shutsDown => rfl

end

end Parties

/-! ## Whole inputs -/

namespace Terminal

/-- The program has handled all that was sent to it, and nobody has ended. -/
structure Caught (t : Terminal) : Prop where
  reading : t.reading = true
  watching : t.watching = true
  unclosed : t.loop.senders = true
  empty : t.loop.controls = []
  listening : t.loop.listening = true
  live : t.loop.stopped = false

theorem start_caught (client : Client) (input : List UInt8) (attempt : Attempt) :
    (start client input attempt).Caught := by
  simp only [start, EventLoop.start_loop]
  exact ⟨rfl, rfl, rfl, rfl, rfl, rfl⟩

section
variable {t : Terminal}

/-- The reader reads the next control and sends it. -/
theorem Caught.read (h : t.Caught) {control : Control} {rest : List Control}
    (next : t.unsent = control :: rest) :
    t.read = { t with loop := t.loop.enqueue control, unsent := rest } := by
  simp [Terminal.read, h.reading, next]

theorem Caught.queued (h : t.Caught) (control : Control) :
    t.loop.enqueue control = { t.loop with controls := [control] } := by
  simp [EventLoop.enqueue, h.unclosed, h.empty]

/-- The control is there for the loop. -/
theorem Caught.ready (h : t.Caught) (control : Control) :
    (t.loop.enqueue control).stopped = false ∧
      (t.loop.enqueue control).isReady .control = true := by
  rw [h.queued]
  refine ⟨h.live, ?_⟩
  simp [EventLoop.isReady, h.listening]

/-- A control that was read is handled. A shutdown stops the loop, and the others leave it with nothing
more to handle. -/
theorem Caught.advance (h : t.Caught) {control : Control} {rest : List Control}
    (next : t.unsent = control :: rest) (attempt : Attempt) :
    (t.advance attempt).unsent = rest ∧
      if control = .shutdown then (t.advance attempt).loop.stopped = true
      else (t.advance attempt).Caught := by
  obtain ⟨live, ready⟩ := h.ready control
  have step := EventLoop.turn_step live ready attempt
  unfold Terminal.advance
  rw [h.read next]
  refine ⟨rfl, ?_⟩
  rw [h.queued] at step ⊢
  generalize EventLoop.turn { t.loop with controls := [control] } .control attempt = l at step ⊢
  cases step with
  | submits _ _ _ queue | reconnects _ _ queue =>
    obtain ⟨rfl, rfl⟩ := List.cons.inj queue
    rw [if_neg (by simp)]
    exact ⟨h.reading, h.watching, h.unclosed, rfl, h.listening, h.live⟩
  | shutsDown _ _ queue =>
    obtain ⟨rfl, rfl⟩ := List.cons.inj queue
    rw [if_pos rfl]
  | hearsEnd _ queue => cases queue

/-- The end of the input alone gives the loop nothing to handle. -/
theorem Caught.advance_end (h : t.Caught) (used : t.unsent = []) (attempt : Attempt) :
    t.advance attempt = { t with reading := false } := by
  have read : t.read = { t with reading := false } := by
    simp [Terminal.read, endReading, release, h.reading, h.watching, used]
  have quiet : t.loop.isReady .control = false := by
    simp [EventLoop.isReady, h.unclosed, h.empty]
  unfold Terminal.advance
  rw [read, EventLoop.turn_idle (.inr quiet)]

theorem advance_stopped (h : t.loop.stopped = true) (attempt : Attempt) :
    (t.advance attempt).loop.stopped = true := by
  have read : t.read.loop.stopped = true := t.read_client.2.trans h
  unfold advance
  rwa [EventLoop.turn_idle (.inl read)]

theorem advances_stopped (h : t.loop.stopped = true) (attempt : Attempt) (controls : List Control) :
    (controls.foldl (fun t _ => t.advance attempt) t).loop.stopped = true := by
  induction controls generalizing t with
  | nil => exact h
  | cons control rest ih => exact ih (advance_stopped h attempt)

/-- The loop is stopped by the input if and only if that asks for a shutdown. -/
theorem Caught.runInput (h : t.Caught) (attempt : Attempt) :
    (t.runInput attempt).loop.stopped = true ↔ .shutdown ∈ t.unsent := by
  change ((t.unsent.foldl (fun t _ => t.advance attempt) t).advance attempt).loop.stopped = true ↔ _
  induction unsent : t.unsent generalizing t with
  | nil => simp [h.advance_end unsent, h.live]
  | cons control rest ih =>
    obtain ⟨left, after⟩ := h.advance unsent attempt
    rw [List.foldl_cons, List.mem_cons]
    split at after
    · next asked =>
      simp [advance_stopped (advances_stopped after attempt rest), asked]
    · next other => rw [ih after left]; simp [Ne.symm other]

end

/-- The program on a whole input ends if the input asks for that. Else it goes on for ever, however its
connections turn out. -/
theorem run_endless_iff {env : Environment} {file : Option (List UInt8)} {settings : Settings}
    {ids : IdSource} {client : Client} (loaded : Settings.load env file = .ok (.ok settings))
    (made : Client.ofSettings settings ids = .ok client) (input : List UInt8) (attempt : Attempt) :
    run env file input attempt ids = .endless ↔ .shutdown ∉ Control.readAll input := by
  have stopped := (start_caught client input attempt).runInput attempt
  have unsent : (start client input attempt).unsent = Control.readAll input := rfl
  rw [unsent] at stopped
  rw [← stopped]
  simp only [run, loaded, made]
  split
  · next ends => simp [ends]
  · next waits => simp [waits]

end Terminal

/-! ## The parties on whole inputs -/

namespace Parties

section
variable {p p₀ : Parties}

theorem toCome_cons {control : Control} {rest : List Control} (next : p.toCome = control :: rest) :
    ∃ line cs lines, p.unread = line :: lines ∧ Utf8.decode line = .ok cs ∧
      .ofLine (String.ofList (withoutLineEnd cs)) = control ∧
      (Control.textLines lines).map Control.ofLine = rest := by
  cases unread : p.unread with
  | nil => simp [toCome, unread, Control.textLines] at next
  | cons line lines =>
    cases text : Utf8.decode line with
    | error fault => simp [toCome, unread, Control.textLines, text] at next
    | ok cs =>
      simp only [toCome, unread, Control.textLines, text, List.map_cons, List.cons.injEq] at next
      exact ⟨line, cs, lines, rfl, text, next⟩

/-- A reader to which no control is left ends. -/
theorem readerEnds (idle : p.pending = none) (used : p.toCome = []) : p.ReaderEnds := by
  cases unread : p.unread with
  | nil => exact .used idle unread
  | cons line lines =>
    cases text : Utf8.decode line with
    | error fault => exact .noText idle unread text
    | ok cs => simp [toCome, unread, Control.textLines, text] at used

/-- The parties have come to where the program is that has handled all that was sent to it. -/
structure Keeps (p₀ p : Parties) (t : Terminal) : Prop where
  leads : Leads p₀ p
  terminal : p.terminal = t
  idle : p.pending = none
  waits : p.watcher = .waiting
  caught : t.Caught

section
variable {t : Terminal}

/-- The reader reads a control and sends it, and the loop handles it. -/
theorem Keeps.advance (h : Keeps p₀ p t) {control : Control} {rest : List Control}
    (next : t.unsent = control :: rest) (goesOn : control ≠ .shutdown) (attempt : Attempt) :
    ∃ q, Keeps p₀ q (t.advance attempt) := by
  obtain ⟨-, after⟩ := h.caught.advance next attempt
  rw [if_neg goesOn] at after
  obtain ⟨leads, rfl, idle, waits, caught⟩ := h
  have toCome : p.toCome = control :: rest := by simpa [Parties.terminal, idle] using next
  obtain ⟨line, cs, lines, unread, text, rfl, come⟩ := toCome_cons toCome
  have empty : p.loop.controls = [] := caught.empty
  obtain ⟨live, ready⟩ := caught.ready (.ofLine (String.ofList (withoutLineEnd cs)))
  have taken := leads.next (.read caught.reading idle unread text)
  have sent := taken.next (.send caught.reading rfl caught.live (by simp [empty, capacity]))
  have handled := sent.next (.turn live .control ready attempt)
  refine ⟨_, handled, ?_, rfl, waits, after⟩
  unfold Terminal.advance
  rw [caught.read next]
  simp [Parties.terminal, Parties.toCome, come]

/-- The parties keep up with an input that does not ask for a shutdown. -/
theorem Keeps.advances (h : Keeps p₀ p t) (goesOn : .shutdown ∉ t.unsent) (attempt : Attempt) :
    ∃ q u, Keeps p₀ q u ∧ u.unsent = [] ∧ t.runInput attempt = u.advance attempt := by
  unfold Terminal.runInput
  induction unsent : t.unsent generalizing p t with
  | nil => exact ⟨p, t, h, unsent, rfl⟩
  | cons control rest ih =>
    rw [unsent, List.mem_cons, not_or] at goesOn
    obtain ⟨q, keeps⟩ := h.advance unsent (Ne.symm goesOn.1) attempt
    have left := (h.caught.advance unsent attempt).1
    exact ih keeps (left ▸ goesOn.2) left

end

end

end Parties

/-- A run that is endless comes to where the parties come to: the reader has ended, what it sent was
handled, and the watcher waits for an interrupt. -/
theorem Terminal.run_waits {env : Environment} {file : Option (List UInt8)} {settings : Settings}
    {ids : IdSource} {client : Client} (loaded : Settings.load env file = .ok (.ok settings))
    (made : Client.ofSettings settings ids = .ok client) {input : List UInt8} {attempt : Attempt}
    (endless : run env file input attempt ids = .endless) :
    ∃ p, Parties.Reachable client input p ∧
      p.terminal = (start client input attempt).runInput attempt ∧ p.reading = false ∧
      p.handled = p.sent ∧ p.watcher = .waiting ∧ p.loop.stopped = false := by
  have quiet := (run_endless_iff loaded made input attempt).mp endless
  have begins : Parties.Keeps (.start client input attempt) (.start client input attempt)
      (start client input attempt) :=
    ⟨.start, rfl, rfl, rfl, start_caught client input attempt⟩
  obtain ⟨p, t, ⟨leads, rfl, idle, waits, caught⟩, used, same⟩ := begins.advances quiet attempt
  have toCome : p.toCome = [] := by simpa [Parties.terminal, idle] using used
  have ended := leads.next (.finish caught.reading (Parties.readerEnds idle toCome))
  have kept : Parties.release { p with reading := false } = { p with reading := false } := by
    simp [Parties.release, waits, Watcher.holds]
  rw [kept] at ended
  have flow := (Parties.Reachable.sound ⟨attempt, ended⟩).flow (by simp [waits])
  have empty : p.loop.controls = [] := caught.empty
  rw [empty, List.append_nil] at flow
  refine ⟨_, ⟨attempt, ended⟩, ?_, rfl, flow, waits, caught.live⟩
  rw [same, caught.advance_end used]
  rfl

/-- **The program ends with its input only if it cannot be interrupted.** In whatever way the reader,
the watcher and the loop have gone on beside each other, the channel has a sender exactly as long as
the reader or the watcher has not ended, and what the reader has sent are the first controls of the
input. Let the reader have ended, all that it sent be handled, no connection be read, and no interrupt
given. Then the channel has no sender if and only if the watcher has failed. Unless it has stopped, the
loop finds something to do only then, and that is the end of the controls, at which it stops. While the
watcher waits, it holds the sender that is left, and nothing at all happens any more; from an interrupt
on, the loop can go on to its end. -/
theorem ends_with_input_iff_unwatched {client : Client} {input : List UInt8} {p : Parties}
    (h : Parties.Reachable client input p) :
    (p.loop.senders = true ↔ p.reading = true ∨ p.watcher.holds = true) ∧
    p.sent <+: Control.readAll input ∧
    (p.Spent →
      (p.loop.senders = false ↔ p.watcher = .failed) ∧
      (p.loop.stopped = false →
        (∀ side, p.loop.isReady side = true ↔ side = .control ∧ p.watcher = .failed) ∧
        (p.watcher = .failed →
          p.loop.controls = [] ∧ ∀ attempt, (p.loop.turn .control attempt).stopped = true) ∧
        (p.watcher = .waiting → ∃ q, Parties.Leads { p with watcher := .sending } q ∧
          q.loop.stopped = true)) ∧
      ∀ q, p.Leads q → q.watcher = .waiting → q = p) := by
  have sound := h.sound
  refine ⟨?_, ⟨_, sound.order⟩, ?_⟩
  · rw [sound.held, Bool.or_eq_true]
  · intro spent
    refine ⟨spent.senders sound, ?_, fun q leads waits => spent.rests sound leads waits⟩
    intro live
    refine ⟨spent.ready sound live, ?_, spent.interrupted sound live⟩
    intro failed
    exact ⟨spent.empty sound, spent.stops sound live failed⟩

def commandInput : List UInt8 := [0x6C, 0x69, 0x73, 0x74, 0x0A]

/-- No server answers, and the command is not sent. The program then waits for an interrupt, unless its
watcher fails. -/
theorem ends_with_input_iff_unwatched_of_command :
    ∃ p q, Parties.Reachable plainClient commandInput p ∧
      Parties.Reachable plainClient commandInput q ∧ p.Spent ∧ q.Spent ∧
      p.handled = [.submit "list"] ∧ q.handled = [.submit "list"] ∧
      p.loop.senders = true ∧ (∀ side, p.loop.isReady side = false) ∧
      q.loop.senders = false ∧ ∀ attempt, (q.loop.turn .control attempt).stopped = true := by
  have begun := @Parties.Leads.start (.start plainClient commandInput .silent)
  have text : Utf8.decode commandInput = .ok ['l', 'i', 's', 't', '\n'] := rfl
  have read := begun.next (.read rfl rfl rfl text)
  have sent := read.next (.send rfl rfl rfl (by decide))
  have turned := sent.next (.turn rfl .control rfl .silent)
  have waits := turned.next (.finish rfl (.used rfl rfl))
  have fails := waits.next (.fail rfl)
  obtain ⟨-, -, waiting⟩ := ends_with_input_iff_unwatched ⟨.silent, waits⟩
  obtain ⟨-, -, failed⟩ := ends_with_input_iff_unwatched ⟨.silent, fails⟩
  obtain ⟨-, rests, -⟩ := waiting ⟨rfl, rfl, rfl, rfl⟩
  obtain ⟨closed, ends, -⟩ := failed ⟨rfl, rfl, rfl, rfl⟩
  refine ⟨_, _, ⟨.silent, waits⟩, ⟨.silent, fails⟩, ⟨rfl, rfl, rfl, rfl⟩, ⟨rfl, rfl, rfl, rfl⟩, rfl,
    rfl, rfl, ?_, closed.mpr rfl, ((ends rfl).2.1 rfl).2⟩
  intro side
  rw [Bool.eq_false_iff]
  intro ready
  cases (((rests rfl).1 side).mp ready).2

/-- An environment that names a port at which no server is. -/
def lonelyEnvironment : Environment :=
  ⟨[("CONSOLE_HOST", Utf8.encode "127.0.0.1".toList), ("CONSOLE_PORT", Utf8.encode "1".toList)]⟩

def lonelyClient : Client := { plainClient with settings := { Settings.defaults with port := 1 } }

/-- The input is empty and no server is reached. A run of the program is endless: it has handled all
there was and is not interrupted, its channel has a sender left, and the loop never stops unless that
changes. -/
theorem program_outlives_input :
    let attempt : Attempt := .failed .networkUnreachable
    Terminal.run lonelyEnvironment none [] attempt ⟨0, 0⟩ = .endless ∧
    ∃ p, Parties.Reachable lonelyClient [] p ∧
      p.terminal = (Terminal.start lonelyClient [] attempt).runInput attempt ∧
      Terminal.Reachable lonelyClient [] p.terminal ∧
      p.Spent ∧ p.loop.senders = true ∧ (∀ side, p.loop.isReady side = false) ∧
      ∀ q, p.Leads q → q.watcher = .waiting → q.loop.stopped = false := by
  intro attempt
  have loaded : Settings.load lonelyEnvironment none = .ok (.ok lonelyClient.settings) :=
    Settings.load_of_toOption (by decide +kernel)
  have made : Client.ofSettings lonelyClient.settings ⟨0, 0⟩ = .ok lonelyClient := rfl
  have endless : Terminal.run lonelyEnvironment none [] attempt ⟨0, 0⟩ = .endless := by
    rw [Terminal.run_endless_iff loaded made]
    exact List.not_mem_nil
  obtain ⟨p, reachable, same, ended, handled, waits, live⟩ := Terminal.run_waits loaded made endless
  have sound := reachable.sound
  have idle : p.loop.client.isReading = false :=
    congrArg (fun t => t.loop.client.isReading) same
  have spent : p.Spent := ⟨ended, handled, idle, by rw [waits]; rfl⟩
  refine ⟨endless, p, reachable, same, reachable.terminal, spent, ?_, ?_, ?_⟩
  · exact sound.unclosed_watcher (by rw [waits]; rfl)
  · intro side
    rw [Bool.eq_false_iff]
    intro ready
    have failed := ((spent.ready sound live side).mp ready).2
    rw [waits] at failed
    cases failed
  · intro q leads watcher
    rw [spent.rests sound leads watcher]
    exact live

end JobConsole
