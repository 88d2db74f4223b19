import JobConsole.Terminal
import JobConsole.Proofs.LoopTurns

/-!
# The parties of the terminal program

The terminal program hands its controls over a channel with two sending ends. The reader holds one
until it ends; the watcher holds the other until it has sent the shutdown that an interrupt asks for.
The event loop receives:

* `Parties`, `Parties.Step`, `Parties.Reachable`: the three, and what they can do beside each other;
* `EventLoop.Waits`: a loop that has not stopped has something left to wait for;
* `Parties.Sound`: the channel has a sender as long as one of the two has not ended, and every control
  of the input is handled, in the channel, or still with the reader;
* `Reachable.terminal`: the parties come to what the terminal program comes to.
-/

namespace JobConsole

inductive Watcher
  /-- It waits for an interrupt. -/
  | waiting
  /-- It was interrupted, and waits to send the shutdown. -/
  | sending
  /-- It was interrupted, and has ended. -/
  | done
  /-- Interrupts cannot be waited for, and it has ended. -/
  | failed
  deriving DecidableEq, Repr

namespace Watcher

/-- Whether the watcher holds a sending end. It lets go of it when it ends. -/
def holds : Watcher → Bool
  | .waiting | .sending => true
  | .done | .failed => false

def interrupted : Watcher → Bool
  | .sending | .done => true
  | .waiting | .failed => false

end Watcher

namespace EventLoop

/-- The controls that a turn takes from the channel. -/
def taken (l : EventLoop) : Side → List Control
  | .control => l.controls.take 1
  | .inbound => []

/-- As long as the loop has not stopped, it looks for controls or all of them came, and it looks for
controls or reads a connection. -/
def Waits (l : EventLoop) : Prop :=
  l.stopped = false →
    (l.listening = true ∨ l.controls = [] ∧ l.senders = false) ∧
      (l.listening = true ∨ l.client.isReading = true)

section
variable {l : EventLoop}

theorem turn_taken (live : l.stopped = false) {side : Side} (ready : l.isReady side = true)
    (attempt : Attempt) : l.taken side ++ (l.turn side attempt).controls = l.controls := by
  generalize after : l.turn side attempt = l'
  have step := turn_step live ready attempt
  rw [after] at step
  cases step with
  | submits _ rest _ queue | reconnects rest _ queue | shutsDown rest _ queue =>
    simp [taken, queue]
  | hearsEnd _ queue => simp [taken, settle_controls, queue]
  | reads => exact settle_controls _

theorem waits_start (client : Client) (attempt : Attempt) : (start client attempt).Waits := by
  rw [start_loop]
  exact fun _ => ⟨.inl rfl, .inl rfl⟩

theorem Waits.settle (heard : l.listening = true ∨ l.controls = [] ∧ l.senders = false) :
    l.settle.Waits := by
  intro live
  by_cases waits : l.listening = true ∨ l.client.isReading = true
  · rw [settle_waits waits]
    exact ⟨heard, waits⟩
  · obtain ⟨deaf, idle⟩ : l.listening = false ∧ l.client.isReading = false := by simpa using waits
    rw [settle_stops deaf idle] at live
    cases live

theorem Waits.turn (h : l.Waits) (live : l.stopped = false) {side : Side}
    (ready : l.isReady side = true) (attempt : Attempt) : (l.turn side attempt).Waits := by
  generalize after : l.turn side attempt = l'
  have step := turn_step live ready attempt
  rw [after] at step
  cases step with
  | submits _ _ heard | reconnects _ heard => exact fun _ => ⟨.inl heard, .inl heard⟩
  | shutsDown => nofun
  | hearsEnd _ queue gone =>
    exact Waits.settle (l := { l with listening := false }) (.inr ⟨queue, gone⟩)
  | reads => exact Waits.settle (l := { l with client := l.client.processNext.1 }) (h live).1

theorem Waits.enqueue (h : l.Waits) (control : Control) : (l.enqueue control).Waits := by
  unfold EventLoop.enqueue
  split
  · next held =>
    intro live
    have listening : l.listening = true := (h live).1.resolve_right (by simp [held])
    exact ⟨.inl listening, .inl listening⟩
  · exact h

theorem Waits.closeControls (h : l.Waits) : l.closeControls.Waits := fun live =>
  ⟨(h live).1.imp_right fun empty => ⟨empty.1, rfl⟩, (h live).2⟩

theorem Waits.deliver (h : l.Waits) (items : List Incoming) : (l.deliver items).Waits := by
  intro live
  refine ⟨(h live).1, ?_⟩
  simpa [EventLoop.deliver, Client.deliver_isReading] using (h live).2

end

end EventLoop

/-! ## The parties -/

structure Parties where
  loop : EventLoop
  /-- The lines that the reader has not come to. -/
  unread : List (List UInt8)
  /-- The control that the reader waits to send. -/
  pending : Option Control
  /-- Whether the reader has not ended. It holds a sending end until then. -/
  reading : Bool
  watcher : Watcher
  /-- The controls that the reader has sent, oldest first. -/
  sent : List Control
  /-- The controls that the loop has taken from the channel, oldest first. -/
  handled : List Control

namespace Parties

/-- How many controls the channel holds. -/
def capacity : Nat := 16

def start (client : Client) (input : List UInt8) (attempt : Attempt) : Parties :=
  ⟨EventLoop.start client attempt, splitLines input, none, true, .waiting, [], []⟩

def toCome (p : Parties) : List Control := (Control.textLines p.unread).map Control.ofLine

/-- The channel is closed once neither the reader nor the watcher holds a sending end. -/
def release (p : Parties) : Parties :=
  if p.reading || p.watcher.holds then p else { p with loop := p.loop.closeControls }

inductive ReaderEnds (p : Parties) : Prop
  | used (idle : p.pending = none) (last : p.unread = [])
  | noText {line : List UInt8} {fault : Utf8.Fault} {rest : List (List UInt8)}
      (idle : p.pending = none) (next : p.unread = line :: rest)
      (noText : Utf8.decode line = .error fault)
  /-- The input cannot be read any farther. -/
  | broken (idle : p.pending = none)
  /-- The loop has stopped, and nobody receives what the reader sends. -/
  | unheard {control : Control} (waits : p.pending = some control) (gone : p.loop.stopped = true)

/-- What the reader, the watcher and the loop can do, and the arrival of what the server sends. -/
inductive Step (p : Parties) : Parties → Prop
  | read {line : List UInt8} {cs : List Char} {rest : List (List UInt8)} (runs : p.reading = true)
      (idle : p.pending = none) (next : p.unread = line :: rest) (text : Utf8.decode line = .ok cs) :
      Step p
        { p with
          unread := rest
          pending := some (.ofLine (String.ofList (withoutLineEnd cs))) }
  | send {control : Control} (runs : p.reading = true) (waits : p.pending = some control)
      (there : p.loop.stopped = false) (room : p.loop.controls.length < capacity) :
      Step p
        { p with
          loop := p.loop.enqueue control
          pending := none
          sent := p.sent ++ [control] }
  | finish (runs : p.reading = true) (why : p.ReaderEnds) :
      Step p (release { p with reading := false })
  | interrupt (waits : p.watcher = .waiting) : Step p { p with watcher := .sending }
  | shutDown (interrupted : p.watcher = .sending) (there : p.loop.stopped = false)
      (room : p.loop.controls.length < capacity) :
      Step p (release { p with loop := p.loop.enqueue .shutdown, watcher := .done })
  | giveUp (interrupted : p.watcher = .sending) (gone : p.loop.stopped = true) :
      Step p (release { p with watcher := .done })
  /-- The wait for an interrupt comes to nothing. -/
  | fail (waits : p.watcher = .waiting) : Step p (release { p with watcher := .failed })
  | arrive (items : List Incoming) : Step p { p with loop := p.loop.deliver items }
  | turn (live : p.loop.stopped = false) (side : Side) (ready : p.loop.isReady side = true)
      (attempt : Attempt) :
      Step p
        { p with
          loop := p.loop.turn side attempt
          handled := p.handled ++ p.loop.taken side }

/-- What comes of the parties in any number of steps. -/
inductive Leads (p : Parties) : Parties → Prop
  | start : Leads p p
  | next {q r : Parties} (before : Leads p q) (step : Step q r) : Leads p r

def Reachable (client : Client) (input : List UInt8) (p : Parties) : Prop :=
  ∃ attempt, Leads (start client input attempt) p

/-! ## Who holds a sending end, and where the controls are -/

structure Sound (input : List UInt8) (p : Parties) : Prop where
  held : p.loop.senders = (p.reading || p.watcher.holds)
  order : p.sent ++ (p.pending.toList ++ p.toCome) = Control.readAll input
  flow (unsaid : p.watcher ≠ .done) : p.handled ++ p.loop.controls = p.sent
  waits : p.loop.Waits

section
variable {client : Client} {input : List UInt8} {p q r : Parties}

theorem release_cases (p : Parties) :
    (p.reading || p.watcher.holds) = true ∧ p.release = p ∨
      (p.reading || p.watcher.holds) = false ∧
        p.release = { p with loop := p.loop.closeControls } := by
  cases held : p.reading || p.watcher.holds
  · exact .inr ⟨rfl, by simp [release, held]⟩
  · exact .inl ⟨rfl, by simp [release, held]⟩

@[simp] theorem release_watcher (p : Parties) : p.release.watcher = p.watcher := by
  unfold release
  split <;> rfl

/-- One of the two lets go of its sending end. -/
theorem sound_release (unclosed : p.loop.senders = true)
    (order : p.sent ++ (p.pending.toList ++ p.toCome) = Control.readAll input)
    (flow : p.watcher ≠ .done → p.handled ++ p.loop.controls = p.sent) (waits : p.loop.Waits) :
    p.release.Sound input := by
  obtain ⟨held, same⟩ | ⟨gone, same⟩ := p.release_cases
  · rw [same]
    exact ⟨unclosed.trans held.symm, order, flow, waits⟩
  · rw [same]
    exact ⟨gone.symm, order, flow, waits.closeControls⟩

theorem start_sound (client : Client) (input : List UInt8) (attempt : Attempt) :
    (start client input attempt).Sound input := by
  refine ⟨?_, rfl, ?_, EventLoop.waits_start client attempt⟩
  · simp only [start, EventLoop.start_loop, Bool.true_or]
  · intro _
    simp only [start, EventLoop.start_loop, List.append_nil]

/-- A reader that has not ended can send. -/
theorem Sound.unclosed_reader (h : p.Sound input) (runs : p.reading = true) :
    p.loop.senders = true := by
  rw [h.held, runs, Bool.true_or]

/-- So can a watcher that has not ended. -/
theorem Sound.unclosed_watcher (h : p.Sound input) (holds : p.watcher.holds = true) :
    p.loop.senders = true := by
  rw [h.held, holds, Bool.or_true]

theorem Sound.step (h : p.Sound input) (step : Step p q) : q.Sound input := by
  cases step with
  | read runs idle next text =>
    refine ⟨h.held, ?_, h.flow, h.waits⟩
    rw [← h.order, idle]
    simp [toCome, next, Control.textLines, text]
  | @send control runs pending there room =>
    have unclosed := h.unclosed_reader runs
    have queued : p.loop.enqueue control =
        { p.loop with controls := p.loop.controls ++ [control] } := if_pos unclosed
    refine ⟨?_, ?_, ?_, h.waits.enqueue control⟩
    · rw [queued]
      exact h.held
    · rw [← h.order, pending]
      simp [toCome]
    · intro unsaid
      rw [← h.flow unsaid, queued, List.append_assoc]
  | finish runs why => exact sound_release (h.unclosed_reader runs) h.order h.flow h.waits
  | interrupt quiet =>
    have unclosed := h.unclosed_watcher (by rw [quiet]; rfl)
    refine ⟨unclosed.trans (Bool.or_true _).symm, h.order, ?_, h.waits⟩
    exact fun _ => h.flow (by simp [quiet])
  | shutDown interrupted there room =>
    have unclosed := h.unclosed_watcher (by rw [interrupted]; rfl)
    refine sound_release ?_ h.order (fun unsaid => absurd rfl unsaid) (h.waits.enqueue .shutdown)
    simp [EventLoop.enqueue, unclosed]
  | giveUp interrupted gone =>
    have unclosed := h.unclosed_watcher (by rw [interrupted]; rfl)
    exact sound_release unclosed h.order (fun unsaid => absurd rfl unsaid) h.waits
  | fail quiet =>
    have unclosed := h.unclosed_watcher (by rw [quiet]; rfl)
    exact sound_release unclosed h.order (fun _ => h.flow (by simp [quiet])) h.waits
  | arrive items => exact ⟨h.held, h.order, h.flow, h.waits.deliver items⟩
  | turn live side ready attempt =>
    refine ⟨(EventLoop.turn_senders live ready attempt).trans h.held, h.order, ?_,
      h.waits.turn live ready attempt⟩
    intro unsaid
    rw [← h.flow unsaid, List.append_assoc, EventLoop.turn_taken live ready attempt]

theorem Reachable.sound (h : Reachable client input p) : p.Sound input := by
  obtain ⟨attempt, leads⟩ := h
  induction leads with
  | start => exact start_sound client input attempt
  | next _ step ih => exact ih.step step

/-! ## The terminal program -/

/-- The terminal program in the hands of the parties. -/
def terminal (p : Parties) : Terminal :=
  ⟨p.loop, p.pending.toList ++ p.toCome, p.reading, p.watcher.holds⟩

theorem release_terminal (p : Parties) : p.release.terminal = p.terminal.release := by
  obtain ⟨held, same⟩ | ⟨gone, same⟩ := p.release_cases
  · have held : (p.terminal.reading || p.terminal.watching) = true := held
    rw [same, Terminal.release, if_pos held]
  · have gone : (p.terminal.reading || p.terminal.watching) = false := gone
    rw [same, Terminal.release, if_neg (by simp [gone])]
    rfl

/-- A step of the parties is one of the terminal program, or does not show in it. -/
theorem Step.terminal (step : Step p q) :
    q.terminal = p.terminal ∨ Terminal.Step p.terminal q.terminal := by
  cases step with
  | read runs idle next text =>
    left
    simp [Parties.terminal, toCome, idle, next, Control.textLines, text]
  | send runs waits there room =>
    right
    have same := Terminal.Step.read p.terminal
    simpa [Parties.terminal, Terminal.read, toCome, runs, waits] using same
  | finish runs why =>
    right
    have ends : p.terminal.endReading = (Parties.terminal { p with reading := false }).release :=
      if_neg (by simp [Parties.terminal, runs])
    rw [release_terminal, ← ends]
    exact .endReading p.terminal
  | interrupt quiet =>
    left
    simp [Parties.terminal, toCome, quiet, Watcher.holds]
  | shutDown interrupted there room =>
    right
    have same := Terminal.Step.interrupt p.terminal
    rw [release_terminal]
    simpa [Parties.terminal, Terminal.interrupt, toCome, interrupted, Watcher.holds] using same
  | giveUp held | fail held =>
    right
    have ends : p.terminal.endWatching = ({ p.terminal with watching := false } : Terminal).release :=
      if_neg (by simp [Parties.terminal, held, Watcher.holds])
    rw [release_terminal]
    change Terminal.Step _ ({ p.terminal with watching := false } : Terminal).release
    rw [← ends]
    exact .endWatching p.terminal
  | arrive items => exact .inr (.deliver p.terminal items)
  | turn live side ready attempt => exact .inr (.turn p.terminal side attempt)

/-- The parties come to what the terminal program comes to. -/
theorem Reachable.terminal (h : Reachable client input p) :
    Terminal.Reachable client input p.terminal := by
  obtain ⟨attempt, leads⟩ := h
  induction leads with
  | start => exact .start attempt
  | @next q r before step ih =>
    obtain same | step := step.terminal
    · rwa [same]
    · exact ih.step step

end

end Parties

end JobConsole
