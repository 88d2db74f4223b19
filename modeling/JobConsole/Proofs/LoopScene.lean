import JobConsole.Proofs.LoopTurns

/-!
# The event loop among its surroundings

The loop with surroundings that send controls, open connections and let events arrive at any time:

* `Scene`, `Scene.Step`, `Scene.Reachable`: the loop with what its surroundings have in store, and
  their steps;
* `Scene.handled`: the controls that were handled;
* `Scene.Accounts`: every control was handled, waits in the queue, or was not sent yet;
* `Accounts.step`: every step keeps that.
-/

namespace JobConsole

def ClientOp.control? : ClientOp → Option Control
  | .submit text => some (.submit text)
  | .reconnect _ => some .reconnect
  | _ => none

/-- How an attempt to open a connection turns out, and what the server sends on the connection. -/
structure Dial where
  attempt : Attempt
  stream : List Incoming
  deriving DecidableEq, Repr

namespace Dial

def unanswered : Dial := ⟨.silent, []⟩

/-- The first of some, behind which nobody answers any more. -/
def next (dials : List Dial) : Dial := dials.headD .unanswered

def sent (settings : Settings) (dial : Dial) : List Incoming :=
  if dial.attempt.connects settings then dial.stream else []

end Dial

/-- A loop, with what its surroundings have in store for it. -/
structure Scene where
  loop : EventLoop
  /-- The controls that were not sent yet. Behind them, all senders are dropped. -/
  unsent : List Control
  /-- What is to arrive on the current connection. -/
  coming : List Incoming
  /-- What becomes of the connections to be opened, the next one first. -/
  dials : List Dial
  /-- What was asked of the client since the first turn, with what arrived in between. -/
  done : List ClientOp
  /-- How many turns the loop took. -/
  turns : Nat

namespace Scene

/-- The loop of a client at its first turn. A client without a session opens one before. -/
def start (c : Client) (coming : List Incoming) (controls : List Control) (dials : List Dial) :
    Scene :=
  let dial := Dial.next dials
  let loop := EventLoop.start c dial.attempt
  if c.active.isNone then ⟨loop, controls, dial.sent c.settings, dials.tail, [], 0⟩
  else ⟨loop, controls, coming, dials, [], 0⟩

def dial (w : Scene) : Dial := Dial.next w.dials

def redials (w : Scene) : Side → Bool
  | .inbound => false
  | .control => w.loop.controls.head? = some .reconnect

def turned (w : Scene) (side : Side) : Scene where
  loop := w.loop.turn side w.dial.attempt
  unsent := w.unsent
  coming := if w.redials side then w.dial.sent w.loop.client.settings else w.coming
  dials := if w.redials side then w.dials.tail else w.dials
  done := w.done ++ w.loop.asks w.dial.attempt side
  turns := w.turns + 1

/-- The steps of the loop and of its surroundings, until it stops. Which side a turn is on, and when
something is sent or arrives, is left open. -/
inductive Step (w : Scene) : Scene → Prop
  | send (live : w.loop.stopped = false) (control : Control) (rest : List Control)
      (next : w.unsent = control :: rest) :
      Step w { w with loop := w.loop.enqueue control, unsent := rest }
  | hangUp (live : w.loop.stopped = false) (sent : w.unsent = []) (held : w.loop.senders = true) :
      Step w { w with loop := w.loop.closeControls }
  | arrive (live : w.loop.stopped = false) (items rest : List Incoming) (some : items ≠ [])
      (next : w.coming = items ++ rest) :
      Step w
        { w with loop := w.loop.deliver items, coming := rest, done := w.done ++ [.arrive items] }
  | turn (live : w.loop.stopped = false) (side : Side) (ready : w.loop.isReady side = true) :
      Step w (w.turned side)

inductive Reachable (first : Scene) : Scene → Prop
  | start : Reachable first first
  | next {w w' : Scene} : Reachable first w → Step w w' → Reachable first w'

/-- The controls that turns handled. -/
def handled (w : Scene) : List Control := w.done.filterMap ClientOp.control?

/-! ## Controls -/

/-- Where the controls are: handled, in the queue, or not sent. When the loop has stopped, it was
told to, or all of them were handled and nothing was left to read. -/
inductive Accounts (controls : List Control) (first : Client) (w : Scene) : Prop
  | waiting (live : w.loop.stopped = false) (client : w.loop.client = first.run w.done)
      (order : w.handled ++ (w.loop.controls ++ w.unsent) = controls)
      (sending : w.loop.senders = true ∨ w.unsent = [])
      (heard : w.loop.listening = true ∨ w.loop.controls = [] ∧ w.loop.senders = false)
      (awaits : w.loop.listening = true ∨ w.loop.client.isReading = true)
  | dismissed (halted : w.loop.stopped = true)
      (client : w.loop.client = (first.run w.done).shutdown) (rest : List Control)
      (order : w.handled ++ .shutdown :: rest = controls)
  | finished (halted : w.loop.stopped = true)
      (client : w.loop.client = (first.run w.done).shutdown) (order : w.handled = controls)
      (sent : w.unsent = []) (empty : w.loop.controls = []) (gone : w.loop.senders = false)
      (idle : (first.run w.done).isReading = false)

section
variable {w w' : Scene} {controls : List Control} {first : Client}

/-- A loop that settles waits on, or has nothing left to wait for. -/
theorem Accounts.settle {l : EventLoop} (live : l.stopped = false)
    (client : l.client = first.run w.done)
    (order : w.handled ++ (l.controls ++ w.unsent) = controls)
    (sending : l.senders = true ∨ w.unsent = [])
    (heard : l.listening = true ∨ l.controls = [] ∧ l.senders = false) :
    Accounts controls first { w with loop := l.settle } := by
  by_cases awaits : l.listening = true ∨ l.client.isReading = true
  · rw [EventLoop.settle_waits awaits]
    exact .waiting live client order sending heard awaits
  · obtain ⟨deaf, idle⟩ : l.listening = false ∧ l.client.isReading = false := by simpa using awaits
    obtain ⟨empty, gone⟩ := heard.resolve_left (by simp [deaf])
    have sent : w.unsent = [] := sending.resolve_left (by simp [gone])
    have all : w.handled = controls := by simpa [empty, sent] using order
    rw [EventLoop.settle_stops deaf idle]
    exact .finished rfl (congrArg Client.shutdown client) all sent empty gone (client ▸ idle)

/-- What a turn asks is done behind what was done before. -/
theorem turned_done (h : w.loop.client = first.run w.done) (side : Side) :
    first.run (w.turned side).done = w.loop.client.run (w.loop.asks w.dial.attempt side) := by
  rw [h, ← Client.run_append]
  rfl

theorem turned_handled (w : Scene) (side : Side) :
    (w.turned side).handled =
      w.handled ++ (w.loop.asks w.dial.attempt side).filterMap ClientOp.control? := by
  simp [handled, turned]

theorem Accounts.turned (h : Accounts controls first w) (live : w.loop.stopped = false)
    {side : Side} (ready : w.loop.isReady side = true) :
    Accounts controls first (w.turned side) := by
  cases h with
  | dismissed halted | finished halted => simp [live] at halted
  | waiting _ client order sending heard awaits =>
    have asked := turned_done client side
    have handled := turned_handled w side
    generalize after : w.loop.turn side w.dial.attempt = l
    have step := EventLoop.turn_step live ready w.dial.attempt
    rw [after] at step
    have same : w.turned side = { w.turned side with loop := l } := by rw [← after]; rfl
    rw [same]
    cases step with
    | submits text rest listening queue | reconnects rest listening queue =>
      refine .waiting live ?_ ?_ sending (.inl listening) (.inl listening)
      · simp [asked, EventLoop.asks, queue, Client.perform]
      · rw [← order]
        exact (congrArg (· ++ _) handled).trans (by simp [EventLoop.asks, queue, ClientOp.control?,
          Scene.turned])
    | shutsDown rest listening queue =>
      refine .dismissed rfl ?_ (rest ++ w.unsent) ?_
      · simp [asked, EventLoop.asks, queue]
      · rw [← order]
        exact (congrArg (· ++ _) handled).trans (by simp [EventLoop.asks, queue])
    | hearsEnd listening queue gone =>
      refine Accounts.settle (w := w.turned .control) (l := { w.loop with listening := false }) live
        ?_ ?_ sending (.inr ⟨queue, gone⟩)
      · simp [asked, EventLoop.asks, queue]
      · rw [handled, ← order]
        simp [EventLoop.asks, queue, Scene.turned]
    | reads =>
      refine Accounts.settle (w := w.turned .inbound)
        (l := { w.loop with client := w.loop.client.processNext.1 }) live ?_ ?_ sending heard
      · simp [asked, EventLoop.asks, Client.perform]
      · rw [handled, ← order]
        simp [EventLoop.asks, ClientOp.control?, Scene.turned]

/-- Every step keeps the accounts. -/
theorem Accounts.step (h : Accounts controls first w) (s : Step w w') :
    Accounts controls first w' := by
  cases s with
  | turn live side ready => exact h.turned live ready
  | send live control rest next =>
    cases h with
    | dismissed halted | finished halted => simp [live] at halted
    | waiting _ client order sending heard awaits =>
      have held : w.loop.senders = true := sending.resolve_right (by simp [next])
      have listening : w.loop.listening = true := heard.resolve_right (by simp [held])
      have queued : w.loop.enqueue control =
          { w.loop with controls := w.loop.controls ++ [control] } := by
        simp [EventLoop.enqueue, held]
      rw [queued]
      refine .waiting live client ?_ (.inl held) (.inl listening) (.inl listening)
      rw [← order, next]
      simp [handled]
  | hangUp live sent held =>
    cases h with
    | dismissed halted | finished halted => simp [live] at halted
    | waiting _ client order sending heard awaits =>
      exact .waiting live client order (.inr sent) (heard.imp_right fun e => ⟨e.1, rfl⟩) awaits
  | arrive live items rest some next =>
    cases h with
    | dismissed halted | finished halted => simp [live] at halted
    | waiting _ client order sending heard awaits =>
      refine .waiting live ?_ ?_ sending heard ?_
      · rw [Client.run_append, ← client]
        rfl
      · rw [← order]
        simp [handled, ClientOp.control?, EventLoop.deliver]
      · simpa [EventLoop.deliver, Client.deliver_isReading] using awaits

end

end Scene

end JobConsole
