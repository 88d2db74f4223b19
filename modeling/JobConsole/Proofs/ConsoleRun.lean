import JobConsole.Proofs.LoopTurns
import JobConsole.Proofs.Wire

/-!
# Runs of a console

A console is a client with its event loop and its connections. What is asked of the client comes
from outside or from the loop, whose turns are operations one after the other:

* `EventLoop.turnOps`, `turn_run`: a turn as operations of the client;
* `Console.perform`, `Console.move`, `Console.run`: what can happen to a console, with what its
  operations answered and its sinks took;
* `turned_client`: what a turn does to the loop and what its operations do to the client agree;
* `Console.opsOf`, `move_world`, `move_client`: a move comes to operations, or to a step of the
  writer;
* `Client.perform_log`: the log after an operation.
-/

namespace JobConsole

/-! ## Turns as operations -/

namespace EventLoop

section
variable {l : EventLoop}

/-- The operations that a turn comes to: what it asks of the client, and the shutdown of a loop that
stops. -/
def turnOps (l : EventLoop) (side : Side) (attempt : Attempt) : List ClientOp :=
  if l.stopped || !l.isReady side then []
  else l.asks attempt side ++ if (l.turn side attempt).stopped then [.shutdown] else []

theorem turnOps_idle {side : Side} (h : l.stopped = true ∨ l.isReady side = false)
    (attempt : Attempt) : l.turnOps side attempt = [] := by
  obtain h | h := h <;> simp [turnOps, h]

theorem turnOps_ready (live : l.stopped = false) {side : Side} (ready : l.isReady side = true)
    (attempt : Attempt) :
    l.turnOps side attempt =
      l.asks attempt side ++ if (l.turn side attempt).stopped then [.shutdown] else [] := by
  simp [turnOps, live, ready]

/-- A turn does its operations to the client and nothing else. -/
theorem turn_run (l : EventLoop) (side : Side) (attempt : Attempt) :
    (l.turn side attempt).client = l.client.run (l.turnOps side attempt) := by
  by_cases idle : l.stopped = true ∨ l.isReady side = false
  · rw [turn_idle idle, turnOps_idle idle, Client.run_nil]
  · obtain ⟨live, ready⟩ : l.stopped = false ∧ l.isReady side = true := by simpa using idle
    rw [turn_client live ready, turnOps_ready live ready, Client.run_append, leftBy]
    split <;> rfl

end

end EventLoop

/-! ## Consoles -/

/-- Whether the sink of the current session takes the frame that an operation offers it. Only a
command on an open session is offered. -/
def Client.offer? (c : Client) : ClientOp → Option Bool
  | .send text | .submit text =>
    if text ≠ "" ∧ c.state? = some .opened then
      c.sink?.map fun sink => (CommandSink.sendText sink (Command.encode ⟨text⟩)).2.isOk
    else none
  | _ => none

/-- A client with its event loop and its connections, and what came of what was asked of it. -/
structure Console where
  /-- The loop, with the client. No loop runs if it has stopped. -/
  loop : EventLoop
  /-- The connection of the current session, if it was made. -/
  current : Option Traffic
  /-- The connections that were given up. -/
  former : List (ChannelSink × Traffic)
  /-- What the operations answered, oldest first. -/
  replies : List Reply
  /-- Whether the frames that were offered were taken, oldest first. -/
  offers : List Bool

inductive Move
  /-- An operation is asked of the client, or something arrives for it. -/
  | ask (op : ClientOp)
  /-- The client enters its event loop. -/
  | enter (attempt : Attempt)
  /-- A control is sent to the loop. -/
  | send (control : Control)
  /-- No more controls will be sent. -/
  | hangUp
  | turn (side : Side) (attempt : Attempt)
  /-- The writer of the current connection makes a step. -/
  | write (works : Bool)
  deriving DecidableEq, Repr

namespace Console

def client (w : Console) : Client := w.loop.client

def world (w : Console) : World := ⟨w.client, w.current, w.former⟩

/-- The console of a client and its connections, of which nothing was asked yet. Its loop, if one
runs, stands where `loop` does. -/
def ofWorld (loop : EventLoop) (w : World) : Console :=
  ⟨{ loop with client := w.client }, w.current, w.former, [], []⟩

/-- A client that was just made; no loop runs. -/
def ofClient (c : Client) : Console := ofWorld ⟨c, [], false, false, true⟩ (.start c)

theorem ofClient_client (c : Client) : (ofClient c).client = c := rfl

def perform (w : Console) (op : ClientOp) : Console where
  loop := { w.loop with client := (w.world.perform op).client }
  current := (w.world.perform op).current
  former := (w.world.perform op).former
  replies := w.replies ++ [(w.client.perform op).2]
  offers := w.offers ++ (w.client.offer? op).toList

def performAll (w : Console) (ops : List ClientOp) : Console := ops.foldl perform w

/-- What a client does before its first turn in the loop. -/
def entryOps (c : Client) (attempt : Attempt) : List ClientOp :=
  if c.active.isNone then [.start attempt] else []

def move (w : Console) : Move → Console
  | .ask op => w.perform op
  | .enter attempt =>
    { w.performAll (entryOps w.client attempt) with loop := EventLoop.start w.client attempt }
  | .send control => { w with loop := w.loop.enqueue control }
  | .hangUp => { w with loop := w.loop.closeControls }
  | .turn side attempt =>
    { w.performAll (w.loop.turnOps side attempt) with loop := w.loop.turn side attempt }
  | .write works =>
    { w with
      loop := { w.loop with client := (w.world.writeCurrent works).client }
      current := (w.world.writeCurrent works).current }

def run (w : Console) (moves : List Move) : Console := moves.foldl move w

@[simp] theorem run_nil (w : Console) : w.run [] = w := rfl

@[simp] theorem run_cons (w : Console) (m : Move) (moves : List Move) :
    w.run (m :: moves) = (w.move m).run moves := rfl

@[simp] theorem performAll_nil (w : Console) : w.performAll [] = w := rfl

@[simp] theorem performAll_cons (w : Console) (op : ClientOp) (ops : List ClientOp) :
    w.performAll (op :: ops) = (w.perform op).performAll ops := rfl

theorem perform_client (w : Console) (op : ClientOp) :
    (w.perform op).client = (w.client.perform op).1 :=
  w.world.perform_client op

theorem performAll_client (w : Console) (ops : List ClientOp) :
    (w.performAll ops).client = w.client.run ops := by
  induction ops generalizing w with
  | nil => rfl
  | cons op ops ih => rw [performAll_cons, ih, perform_client, Client.run_cons]

theorem start_run (c : Client) (attempt : Attempt) :
    EventLoop.start c attempt = ⟨c.run (entryOps c attempt), [], true, true, false⟩ := by
  rw [EventLoop.start_loop, entryOps]
  cases c.active <;> rfl

/-- The loop behind a turn and the operations of the turn leave the same client. -/
theorem turned_client (w : Console) (side : Side) (attempt : Attempt) :
    (w.loop.turn side attempt).client = (w.performAll (w.loop.turnOps side attempt)).client := by
  rw [performAll_client, EventLoop.turn_run]
  rfl

theorem move_enter (w : Console) (attempt : Attempt) :
    w.move (.enter attempt) =
      { w.performAll (entryOps w.client attempt) with
        loop := ⟨(w.performAll (entryOps w.client attempt)).client, [], true, true, false⟩ } := by
  rw [performAll_client, ← start_run]
  rfl

def opsOf (w : Console) : Move → List ClientOp
  | .ask op => [op]
  | .enter attempt => entryOps w.client attempt
  | .turn side attempt => w.loop.turnOps side attempt
  | .send _ | .hangUp | .write _ => []

theorem performAll_world (w : Console) (ops : List ClientOp) :
    (w.performAll ops).world = ops.foldl World.perform w.world := by
  induction ops generalizing w with
  | nil => rfl
  | cons op ops ih => exact ih (w.perform op)

/-- A move does to the client and its connections what it asks of the client, or it is a step of the
writer. -/
theorem move_world (w : Console) (m : Move) :
    (w.move m).world = (w.opsOf m).foldl World.perform w.world ∨
      w.opsOf m = [] ∧ ∃ works, (w.move m).world = w.world.writeCurrent works := by
  cases m with
  | ask op => exact .inl rfl
  | enter attempt =>
    left
    rw [opsOf, ← performAll_world, move_enter]
    rfl
  | send control =>
    left
    simp only [move, EventLoop.enqueue]
    split <;> rfl
  | hangUp => exact .inl rfl
  | turn side attempt =>
    left
    rw [opsOf, ← performAll_world]
    simp only [world, client, move, w.turned_client side attempt]
  | write works =>
    right
    refine ⟨rfl, works, ?_⟩
    obtain still | ⟨sink, t, -, -, step⟩ := w.world.writeCurrent_cases works
    · simp only [move, still]
      rfl
    · simp only [move, step]
      rfl

theorem move_client (w : Console) (m : Move) :
    (w.move m).client = w.client.run (w.opsOf m) ∨
      w.opsOf m = [] ∧ ∃ (works : Bool) (sink : ChannelSink) (t : Traffic),
        w.client.sink? = some sink ∧
          (w.move m).client = w.client.setSink (t.write works sink).1 := by
  obtain asked | ⟨none, works, written⟩ := w.move_world m
  · left
    rw [← performAll_world] at asked
    exact (congrArg World.client asked).trans (w.performAll_client _)
  · obtain still | ⟨sink, t, at_, -, step⟩ := w.world.writeCurrent_cases works
    · left
      rw [none]
      exact congrArg World.client (written.trans still)
    · exact .inr ⟨none, works, sink, t, at_, congrArg World.client (written.trans step)⟩

/-! ## The frames of a console -/

section
variable {w : Console}

theorem ofClient_sound (c : Client) : (ofClient c).world.Sound := by
  constructor
  · intro t current
    cases current
  · intro sink t member
    cases member

theorem move_sound (h : w.world.Sound) (m : Move) : (w.move m).world.Sound := by
  have asked (ops : List ClientOp) {v : World} (sound : v.Sound) :
      (ops.foldl World.perform v).Sound := by
    induction ops generalizing v with
    | nil => exact sound
    | cons op ops ih => exact ih (sound.perform op)
  obtain world | ⟨-, works, world⟩ := w.move_world m
  · rw [world]
    exact asked _ h
  · rw [world]
    exact h.writeCurrent works

/-- The frames of a console are in order, whatever happens to it. -/
theorem run_sound (h : w.world.Sound) (moves : List Move) : (w.run moves).world.Sound := by
  induction moves generalizing w with
  | nil => exact h
  | cons m moves ih => exact ih (move_sound h m)

end

end Console

/-! ## The log after an operation -/

def Log.addLines (log : Log) (lines : List String) : Log := lines.foldl Log.appendLine log

@[simp] theorem Log.addLines_input (log : Log) (lines : List String) :
    (log.addLines lines).input = log.input := by
  induction lines generalizing log with
  | nil => rfl
  | cons line lines ih => exact ih (log.appendLine line)

/-- What an operation makes of the line being typed. -/
def ClientOp.typed (op : ClientOp) (input : String) : String :=
  match op with
  | .submit text => text
  | .reconnect _ => ""
  | _ => input

namespace Client

theorem dispatch_payload {c : Client} {a : Active} (h : c.active = some a) (payload : String) :
    c.dispatch (.text payload) =
      { c with
        log := (a.session.handleMessage c.log payload).2.1
        active := some { a with session := (a.session.handleMessage c.log payload).1 } } := by
  simp [dispatch, h]

theorem dispatch_end {c : Client} {a : Active} (h : c.active = some a) (detail : Option String) :
    c.dispatch (.closed detail) =
      { c with
        log := (a.session.handleClose c.log).2
        active := some ⟨(a.session.handleClose c.log).1, none⟩ } := by
  simp [dispatch, h]

theorem dispatch_log (c : Client) (event : InboundEvent) :
    ∃ lines, (c.dispatch event).log = c.log.addLines lines := by
  cases ha : c.active with
  | none => exact ⟨[], by simp [dispatch, ha, Log.addLines]⟩
  | some a =>
    cases event with
    | text payload =>
      rw [dispatch_payload ha]
      by_cases live : a.session.state = .opened
      · cases hp : parseMessage payload with
        | ok message => exact ⟨[_], congrArg (·.2.1) (Session.handleMessage_parsed live c.log hp)⟩
        | error e => exact ⟨[], congrArg (·.2.1) (Session.handleMessage_rejected live c.log hp)⟩
      · exact ⟨[], congrArg (·.2.1) (Session.handleMessage_unopened live c.log payload)⟩
    | closed detail =>
      rw [dispatch_end ha]
      by_cases closed : a.session.state = .closed
      · exact ⟨[], congrArg (·.2) (Session.handleClose_closed closed c.log)⟩
      · exact ⟨[_], congrArg (·.2) (Session.handleClose_live closed c.log)⟩

theorem processNext_log (c : Client) :
    ∃ lines, c.processNext.1.log = c.log.addLines lines := by
  unfold processNext
  split
  · exact ⟨[], rfl⟩
  · split
    · exact ⟨[], rfl⟩
    · split
      · exact ⟨[], rfl⟩
      · exact dispatch_log _ _

theorem start_log (c : Client) (attempt : Attempt) :
    (c.start attempt).log = c.log.addLines [outcomeLine c.settings attempt] := by
  cases h : attempt.connects c.settings with
  | true => rw [start_connected h]; simp [outcomeLine, h, Log.addLines]
  | false => rw [start_failed h]; simp [outcomeLine, h, Log.addLines]

/-- An operation may change the line being typed, and then adds lines. -/
theorem perform_log (c : Client) (op : ClientOp) :
    ∃ lines, (c.perform op).1.log =
      ({ c.log with input := op.typed c.log.input } : Log).addLines lines := by
  cases op with
  | start attempt => exact ⟨_, start_log c attempt⟩
  | reconnect attempt => exact ⟨[reconnectingLine, _], start_log c.makeRoom attempt⟩
  | send text => exact ⟨[], send_log c text⟩
  | submit text => exact ⟨[], send_log { c with log := c.log.setInput text } text⟩
  | processNext => exact processNext_log c
  | shutdown | arrive => exact ⟨[], rfl⟩

/-- The line being typed after an operation. -/
theorem perform_input (c : Client) (op : ClientOp) :
    (c.perform op).1.log.input = op.typed c.log.input := by
  obtain ⟨lines, log⟩ := c.perform_log op
  rw [log, Log.addLines_input]

end Client

end JobConsole
