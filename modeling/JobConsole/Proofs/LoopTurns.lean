import JobConsole.EventLoop
import JobConsole.Proofs.ClientRun

namespace JobConsole

namespace Client

theorem run_append (c : Client) (before after : List ClientOp) :
    c.run (before ++ after) = (c.run before).run after := by
  simp [run]

theorem run_settings (c : Client) (ops : List ClientOp) : (c.run ops).settings = c.settings := by
  induction ops generalizing c with
  | nil => rfl
  | cons op ops ih => rw [run_cons, ih, perform_settings]

theorem deliver_inbound (c : Client) (items : List Incoming) :
    (c.deliver items).inbound? = c.inbound?.map (·.deliver items) := by
  cases h : c.active <;> simp [deliver, inbound?, h]

theorem deliver_isReading (c : Client) (items : List Incoming) :
    (c.deliver items).isReading = c.isReading := by
  simp [isReading, deliver_inbound]

/-- A client that started a session keeps one, if not the same. -/
theorem perform_started {c : Client} (h : c.active.isSome = true) (op : ClientOp) :
    (c.perform op).1.active.isSome = true := by
  obtain ⟨a, ha⟩ := Option.isSome_iff_exists.mp h
  cases op with
  | start | reconnect => rfl
  | send text | submit text =>
    simp only [perform, submit, send]
    split
    · exact h
    · simp [ha]
  | shutdown | arrive => simp [perform, shutdown, deliver, ha]
  | processNext =>
    simp only [perform, processNext, ha]
    split
    · exact h
    · split
      · exact h
      · next event inbound _ => cases event <;> rfl

theorem run_started {c : Client} (h : c.active.isSome = true) (ops : List ClientOp) :
    (c.run ops).active.isSome = true := by
  induction ops generalizing c with
  | nil => exact h
  | cons op ops ih => exact ih (perform_started h op)

def afterOps (settings : Settings) (unread : Option (List Incoming)) (ops : List ClientOp) :
    Option (List Incoming) :=
  ops.foldl (afterOp settings) unread

theorem run_reads {c : Client} {unread : Option (List Incoming)}
    (h : Reads c.settings.mode c.active unread) (ops : List ClientOp) :
    Reads c.settings.mode (c.run ops).active (afterOps c.settings unread ops) := by
  induction ops generalizing c unread with
  | nil => exact h
  | cons op ops ih =>
    have settings := perform_settings c op
    have reads := perform_reads h op
    rw [← settings] at reads ⊢
    exact ih reads

end Client

namespace EventLoop

section
variable {l : EventLoop}

theorem settle_waits (h : l.listening = true ∨ l.client.isReading = true) : l.settle = l := by
  obtain h | h := h <;> simp [settle, h]

theorem settle_stops (deaf : l.listening = false) (idle : l.client.isReading = false) :
    l.settle = l.stop := by
  simp [settle, deaf, idle]

/-- All of a loop but its client. -/
def rest (l : EventLoop) : List Control × Bool × Bool × Bool :=
  (l.controls, l.senders, l.listening, l.stopped)

/-- A loop that settles keeps its controls, and stops if nothing is left to wait for. -/
theorem settle_rest (l : EventLoop) :
    l.settle.rest =
      (l.controls, l.senders, l.listening, l.stopped || (!l.listening && !l.client.isReading)) := by
  by_cases waits : l.listening = true ∨ l.client.isReading = true
  · rw [settle_waits waits]
    obtain waits | waits := waits <;> simp [rest, waits]
  · obtain ⟨deaf, idle⟩ : l.listening = false ∧ l.client.isReading = false := by simpa using waits
    rw [settle_stops deaf idle]
    simp [rest, stop, deaf, idle]

theorem settle_controls (l : EventLoop) : l.settle.controls = l.controls :=
  congrArg (·.1) l.settle_rest

theorem settle_listening (l : EventLoop) : l.settle.listening = l.listening :=
  congrArg (·.2.2.1) l.settle_rest

theorem settle_senders (l : EventLoop) : l.settle.senders = l.senders :=
  congrArg (·.2.1) l.settle_rest

/-- A loop begins with an empty queue, and with a session. -/
theorem start_loop (c : Client) (attempt : Attempt) :
    start c attempt =
      ⟨if c.active.isNone then c.start attempt else c, [], true, true, false⟩ := by
  unfold start
  rw [settle_waits (.inl rfl)]

inductive TurnStep (l : EventLoop) (attempt : Attempt) : Side → EventLoop → Prop
  | submits (text : String) (rest : List Control) (heard : l.listening = true)
      (queue : l.controls = .submit text :: rest) :
      TurnStep l attempt .control
        { l with controls := rest, client := (l.client.submit text).1 }
  | reconnects (rest : List Control) (heard : l.listening = true)
      (queue : l.controls = .reconnect :: rest) :
      TurnStep l attempt .control
        { l with controls := rest, client := l.client.reconnect attempt }
  | shutsDown (rest : List Control) (heard : l.listening = true)
      (queue : l.controls = .shutdown :: rest) :
      TurnStep l attempt .control
        { l with controls := rest, client := l.client.shutdown, stopped := true }
  /-- No control waits and none can come, so the loop stops looking for them. -/
  | hearsEnd (heard : l.listening = true) (queue : l.controls = []) (gone : l.senders = false) :
      TurnStep l attempt .control (settle { l with listening := false })
  | reads (event : InboundEvent) (rest : Inbound)
      (next : l.client.inbound?.bind Inbound.next = some (event, rest)) :
      TurnStep l attempt .inbound (settle { l with client := l.client.processNext.1 })

/-- A loop that stopped, or a side that is not ready: nothing happens. -/
theorem turn_idle {side : Side} (h : l.stopped = true ∨ l.isReady side = false)
    (attempt : Attempt) : l.turn side attempt = l := by
  obtain h | h := h <;> simp [turn, h]

/-- Every turn does one of the things that `TurnStep` lists. -/
theorem turn_step (live : l.stopped = false) {side : Side} (ready : l.isReady side = true)
    (attempt : Attempt) : TurnStep l attempt side (l.turn side attempt) := by
  unfold turn
  rw [if_neg (by simp [live, ready])]
  cases side with
  | inbound =>
    obtain ⟨⟨event, rest⟩, next⟩ := Option.isSome_iff_exists.mp ready
    exact .reads event rest next
  | control =>
    obtain ⟨heard, due⟩ : l.listening = true ∧ (l.controls ≠ [] ∨ l.senders = false) := by
      simpa [isReady] using ready
    dsimp only
    split
    · next queue => exact .hearsEnd heard queue (due.resolve_left (· queue))
    · next control rest queue =>
      -- The loop still looks for controls, so it goes on unless it was told to stop.
      have waits : (handle { l with controls := rest } control attempt).listening = true := by
        cases control <;> exact heard
      rw [settle_waits (.inl waits)]
      cases control with
      | submit text => exact .submits text rest heard queue
      | reconnect => exact .reconnects rest heard queue
      | shutdown => exact .shutsDown rest heard queue

/-- A turn does not let go of the sending ends. -/
theorem turn_senders (live : l.stopped = false) {side : Side} (ready : l.isReady side = true)
    (attempt : Attempt) : (l.turn side attempt).senders = l.senders := by
  generalize after : l.turn side attempt = l'
  have step := turn_step live ready attempt
  rw [after] at step
  cases step with
  | submits | reconnects | shutsDown => rfl
  | hearsEnd | reads => exact settle_senders _

def asks (l : EventLoop) (attempt : Attempt) : Side → List ClientOp
  | .inbound => [.processNext]
  | .control =>
    match l.controls with
    | .submit text :: _ => [.submit text]
    | .reconnect :: _ => [.reconnect attempt]
    | .shutdown :: _ | [] => []

/-- A client that is shut down when its loop has stopped. -/
def leftBy (stopped : Bool) (c : Client) : Client := if stopped then c.shutdown else c

/-- A loop that settles changes its client only when it stops. -/
theorem settle_client (live : l.stopped = false) :
    l.settle.client = leftBy l.settle.stopped l.client := by
  by_cases waits : l.listening = true ∨ l.client.isReading = true
  · rw [settle_waits waits, live]
    rfl
  · obtain ⟨deaf, idle⟩ : l.listening = false ∧ l.client.isReading = false := by simpa using waits
    rw [settle_stops deaf idle]
    rfl

/-- A turn does to the client what it asks. If the loop stops, the client is shut down behind it. -/
theorem turn_client (live : l.stopped = false) {side : Side} (ready : l.isReady side = true)
    (attempt : Attempt) :
    (l.turn side attempt).client =
      leftBy (l.turn side attempt).stopped (l.client.run (l.asks attempt side)) := by
  generalize after : l.turn side attempt = l'
  have step := turn_step live ready attempt
  rw [after] at step
  cases step with
  | submits text rest heard queue | reconnects rest heard queue =>
    simp [asks, queue, live, leftBy, Client.perform]
  | shutsDown rest heard queue => simp [asks, queue, leftBy]
  | hearsEnd heard queue gone =>
    rw [settle_client (l := { l with listening := false }) live]
    simp [asks, queue]
  | reads => exact settle_client (l := { l with client := l.client.processNext.1 }) live

theorem turn_settings (l : EventLoop) (side : Side) (attempt : Attempt) :
    (l.turn side attempt).client.settings = l.client.settings := by
  by_cases idle : l.stopped = true ∨ l.isReady side = false
  · rw [turn_idle idle]
  · obtain ⟨live, ready⟩ : l.stopped = false ∧ l.isReady side = true := by simpa using idle
    rw [turn_client live ready, ← Client.run_settings l.client (l.asks attempt side)]
    unfold leftBy
    split <;> rfl

end

end EventLoop

end JobConsole
