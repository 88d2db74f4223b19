import JobConsole.Proofs.ConsoleRun

/-!
# Clients that are alike

What a client does depends on its settings, the line being typed and its session, but not on how the
session is named, how messages are rendered or what the log holds.
-/

namespace JobConsole

/-! ## Sessions under another name and in another mode -/

namespace Session

section
variable {σ : Type}

/-- The session under another name and in another render mode. -/
def presented (s : Session σ) (id : SessionId) (mode : RenderMode) : Session σ :=
  { s with id, mode }

theorem handleMessage_presented (s : Session σ) (id : SessionId) (mode : RenderMode)
    (log log' : Log) (payload : String) :
    ((s.presented id mode).handleMessage log' payload).1 =
      (s.handleMessage log payload).1.presented id mode := by
  unfold handleMessage
  by_cases live : s.state = .opened
  · cases parseMessage payload <;> simp [presented, live]
  · simp [presented, live]

theorem handleClose_presented (s : Session σ) (id : SessionId) (mode : RenderMode)
    (log log' : Log) :
    ((s.presented id mode).handleClose log').1 = (s.handleClose log).1.presented id mode := by
  unfold handleClose
  by_cases ended : s.state.isTerminal = true <;> simp [presented, ended]

variable [CommandSink σ]

theorem send_presented (s : Session σ) (id : SessionId) (mode : RenderMode) (text : String) :
    (s.presented id mode).send text = ((s.send text).1.presented id mode, (s.send text).2) := by
  unfold send
  by_cases none : text = ""
  · simp [none]
  · by_cases live : s.state = .opened
    · simp only [presented, none, live, ne_eq, not_true_eq_false, if_false]
      split <;> rfl
    · simp [presented, none, live]

theorem emit_presented (s : Session σ) (id : SessionId) (mode : RenderMode) (text : String) :
    (s.presented id mode).emit text = (s.emit text).presented id mode := by
  simp only [emit, presented]
  split <;> rfl

theorem retire_presented (s : Session σ) (id : SessionId) (mode : RenderMode) :
    (s.presented id mode).retire = s.retire.presented id mode := by
  unfold retire
  by_cases ended : s.state.isTerminal = true <;> simp [presented, ended]

end

end Session

/-! ## Clients alike -/

/-- The same session under any name and in any render mode, and the same left to read. -/
inductive Active.Alike : Option Active → Option Active → Prop
  | none : Alike none none
  | some (session : Session ChannelSink) (inbound : Option Inbound) (id : SessionId)
      (mode : RenderMode) :
      Alike (some ⟨session, inbound⟩) (some ⟨session.presented id mode, inbound⟩)

/-- What is done to a session without regard to its name and its mode leaves the two alike. -/
theorem Active.Alike.map {a a' : Option Active} (h : Alike a a') {f : Active → Active}
    (presented : ∀ session inbound id mode, f ⟨Session.presented session id mode, inbound⟩ =
      ⟨(f ⟨session, inbound⟩).session.presented id mode, (f ⟨session, inbound⟩).inbound⟩) :
    Alike (a.map f) (a'.map f) := by
  cases h with
  | none => exact .none
  | some session inbound id mode =>
    rw [Option.map_some, Option.map_some, presented]
    exact .some _ _ _ _

theorem Attempt.connects_mode (attempt : Attempt) (settings : Settings) (mode : RenderMode) :
    attempt.connects { settings with mode } = attempt.connects settings := rfl

namespace Client

/-- Two clients that differ only in the names of their sessions, their render modes and their
logs. -/
structure Alike (c c' : Client) : Prop where
  settings : c'.settings = { c.settings with mode := c'.settings.mode }
  input : c.log.input = c'.log.input
  active : Active.Alike c.active c'.active

section
variable {c c' : Client}

theorem Alike.session (h : Alike c c') :
    c.state? = c'.state? ∧ c.stats? = c'.stats? ∧ c.sink? = c'.sink? ∧
      c.inbound? = c'.inbound? := by
  have active := h.active
  simp only [state?, stats?, sink?, session?, inbound?]
  generalize c.active = a at active ⊢
  generalize c'.active = a' at active ⊢
  cases active <;> exact ⟨rfl, rfl, rfl, rfl⟩

theorem Alike.isNone (h : Alike c c') : c.active.isNone = c'.active.isNone := by
  have active := h.active
  generalize c.active = a at active ⊢
  generalize c'.active = a' at active ⊢
  cases active <;> rfl

theorem Alike.isReading (h : Alike c c') : c.isReading = c'.isReading :=
  congrArg Option.isSome h.session.2.2.2

/-- The same attempts connect. -/
theorem Alike.connects (h : Alike c c') (attempt : Attempt) :
    attempt.connects c'.settings = attempt.connects c.settings := by
  rw [h.settings]
  exact attempt.connects_mode _ _

theorem openedSession_presented (settings : Settings) (id id' : SessionId) (mode : RenderMode) :
    (openedSession settings id).presented id' mode = openedSession { settings with mode } id' :=
  (Session.emit_presented _ id' mode _).symm

theorem failedSession_presented (settings : Settings) (id id' : SessionId) (mode : RenderMode) :
    (failedSession settings id).presented id' mode = failedSession { settings with mode } id' := rfl

/-- A new session is the same for all clients with the same settings, but for its name and mode. -/
theorem start_alike (c c' : Client)
    (settings : c'.settings = { c.settings with mode := c'.settings.mode }) (attempt : Attempt) :
    Active.Alike (c.start attempt).active (c'.start attempt).active := by
  have connects : attempt.connects c'.settings = attempt.connects c.settings := by
    rw [settings]
    exact attempt.connects_mode _ _
  cases h : attempt.connects c.settings with
  | true =>
    rw [start_connected h, start_connected (connects.trans h)]
    dsimp only
    rw [settings, ← openedSession_presented c.settings c.ids.draw.1 c'.ids.draw.1]
    exact .some _ _ _ _
  | false =>
    rw [start_failed h, start_failed (connects.trans h)]
    dsimp only
    rw [settings, ← failedSession_presented c.settings c.ids.draw.1 c'.ids.draw.1]
    exact .some _ _ _ _

theorem shutdown_alike (h : Active.Alike c.active c'.active) :
    Active.Alike c.shutdown.active c'.shutdown.active :=
  h.map fun session _ id mode => by rw [Session.retire_presented session id mode]

theorem send_alike (c c' : Client) (h : Active.Alike c.active c'.active) (text : String) :
    Active.Alike (c.send text).1.active (c'.send text).1.active ∧
      (c.send text).2 = (c'.send text).2 := by
  unfold send
  by_cases none : text = ""
  · simpa [none] using h
  · simp only [none, if_false]
    generalize ha : c.active = a at h
    generalize ha' : c'.active = a' at h
    cases h with
    | none => exact ⟨by simpa [ha, ha'] using Active.Alike.none, rfl⟩
    | some session inbound id mode =>
      dsimp only
      rw [Session.send_presented]
      exact ⟨.some _ _ _ _, rfl⟩

theorem dispatch_alike (h : Active.Alike c.active c'.active) (event : InboundEvent) :
    Active.Alike (c.dispatch event).active (c'.dispatch event).active := by
  generalize ha : c.active = a at h
  generalize ha' : c'.active = a' at h
  cases h with
  | none => simpa [dispatch, ha, ha'] using Active.Alike.none
  | some session inbound id mode =>
    cases event with
    | text payload =>
      rw [dispatch_payload ha, dispatch_payload ha']
      dsimp only
      rw [Session.handleMessage_presented session id mode c.log c'.log]
      exact .some _ _ _ _
    | closed detail =>
      rw [dispatch_end ha, dispatch_end ha']
      dsimp only
      rw [Session.handleClose_presented session id mode c.log c'.log]
      exact .some _ _ _ _

theorem processNext_alike (h : Active.Alike c.active c'.active) :
    Active.Alike c.processNext.1.active c'.processNext.1.active ∧
      c.processNext.2 = c'.processNext.2 := by
  unfold processNext
  generalize ha : c.active = a at h
  generalize ha' : c'.active = a' at h
  cases h with
  | none => exact ⟨by simpa [ha, ha'] using Active.Alike.none, rfl⟩
  | some session inbound id mode =>
    have same : Active.Alike c.active c'.active := ha ▸ ha' ▸ .some session inbound id mode
    cases inbound with
    | none => exact ⟨same, rfl⟩
    | some inbound =>
      dsimp only
      cases inbound.next with
      | none => exact ⟨same, rfl⟩
      | some next => exact ⟨dispatch_alike (.some session _ id mode) next.1, rfl⟩

theorem deliver_alike (h : Active.Alike c.active c'.active) (items : List Incoming) :
    Active.Alike (c.deliver items).active (c'.deliver items).active :=
  h.map fun _ _ _ _ => rfl

/-- Clients that are alike answer every operation alike, and stay alike. -/
theorem Alike.perform (h : Alike c c') (op : ClientOp) :
    Alike (c.perform op).1 (c'.perform op).1 ∧ (c.perform op).2 = (c'.perform op).2 := by
  have settings : (c'.perform op).1.settings =
      { (c.perform op).1.settings with mode := (c'.perform op).1.settings.mode } := by
    rw [perform_settings, perform_settings]
    exact h.settings
  have input : (c.perform op).1.log.input = (c'.perform op).1.log.input := by
    rw [perform_input, perform_input, h.input]
  suffices Active.Alike (c.perform op).1.active (c'.perform op).1.active ∧
      (c.perform op).2 = (c'.perform op).2 from ⟨⟨settings, input, this.1⟩, this.2⟩
  cases op with
  | start attempt => exact ⟨start_alike c c' h.settings attempt, rfl⟩
  | reconnect attempt =>
    exact ⟨start_alike c.makeRoom c'.makeRoom h.settings attempt, rfl⟩
  | send text =>
    obtain ⟨active, same⟩ := send_alike c c' h.active text
    exact ⟨active, congrArg Reply.sent same⟩
  | submit text =>
    obtain ⟨active, same⟩ := send_alike { c with log := c.log.setInput text }
      { c' with log := c'.log.setInput text } h.active text
    exact ⟨active, congrArg Reply.sent same⟩
  | processNext =>
    obtain ⟨active, same⟩ := processNext_alike h.active
    exact ⟨active, congrArg Reply.progressed same⟩
  | shutdown => exact ⟨shutdown_alike h.active, rfl⟩
  | arrive items => exact ⟨deliver_alike h.active items, rfl⟩

/-- Clients with the same settings are alike behind a reconnect, whatever they were before. -/
theorem reconnect_alike (settings : c.settings = c'.settings) (attempt : Attempt) :
    Alike (c.perform (.reconnect attempt)).1 (c'.perform (.reconnect attempt)).1 where
  settings := by rw [perform_settings, perform_settings, settings]
  input := by rw [perform_input, perform_input]; rfl
  active := by
    apply start_alike c.makeRoom c'.makeRoom
    simp only [makeRoom, shutdown, settings]

theorem Alike.setSink (h : Alike c c') (sink : ChannelSink) :
    Alike (c.setSink sink) (c'.setSink sink) :=
  ⟨h.settings, h.input, h.active.map fun _ _ _ _ => rfl⟩

/-- Clients that are alike have the same left to read. -/
theorem Alike.unread (h : Alike c c') {unread unread' : Option (List Incoming)}
    (reads : Reads c.settings.mode c.active unread)
    (reads' : Reads c'.settings.mode c'.active unread') : unread' = unread := by
  have active := h.active
  generalize c.active = a at active reads
  generalize c'.active = a' at active reads'
  cases active with
  | none =>
    cases reads
    cases reads'
    rfl
  | some session inbound id mode =>
    cases reads with
    | opened _ unread live =>
      cases reads'
      rfl
    | ended _ closed =>
      cases reads'
      rfl

end

end Client

theorem Client.Alike.offer {c c' : Client} (h : c.Alike c') (op : ClientOp) :
    c.offer? op = c'.offer? op := by
  cases op <;> simp only [offer?, h.session.1, h.session.2.2.1]

/-! ## Their loops -/

namespace EventLoop

section
variable {l l' : EventLoop}

theorem enqueue_client (l : EventLoop) (control : Control) :
    (l.enqueue control).client = l.client := by
  unfold enqueue
  split <;> rfl

theorem enqueue_alike (same : l.rest = l'.rest) (control : Control) :
    (l.enqueue control).rest = (l'.enqueue control).rest := by
  obtain ⟨c, controls, senders, listening, stopped⟩ := l
  obtain ⟨c', _, _, _, _⟩ := l'
  obtain ⟨rfl, rfl, rfl, rfl⟩ := by simpa [rest] using same
  unfold enqueue
  split <;> rfl

theorem closeControls_alike (same : l.rest = l'.rest) :
    l.closeControls.rest = l'.closeControls.rest := by
  obtain ⟨c, controls, senders, listening, stopped⟩ := l
  obtain ⟨c', _, _, _, _⟩ := l'
  obtain ⟨rfl, rfl, rfl, rfl⟩ := by simpa [rest] using same
  rfl

theorem settle_alike (clients : l.client.Alike l'.client) (same : l.rest = l'.rest) :
    l.settle.rest = l'.settle.rest := by
  obtain ⟨c, controls, senders, listening, stopped⟩ := l
  obtain ⟨c', _, _, _, _⟩ := l'
  obtain ⟨rfl, rfl, rfl, rfl⟩ := by simpa [rest] using same
  rw [settle_rest, settle_rest, clients.isReading]

/-- The loops of clients that are alike take the same turns. -/
theorem turn_alike (clients : l.client.Alike l'.client) (same : l.rest = l'.rest) (side : Side)
    (attempt : Attempt) :
    (l.turn side attempt).rest = (l'.turn side attempt).rest ∧
      l.turnOps side attempt = l'.turnOps side attempt := by
  obtain ⟨c, controls, senders, listening, stopped⟩ := l
  obtain ⟨c', _, _, _, _⟩ := l'
  obtain ⟨rfl, rfl, rfl, rfl⟩ := by simpa [rest] using same
  have ready : isReady ⟨c, controls, senders, listening, stopped⟩ side =
      isReady ⟨c', controls, senders, listening, stopped⟩ side := by
    cases side <;> simp [isReady, clients.session.2.2.2]
  have turned : (turn ⟨c, controls, senders, listening, stopped⟩ side attempt).rest =
      (turn ⟨c', controls, senders, listening, stopped⟩ side attempt).rest := by
    unfold turn
    rw [ready]
    split
    · exact same
    · cases side with
      | inbound => exact settle_alike (clients.perform .processNext).1 rfl
      | control =>
        cases controls with
        | nil => exact settle_alike clients rfl
        | cons control waiting =>
          cases control with
          | submit text => exact settle_alike (clients.perform (.submit text)).1 rfl
          | reconnect => exact settle_alike (clients.perform (.reconnect attempt)).1 rfl
          | shutdown => exact settle_alike (clients.perform .shutdown).1 rfl
  have halted : (turn ⟨c, controls, senders, listening, stopped⟩ side attempt).stopped =
      (turn ⟨c', controls, senders, listening, stopped⟩ side attempt).stopped :=
    congrArg (·.2.2.2) turned
  refine ⟨turned, ?_⟩
  simp only [turnOps, ready, halted]
  rfl

end

end EventLoop

end JobConsole
