import JobConsole.Proofs.LoopTurns
import JobConsole.Proofs.Wire

namespace JobConsole

/-- How many payloads a session took note of. -/
def SessionStats.heard (stats : SessionStats) : Nat := stats.messagesReceived + stats.parseFailures

namespace Client

inductive Reachable : Client → Prop
  | made {settings : Settings} {ids : IdSource} {c : Client}
      (h : ofSettings settings ids = .ok c) : Reachable c
  | asked {c : Client} (op : ClientOp) (h : Reachable c) : Reachable (c.perform op).1
  /-- The writer of the current connection took from its queue, or ended. -/
  | written {c : Client} (sink : ChannelSink) (h : Reachable c) : Reachable (c.setSink sink)
  | entered {c : Client} (attempt : Attempt) (h : Reachable c) :
      Reachable (EventLoop.start c attempt).client
  | turned {l : EventLoop} (side : Side) (attempt : Attempt) (h : Reachable l.client) :
      Reachable (l.turn side attempt).client

/-- A session that is read is open, and one that is not read is closed. -/
def InStep (c : Client) : Prop := ∃ unread, Reads c.settings.mode c.active unread

section
variable {c : Client}

theorem InStep.run (h : c.InStep) (ops : List ClientOp) : (c.run ops).InStep := by
  obtain ⟨unread, reads⟩ := h
  have after := run_reads reads ops
  rw [← run_settings c ops] at after
  exact ⟨_, after⟩

theorem InStep.perform (h : c.InStep) (op : ClientOp) : (c.perform op).1.InStep := h.run [op]

theorem InStep.setSink (h : c.InStep) (sink : ChannelSink) : (c.setSink sink).InStep := by
  obtain ⟨unread, reads⟩ := h
  refine ⟨unread, ?_⟩
  simp only [Client.setSink]
  generalize c.active = active at reads ⊢
  cases reads with
  | unstarted => exact .unstarted
  | opened session unread live renders => exact .opened _ unread live renders
  | ended session closed => exact .ended _ closed

theorem InStep.entered (h : c.InStep) (attempt : Attempt) :
    (EventLoop.start c attempt).client.InStep := by
  rw [EventLoop.start_loop]
  dsimp only
  split
  · exact h.perform (.start attempt)
  · exact h

theorem InStep.turned {l : EventLoop} (h : l.client.InStep) (side : Side) (attempt : Attempt) :
    (l.turn side attempt).client.InStep := by
  by_cases idle : l.stopped = true ∨ l.isReady side = false
  · rwa [EventLoop.turn_idle idle]
  · obtain ⟨live, ready⟩ : l.stopped = false ∧ l.isReady side = true := by simpa using idle
    rw [EventLoop.turn_client live ready attempt]
    have asked := h.run (l.asks attempt side)
    unfold EventLoop.leftBy
    split
    · exact asked.perform .shutdown
    · exact asked

/-- The state and the reading side of a client agree, whatever happened to it. -/
theorem reachable_inStep (h : Reachable c) : c.InStep := by
  induction h with
  | made h =>
    obtain ⟨-, idle, -⟩ := ofSettings_spec h
    exact ⟨none, idle ▸ .unstarted⟩
  | asked op _ ih => exact ih.perform op
  | written sink _ ih => exact ih.setSink sink
  | entered attempt _ ih => exact ih.entered attempt
  | turned side attempt _ ih => exact ih.turned side attempt

/-! ## A client in step -/

/-- No session was started, or it is open and read, or it is closed and not read. -/
theorem InStep.cases (h : c.InStep) :
    c.active = none ∨
      (∃ session unread, c.active = some ⟨session, some ⟨unread, false⟩⟩ ∧
        session.state = .opened) ∨
      ∃ session, c.active = some ⟨session, none⟩ ∧ session.state = .closed := by
  obtain ⟨unread, reads⟩ := h
  generalize c.active = active at reads
  cases reads with
  | unstarted => exact .inl rfl
  | opened session unread live => exact .inr (.inl ⟨session, unread, rfl, live⟩)
  | ended session closed => exact .inr (.inr ⟨session, rfl, closed⟩)

theorem firstEvent_append (arrived : List Incoming) {items : List Incoming}
    (h : ∃ item ∈ items, item.event?.isSome = true) :
    ∃ next, Inbound.firstEvent (arrived ++ items) = some next := by
  obtain ⟨item, member, event⟩ := h
  have among : item ∈ arrived ++ items := List.mem_append_right arrived member
  generalize arrived ++ items = all at among ⊢
  induction all with
  | nil => cases among
  | cons first rest ih =>
    simp only [Inbound.firstEvent]
    cases he : first.event? with
    | some event => exact ⟨_, rfl⟩
    | none =>
      obtain rfl | later := List.mem_cons.mp among
      · simp [he] at event
      · exact ih later

/-- Once an event is there, the handling of the next event does not wait. -/
theorem InStep.processNext_reply (h : c.InStep) :
    (c.processNext.2 = .idle ↔ c.state? ≠ some .opened) ∧
      ∀ items : List Incoming, (∃ item ∈ items, item.event?.isSome = true) →
        ((c.deliver items).processNext.2 = .handled ↔ c.state? = some .opened) := by
  obtain none | ⟨session, unread, reading, live⟩ | ⟨session, ended, closed⟩ := h.cases
  · simp [processNext, deliver, state?, session?, none]
  · constructor
    · cases hf : Inbound.firstEvent unread with
      | none => simp [processNext_waiting reading hf, state?, session?, reading, live]
      | some next =>
        obtain ⟨event, rest⟩ := next
        cases event <;>
          simp [processNext, Inbound.next, state?, session?, reading, live, hf]
    · intro items events
      obtain ⟨⟨event, rest⟩, hf⟩ := firstEvent_append unread events
      cases event <;>
        simp [processNext, deliver, Inbound.deliver, Inbound.next, state?, session?, reading, live,
          hf]
  · simp [processNext, deliver, state?, session?, ended, closed]

/-- An event finds its session open, so that a payload is counted. -/
theorem InStep.dispatched (h : c.InStep) {inbound rest : Inbound} {event : InboundEvent}
    (reads : c.inbound? = some inbound) (next : inbound.next = some (event, rest)) :
    c.state? = some .opened ∧
      ∀ payload, event = .text payload →
        c.processNext.1.stats?.map SessionStats.heard = c.stats?.map (·.heard + 1) := by
  obtain none | ⟨session, unread, reading, live⟩ | ⟨session, ended, -⟩ := h.cases
  · simp [inbound?, none] at reads
  · refine ⟨by simp [state?, session?, reading, live], ?_⟩
    rintro payload rfl
    obtain rfl : ⟨unread, false⟩ = inbound := by simpa [inbound?, reading] using reads
    simp only [processNext, reading, next, dispatch]
    cases hp : parseMessage payload with
    | ok message =>
      rw [Session.handleMessage_parsed live _ hp]
      simp [stats?, session?, SessionStats.heard, reading]
      omega
    | error e =>
      rw [Session.handleMessage_rejected live _ hp]
      simp [stats?, session?, SessionStats.heard, reading]
      omega
  · simp [inbound?, ended] at reads

theorem InStep.send_refused (h : c.InStep) {text : String} (nonempty : text ≠ "")
    (idle : c.state? ≠ some .opened) : c.send text = (c, .error (.notOpen .closed)) := by
  obtain none | ⟨session, unread, reading, live⟩ | ⟨session, ended, closed⟩ := h.cases
  · simp [send, nonempty, none]
  · simp [state?, session?, reading, live] at idle
  · have refused : session.send text = (session, .error (.notOpen .closed)) := by
      simp [Session.send, nonempty, closed]
    simp only [send, nonempty, if_false, ended, refused]
    rw [← ended]

/-- In every state a client can come to, either no session was started, or the current one is open
and read, or it is closed and not read. So the handling of the next event only ever answers that
nothing is read when the session is not open, and if it is open, handles the event as soon as one is
there. Every event finds its session open, and no payload goes by uncounted. A command is refused as
on a closed session whenever there is no open one. -/
theorem read_side_agrees (h : Reachable c) :
    (c.active = none ∨ (c.state? = some .opened ∧ c.isReading = true) ∨
        (c.state? = some .closed ∧ c.isReading = false)) ∧
      c.state? ≠ some .connecting ∧
      (c.processNext.2 = .idle ↔ c.state? ≠ some .opened) ∧
      (∀ items : List Incoming, (∃ item ∈ items, item.event?.isSome = true) →
        ((c.deliver items).processNext.2 = .handled ↔ c.state? = some .opened)) ∧
      (∀ (inbound rest : Inbound) (event : InboundEvent), c.inbound? = some inbound →
        inbound.next = some (event, rest) →
          c.state? = some .opened ∧
            ∀ payload, event = .text payload →
              c.processNext.1.stats?.map SessionStats.heard = c.stats?.map (·.heard + 1)) ∧
      ∀ text : String, text ≠ "" → c.state? ≠ some .opened →
        c.send text = (c, .error (.notOpen .closed)) := by
  have inStep := reachable_inStep h
  obtain ⟨answers, handles⟩ := inStep.processNext_reply
  have agree : c.active = none ∨ (c.state? = some .opened ∧ c.isReading = true) ∨
      (c.state? = some .closed ∧ c.isReading = false) := by
    obtain none | ⟨session, unread, reading, live⟩ | ⟨session, ended, closed⟩ := inStep.cases
    · exact .inl none
    · exact .inr (.inl (by simp [state?, session?, isReading, inbound?, reading, live]))
    · exact .inr (.inr (by simp [state?, session?, isReading, inbound?, ended, closed]))
  refine ⟨agree, ?_, answers, handles, ?_, ?_⟩
  · obtain none | ⟨opened, -⟩ | ⟨closed, -⟩ := agree
    · simp [state?, session?, none]
    · simp [opened]
    · simp [closed]
  · intro inbound rest event reads next
    exact inStep.dispatched reads next
  · intro text nonempty idle
    exact inStep.send_refused nonempty idle

end

/-- A loop reads what is no message, and then the end; a command behind it is refused. -/
theorem read_side_agrees_of_loop :
    let before : EventLoop :=
      (EventLoop.start plainClient .accepted).deliver [.ping [], .text "x", .close none]
    let after := (before.turn .inbound .accepted).turn .inbound .accepted
    Reachable after.client ∧ before.client.state? = some .opened ∧
      before.client.processNext.1.stats? = some ⟨0, 1, 1⟩ ∧
      after.client.state? = some .closed ∧ after.client.processNext.2 = .idle ∧
      (after.client.send "list").2 = .error (.notOpen .closed) := by
  intro before after
  have first : Reachable before.client :=
    .asked (.arrive [.ping [], .text "x", .close none])
      (.entered .accepted (.made ofSettings_plainClient))
  have last : Reachable after.client :=
    .turned .inbound .accepted (.turned .inbound .accepted first)
  have closed : after.client.state? = some .closed := by decide +kernel
  obtain ⟨-, -, answers, -, -, refused⟩ := read_side_agrees last
  have idle : after.client.state? ≠ some .opened := by simp [closed]
  refine ⟨last, by decide +kernel, by decide +kernel, closed, answers.mpr idle, ?_⟩
  rw [refused "list" (by decide) idle]

end Client

end JobConsole
