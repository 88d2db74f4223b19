import JobConsole.Proofs.Milestones

/-!
# Held channels

A session lets go of the sending end of its connection when it is shut down. The end of the
connection ends the session too, but that way it keeps the sending end, until another session takes
its place.
-/

namespace JobConsole

/-- The state of the current session, and whether it holds the sending end of its connection. -/
def Client.standing? (c : Client) : Option (ConnectionState × Bool) :=
  c.state?.bind fun state => c.sink?.map fun sink => (state, sink.held)

def Milestone.standing? : Milestone → Option (ConnectionState × Bool)
  | .reconnecting => none
  | .connected => some (.opened, true)
  | .lost => some (.closed, true)
  | .refused | .retired => some (.closed, false)

/-! ## The writer -/

namespace Traffic

section
variable {t : Traffic} {sink : ChannelSink}

/-- As long as the session holds the sending end, a writer whose writes work does not end. -/
theorem Sound.writes_held (h : Sound t sink) (held : sink.held = true)
    (live : t.writer.ended = false) (count : Nat) :
    (writes count sink t).writer.ended = false := by
  induction count generalizing sink t with
  | zero => exact live
  | succ count ih =>
    have still : (t.write true sink).1.held = true := (t.write_same_held true).trans held
    refine ih (h.write true) still ?_
    cases h with
    | finished done | failed done => simp [live] at done
    | writing pending tail _ _ _ ending queue order =>
      obtain rfl : tail = [] := by
        obtain none | ⟨-, released⟩ := ending
        · exact none
        · simp [held] at released
      cases pending with
      | nil => rwa [write_waiting live queue held]
      | cons frame rest =>
        obtain ⟨payload, rfl⟩ := pending_text order
        rw [write_text live queue]

end

end Traffic

/-! ## Operations -/

namespace Client

section
variable {c : Client}

theorem standing?_congr {c' : Client} (outlet : c.outlet? = c'.outlet?)
    (sink : c.sink? = c'.sink?) : c.standing? = c'.standing? := by
  simp only [standing?, ← outlet_state, outlet, sink]

theorem start_standing (c : Client) (attempt : Attempt) :
    (c.start attempt).standing? = (Milestone.ofAttempt c.settings attempt).standing? := by
  have state : (c.start attempt).state? =
      some (if attempt.connects c.settings then .opened else .closed) := by
    rw [← outlet_state, start_outlet]
    simp only [Outlet.ofAttempt]
    split <;> rfl
  cases connects : attempt.connects c.settings with
  | true =>
    have connected : ChannelSink.connected.isConnected = true := rfl
    simp [standing?, state, start_sink connects, Milestone.ofAttempt, connects,
      Traffic.sendText_connected connected]
    rfl
  | false =>
    have sink : (c.start attempt).sink? = some .disconnected := by rw [start_failed connects]; rfl
    simp [standing?, state, sink, Milestone.ofAttempt, connects]
    rfl

theorem send_standing (c : Client) (text : String) : (c.send text).1.standing? = c.standing? := by
  have step := c.send_step text
  generalize c.send text = sent at step
  cases step with
  | nothing | unstarted | unopened | refused => rfl
  | accepted _ a at_ _ room =>
    simp [standing?, state?, sink?, session?, at_, Traffic.sendText_connected room]

theorem deliver_standing (c : Client) (items : List Incoming) :
    (c.deliver items).standing? = c.standing? :=
  standing?_congr (c.deliver_outlet items) (c.deliver_sink items)

/-- The end of a connection closes the session, which goes on to hold what it held. -/
theorem processNext_standing (c : Client) :
    c.processNext.1.standing? =
      if c.atEnd then c.standing?.map fun s => (.closed, s.2) else c.standing? := by
  simp only [standing?, ← outlet_state, processNext_outlet, processNext_sink]
  split
  · cases c.outlet? <;> cases c.sink? <;> rfl
  · rfl

/-- A session that is open is closed and lets go. One that is closed stays as it is. -/
theorem shutdown_standing (h : c.InStep) :
    c.shutdown.standing? =
      if c.state? = some .opened then some (.closed, false) else c.standing? := by
  obtain none | ⟨session, unread, at_, live⟩ | ⟨session, at_, closed⟩ := h.cases
  · simp [standing?, state?, session?, shutdown, none]
  · simp [standing?, state?, sink?, session?, shutdown, at_, live, Session.retire_live]
    rfl
  · simp [standing?, state?, sink?, session?, shutdown, at_, closed, Session.retire_closed closed]

theorem setSink_standing {sink after : ChannelSink} (at_ : c.sink? = some sink)
    (held : after.held = sink.held) : (c.setSink after).standing? = c.standing? := by
  simp only [standing?, setSink_state, setSink_sink at_, at_, Option.map_some, held]

/-- All that an operation does to the standing of a session. -/
theorem perform_standing (h : c.InStep) (op : ClientOp) :
    (c.perform op).1.standing? =
      match (c.milestones op).getLast? with
      | none => c.standing?
      | some .lost => c.standing?.map fun s => (.closed, s.2)
      | some milestone => milestone.standing? := by
  cases op with
  | start attempt =>
    refine (c.start_standing attempt).trans ?_
    simp only [milestones, Milestone.ofAttempt]
    split <;> rfl
  | reconnect attempt =>
    have settings : c.makeRoom.settings = c.settings := rfl
    refine (c.makeRoom.start_standing attempt).trans ?_
    simp only [milestones, Milestone.ofAttempt, settings]
    split <;> rfl
  | send text => exact c.send_standing text
  | submit text => exact send_standing { c with log := c.log.setInput text } text
  | processNext =>
    refine c.processNext_standing.trans ?_
    unfold milestones
    split <;> rfl
  | shutdown =>
    refine (shutdown_standing h).trans ?_
    unfold milestones
    split <;> rfl
  | arrive items => exact c.deliver_standing items

/-- An end that is read is that of an open session. -/
theorem InStep.atEnd (h : c.InStep) (ended : c.atEnd = true) : c.state? = some .opened := by
  obtain none | ⟨session, unread, at_, live⟩ | ⟨session, at_, -⟩ := h.cases
  · simp [Client.atEnd, inbound?, none] at ended
  · simp [state?, session?, at_, live]
  · simp [Client.atEnd, inbound?, at_] at ended

/-! ## Runs -/

/-- The session stands as the last milestone says. -/
def Stands (milestones : List Milestone) (c : Client) : Prop :=
  c.InStep ∧ c.standing? = milestones.getLast?.bind Milestone.standing?

theorem Stands.opened {ms : List Milestone} (h : Stands ms c) (opened : c.state? = some .opened) :
    c.standing? = some (.opened, true) := by
  obtain ⟨-, stands⟩ := h
  obtain ⟨session, found, live⟩ := Option.map_eq_some_iff.mp opened
  have standing : c.standing? = some (.opened, session.sink.held) := by
    simp [standing?, sink?, found, opened]
  rw [standing] at stands ⊢
  obtain ⟨last, -, last_stands⟩ := Option.bind_eq_some_iff.mp stands.symm
  cases last with
  | connected => exact last_stands.symm
  | reconnecting | refused | lost | retired => simp [Milestone.standing?] at last_stands

theorem Stands.asked {ms : List Milestone} (h : Stands ms c) (op : ClientOp) :
    Stands (ms ++ c.milestones op) (c.perform op).1 := by
  refine ⟨h.1.perform op, ?_⟩
  rw [perform_standing h.1, List.getLast?_append]
  cases last : (c.milestones op).getLast? with
  | none => exact h.2
  | some milestone =>
    cases milestone with
    | reconnecting | connected | refused | retired => rfl
    | lost =>
      have ended : c.atEnd = true := by
        cases op with
        | processNext =>
          cases ended : c.atEnd with
          | true => rfl
          | false => simp [milestones, ended] at last
        | shutdown =>
          simp only [milestones] at last
          split at last <;> cases last
        | start attempt | reconnect attempt =>
          simp only [milestones, Milestone.ofAttempt] at last
          split at last <;> cases last
        | send | submit | arrive => cases last
      simp only [h.opened (h.1.atEnd ended), Option.map_some]
      rfl

theorem Stands.written {ms : List Milestone} (h : Stands ms c) {sink : ChannelSink}
    (at_ : c.sink? = some sink) (t : Traffic) (works : Bool) :
    Stands ms (c.setSink (t.write works sink).1) := by
  refine ⟨h.1.setSink _, ?_⟩
  rw [setSink_standing at_ (t.write_same_held works)]
  exact h.2

/-- A closed session holds its end if and only if its connection ended. -/
theorem Stands.held_iff {ms : List Milestone} {session : Session ChannelSink} (h : Stands ms c)
    (at_ : c.session? = some session) (closed : session.state = .closed) :
    session.sink.held = true ↔ ms.getLast? = some .lost := by
  have standing : c.standing? = some (.closed, session.sink.held) := by
    simp [standing?, state?, sink?, at_, closed]
  obtain ⟨-, stands⟩ := h
  rw [standing] at stands
  obtain ⟨last, is_last, held⟩ := Option.bind_eq_some_iff.mp stands.symm
  rw [is_last]
  cases last with
  | reconnecting | connected => simp [Milestone.standing?] at held
  | refused | lost | retired =>
    simp only [Milestone.standing?, Option.some.injEq, Prod.mk.injEq, true_and] at held
    simp [← held]

/-- Unless another session was started, the session is closed and holds its end. -/
def Keeps (milestones : List Milestone) (c : Client) : Prop :=
  .connected ∉ milestones → .refused ∉ milestones →
    c.InStep ∧ c.standing? = some (.closed, true)

/-- What starts no session leaves a closed session the end that it holds. -/
theorem Keeps.asked {ms : List Milestone} (h : Keeps ms c) (op : ClientOp) :
    Keeps (ms ++ c.milestones op) (c.perform op).1 := by
  intro unconnected unrefused
  simp only [List.mem_append, not_or] at unconnected unrefused
  obtain ⟨inStep, standing⟩ := h unconnected.1 unrefused.1
  refine ⟨inStep.perform op, ?_⟩
  have outcome (attempt : Attempt) : Milestone.ofAttempt c.settings attempt ∉ c.milestones op := by
    unfold Milestone.ofAttempt
    split
    · exact unconnected.2
    · exact unrefused.2
  cases op with
  | start attempt | reconnect attempt => exact absurd (by simp [milestones]) (outcome attempt)
  | send text => exact (c.send_standing text).trans standing
  | submit text =>
    exact (send_standing { c with log := c.log.setInput text } text).trans standing
  | processNext =>
    refine c.processNext_standing.trans ?_
    rw [standing]
    split <;> rfl
  | shutdown =>
    have closed : c.state? ≠ some .opened := by
      intro opened
      simp [standing?, opened] at standing
    exact (shutdown_standing inStep).trans ((if_neg closed).trans standing)
  | arrive items => exact (c.deliver_standing items).trans standing

theorem Keeps.written {ms : List Milestone} (h : Keeps ms c) {sink : ChannelSink}
    (at_ : c.sink? = some sink) (t : Traffic) (works : Bool) :
    Keeps ms (c.setSink (t.write works sink).1) := by
  intro unconnected unrefused
  obtain ⟨inStep, standing⟩ := h unconnected unrefused
  refine ⟨inStep.setSink _, ?_⟩
  rw [setSink_standing at_ (t.write_same_held works)]
  exact standing

end

end Client

namespace Console

section
variable {w : Console}

/-- The session of a console that was just made stands as the last milestone says. -/
theorem run_stands {settings : Settings} {ids : IdSource} {c : Client}
    (h : Client.ofSettings settings ids = .ok c) (moves : List Move) :
    Client.Stands ((ofClient c).milestones moves) ((ofClient c).run moves).client := by
  have begins : Client.Stands [] (ofClient c).client := by
    obtain ⟨-, idle, -⟩ := Client.ofSettings_spec h
    have none : (ofClient c).client.active = none := idle
    refine ⟨Client.reachable_inStep (.made h), ?_⟩
    simp [Client.standing?, Client.state?, Client.session?, none]
  exact run_keeps (fun _ _ op stands => stands.asked op)
    (fun _ _ _ t works at_ stands => stands.written at_ t works) begins moves

theorem run_keeps_held (inStep : w.client.InStep)
    (standing : w.client.standing? = some (.closed, true)) {moves : List Move}
    (unconnected : .connected ∉ w.milestones moves) (unrefused : .refused ∉ w.milestones moves) :
    (w.run moves).client.standing? = some (.closed, true) := by
  have begins : Client.Keeps [] w.client := fun _ _ => ⟨inStep, standing⟩
  have kept : Client.Keeps ([] ++ w.milestones moves) (w.run moves).client :=
    run_keeps (fun _ _ op keeps => keeps.asked op)
      (fun _ _ _ t works at_ keeps => keeps.written at_ t works) begins moves
  exact (kept unconnected unrefused).2

end

end Console

/-- How a session that ended stands to its connection. If its connection could not be made, or it was
shut down, it holds no sending end, and a writer whose writes work puts all accepted frames and a
close on the socket. If the connection ended first, by whatever end, the session goes on to hold the
sending end, so that the writer does not end as long as its writes work; and nothing that starts no
session, a shutdown among it, makes the session let go. -/
theorem closed_holds_iff_lost {settings : Settings} {ids : IdSource} {c : Client}
    (h : Client.ofSettings settings ids = .ok c) (moves : List Move)
    (closed : ((Console.ofClient c).run moves).client.state? = some .closed) :
    let w := (Console.ofClient c).run moves
    ∃ sink, w.client.sink? = some sink ∧
      (sink.held = true ↔ ((Console.ofClient c).milestones moves).getLast? = some .lost) ∧
      (sink.held = false → ∀ t, w.current = some t → t.broken = false →
        (Traffic.writes (sink.queue.length + 1) sink t).writer.written = t.sent ++ [.close]) ∧
      (sink.held = true → ∀ t, w.current = some t → t.writer.ended = false →
        ∀ count, (Traffic.writes count sink t).writer.ended = false) ∧
      (sink.held = true → ∀ moves' : List Move,
        .connected ∉ w.milestones moves' → .refused ∉ w.milestones moves' →
          (w.run moves').client.standing? = some (.closed, true)) := by
  intro w
  have stands := Console.run_stands h moves
  have sound : w.world.Sound := Console.run_sound (Console.ofClient_sound c) moves
  have closed : w.client.state? = some .closed := closed
  obtain ⟨session, found, ended⟩ := Option.map_eq_some_iff.mp closed
  have at_ : w.client.sink? = some session.sink := congrArg (Option.map Session.sink) found
  have ordered (t : Traffic) (current : w.current = some t) : t.Sound session.sink := by
    obtain ⟨sink, at', ordered⟩ := sound.current t current
    obtain rfl := Option.some.inj (at_.symm.trans at')
    exact ordered
  refine ⟨session.sink, at_, stands.held_iff found ended, ?_, ?_, ?_⟩
  · intro released t current whole
    exact (ordered t current).writes_released released whole (Nat.lt_succ_self _)
  · intro held t current live count
    exact (ordered t current).writes_held held live count
  · intro held moves' unconnected unrefused
    have standing : w.client.standing? = some (.closed, true) := by
      simp [Client.standing?, closed, at_, held]
    exact Console.run_keeps_held stands.1 standing unconnected unrefused

/-- The server closes, and the client is shut down behind that. The writer waits for more. -/
theorem closed_holds_iff_lost_of_server_close :
    let moves : List Move :=
      [.ask (.start .accepted), .write true, .ask (.arrive [.close none]), .ask .processNext]
    let w := (Console.ofClient plainClient).run moves
    w.client.state? = some .closed ∧
      (w.run [.ask .shutdown, .write true]).client.standing? = some (.closed, true) ∧
      ∃ sink t, w.client.sink? = some sink ∧ w.current = some t ∧
        ∀ count, (Traffic.writes count sink t).writer.ended = false := by
  intro moves w
  have closed : w.client.state? = some .closed := by decide +kernel
  have lost : ((Console.ofClient plainClient).milestones moves).getLast? = some .lost := by
    decide +kernel
  obtain ⟨sink, at_, iff, -, waits, keeps⟩ :=
    closed_holds_iff_lost ofSettings_plainClient moves closed
  have held := iff.mpr lost
  have current : w.current = some ⟨⟨[.text Command.watch.encode], false⟩, false, []⟩ := by
    rfl
  refine ⟨closed, ?_, sink, _, at_, current, waits held _ current rfl⟩
  exact keeps held _ (by decide +kernel) (by decide +kernel)

/-- A session that ended by a close of the server, and was shut down, can still queue frames. -/
theorem shutdown_keeps_lost_channel :
    let w := (Console.ofClient plainClient).run
      [.ask (.start .accepted), .ask (.arrive [.close none]), .ask .processNext, .ask .shutdown]
    w.client.state? = some .closed ∧ w.client.sink?.map ChannelSink.held = some true ∧
      w.client.sink?.map ChannelSink.isConnected = some true := by
  decide +kernel

end JobConsole
