import JobConsole.Proofs.Counterparts
import JobConsole.Proofs.Milestones

namespace JobConsole

namespace Client

theorem reconnect_gained (c : Client) (attempt : Attempt) :
    c.log.Gained (c.reconnect attempt).log
      [reconnectingLine ++ lineBreak, outcomeLine c.settings attempt ++ lineBreak] := by
  have log : (c.reconnect attempt).log =
      c.log.clearInput.addLines [reconnectingLine, outcomeLine c.settings attempt] :=
    start_log c.makeRoom attempt
  rw [log]
  exact Log.addLines_gained c.log.clearInput _

end Client

namespace Console

/-- Two consoles that did the same since two others, in the same render mode. -/
structure Twins (w w' v v' : Console) : Prop extends Counterparts w w' v v' where
  modes : v.client.settings.mode = v'.client.settings.mode

section
variable {w w' v v' : Console}

/-- The logs of twins gained the same. -/
theorem Twins.logs (h : Twins w w' v v') :
    ∃ lines, w.client.log.Gained v.client.log lines ∧
      w'.client.log.Gained v'.client.log lines := by
  obtain ⟨occasions, gained, gained'⟩ := h.told
  rw [← h.modes] at gained'
  exact ⟨_, gained, gained'⟩

/-- Twins stay twins, whatever happens to both. -/
theorem Twins.run (h : Twins w w' v v') (moves : List Move) :
    Twins w w' (v.run moves) (v'.run moves) where
  toCounterparts := h.toCounterparts.run moves
  modes := by rw [run_settings, run_settings, h.modes]

end

/-- Consoles whose clients have the same settings are twins behind a reconnect. -/
theorem reconnected_twins {w w' : World} (settings : w.client.settings = w'.client.settings)
    (loop : EventLoop) (attempt : Attempt) :
    Twins ((ofWorld loop w).perform (.reconnect attempt))
      ((ofWorld loop w').perform (.reconnect attempt))
      ((ofWorld loop w).perform (.reconnect attempt))
      ((ofWorld loop w').perform (.reconnect attempt)) where
  clients := by
    rw [perform_client, perform_client]
    exact Client.reconnect_alike settings attempt
  inStep := by
    rw [perform_client]
    exact ⟨_, Client.start_reads w.client.makeRoom attempt⟩
  inStep' := by
    rw [perform_client]
    exact ⟨_, Client.start_reads w'.client.makeRoom attempt⟩
  told := ⟨[], .refl _, .refl _⟩
  loops := rfl
  current := by
    have current (w : World) : ((ofWorld loop w).perform (.reconnect attempt)).current =
        if attempt.connects w.client.settings then some Traffic.start else none := rfl
    rw [current, current, settings]
  former := ⟨[], (List.append_nil _).symm, (List.append_nil _).symm⟩
  replies := rfl
  offers := rfl
  modes := by
    rw [perform_client, perform_client, Client.perform_settings, Client.perform_settings]
    exact congrArg Settings.mode settings

/-- **Reconnecting forgets the past.** Take any two clients with the same settings, with whatever
sessions, logs, input and connections, and with loops that stand at the same point if they run. Let
both reconnect with the same outcome, and let the same happen to both from then on: operations,
arrivals, controls, turns of the loop and steps of the writers, with the same outcomes of the
attempts they make. Then both logs keep what they held and gain the same fragments, `reconnecting`
first. The connections made from the reconnect on, those given up since and the current one, take
and carry the same frames. All operations answer the same. Both sessions have the same state and the
same counts, and both clients show the same line being typed. -/
theorem reconnect_forgets (w w' : World) (settings : w.client.settings = w'.client.settings)
    (loop : EventLoop) (attempt : Attempt) (moves : List Move) :
    let v := (ofWorld loop w).run (.ask (.reconnect attempt) :: moves)
    let v' := (ofWorld loop w').run (.ask (.reconnect attempt) :: moves)
    (∃ fragments,
        w.client.log.Gained v.client.log ((Client.reconnectingLine ++ lineBreak) :: fragments) ∧
        w'.client.log.Gained v'.client.log ((Client.reconnectingLine ++ lineBreak) :: fragments)) ∧
      (∃ made, v.former = (w.perform (.reconnect attempt)).former ++ made ∧
        v'.former = (w'.perform (.reconnect attempt)).former ++ made) ∧
      v.current = v'.current ∧ v.client.sink? = v'.client.sink? ∧
      v.replies = v'.replies ∧ v.offers = v'.offers ∧
      v.client.state? = v'.client.state? ∧ v.client.stats? = v'.client.stats? ∧
      v.client.log.input = v'.client.log.input := by
  have twins := (reconnected_twins settings loop attempt).run moves
  simp only [run_cons, move]
  obtain ⟨fragments, gained, gained'⟩ := twins.logs
  have first := w.client.reconnect_gained attempt
  have first' := w'.client.reconnect_gained attempt
  rw [← settings] at first'
  rw [perform_client] at gained gained'
  obtain ⟨state, stats, sink, -⟩ := twins.clients.session
  exact ⟨⟨_, first.trans gained, first'.trans gained'⟩, twins.former, twins.current, sink,
    twins.replies, twins.offers, state, stats, twins.clients.input⟩

/-- A client whose session was shut down, with a command unwritten and a line being typed, goes on
as one that was just made. -/
theorem reconnect_forgets_of_used :
    let used := ([.start .accepted, .submit "list", .arrive [.text "0"], .processNext,
      .shutdown] : List ClientOp).foldl World.perform (.start plainClient)
    let v' := (ofWorld ⟨plainClient, [], false, false, true⟩ used).run
      [.ask (.reconnect .accepted), .ask (.arrive [.text "1", .text "x"]), .write true,
        .ask .processNext, .ask (.submit "watch"), .ask .processNext]
    used.client.log.input = "list" ∧ used.client.stats? = some ⟨1, 0, 2⟩ ∧
      used.client.log.Gained v'.client.log ["reconnecting<br/>", "connected<br/>", "1<br/>"] ∧
      v'.client.stats? = some ⟨1, 1, 2⟩ := by
  intro used v'
  obtain ⟨⟨fragments, gained, gained'⟩, -, -, -, -, -, -, stats, -⟩ :=
    reconnect_forgets (.start plainClient) used rfl ⟨plainClient, [], false, false, true⟩ .accepted
      [.ask (.arrive [.text "1", .text "x"]), .write true, .ask .processNext,
        .ask (.submit "watch"), .ask .processNext]
  have fresh := gained.fragments
  generalize told : (Client.reconnectingLine ++ lineBreak) :: fragments = all at fresh gained'
  have all_eq : all = ["reconnecting<br/>", "connected<br/>", "1<br/>"] :=
    (List.nil_append all).symm.trans (fresh.symm.trans (by decide +kernel))
  refine ⟨by decide +kernel, by decide +kernel, all_eq ▸ gained', stats.symm.trans ?_⟩
  decide +kernel

end Console

end JobConsole
