import JobConsole.Proofs.LoopBudget

namespace JobConsole

def beforeShutdown (controls : List Control) : List Control := controls.takeWhile (· ≠ .shutdown)

/-- Whether the end of a connection is among what arrives on it. -/
def HasEnd (items : List Incoming) : Prop := ∃ detail, .closed detail ∈ eventsOf items

theorem eventsOf_none {items : List Incoming} (h : Inbound.firstEvent items = none) :
    eventsOf items = [] := by
  induction items with
  | nil => rfl
  | cons item items ih =>
    simp only [Inbound.firstEvent] at h
    cases he : item.event? with
    | none => rw [he] at h; simpa [eventsOf, he] using ih h
    | some event => simp [he] at h

/-- An end that arrived can be read. -/
theorem Client.InStep.next_isSome {c : Client} (h : c.InStep) {items : List Incoming}
    (pending : c.pending [] = some items) (ends : HasEnd items) :
    (c.inbound?.bind Inbound.next).isSome = true := by
  obtain none | ⟨session, unread, reading, live⟩ | ⟨session, ended, -⟩ := h.cases
  · simp [Client.pending, inbound?, none] at pending
  · obtain rfl : unread = items := by simpa [Client.pending, inbound?, reading] using pending
    cases hf : Inbound.firstEvent unread with
    | none =>
      obtain ⟨detail, member⟩ := ends
      simp [eventsOf_none hf] at member
    | some first =>
      obtain ⟨event, later⟩ := first
      cases event <;> simp [inbound?, reading, Inbound.next, hf]
  · simp [Client.pending, inbound?, ended] at pending

namespace Scene

section
variable {w w' : Scene}

/-! ## Ends -/

/-- The surroundings keep their promise that every connection comes to an end. -/
structure Provided (settings : Settings) (w : Scene) : Prop where
  keeps : w.loop.client.settings = settings
  current (items : List Incoming) (h : w.pending = some items) : HasEnd items
  dials (dial : Dial) (h : dial ∈ w.dials) (connects : dial.attempt.connects settings = true) :
    HasEnd dial.stream

theorem Provided.turned {settings : Settings} (h : w.Provided settings)
    (inStep : w.loop.client.InStep) (live : w.loop.stopped = false) {side : Side}
    (ready : w.loop.isReady side = true) : (w.turned side).Provided settings := by
  have same : (w.turned side).loop.client.settings = settings :=
    (EventLoop.turn_settings w.loop side w.dial.attempt).trans h.keeps
  have later {others : List Dial} (left : others = w.dials.tail) (dial : Dial)
      (member : dial ∈ others) : dial ∈ w.dials := List.mem_of_mem_tail (left ▸ member)
  cases turned_reads inStep live ready with
  | keeps kept dials =>
    exact ⟨same, fun items found => h.current items (kept ▸ found), dials ▸ h.dials⟩
  | leaves nothing dials =>
    refine ⟨same, fun items found => by simp [nothing] at found, ?_⟩
    obtain dials | dials := dials
    · exact dials ▸ h.dials
    · exact fun dial member => h.dials dial (later dials dial member)
  | redials connects fresh dials =>
    refine ⟨same, ?_, fun dial member => h.dials dial (later dials dial member)⟩
    intro items found
    obtain rfl : w.dial.stream = items := by simpa [fresh] using found
    exact h.dials w.dial (Dial.next_mem connects) (h.keeps ▸ connects)
  | @reads _ items left payload before text after dials =>
    refine ⟨same, ?_, dials ▸ h.dials⟩
    intro found here
    obtain rfl : left = found := by simpa [after] using here
    obtain ⟨detail, member⟩ := h.current items before
    exact ⟨detail, by simpa [text] using member⟩
  | ends before last after dials =>
    exact ⟨same, fun items found => by simp [after] at found, dials ▸ h.dials⟩

theorem Provided.step {settings : Settings} (h : w.Provided settings)
    (inStep : w.loop.client.InStep) (s : Step w w') : w'.Provided settings := by
  cases s with
  | turn live side ready => exact h.turned inStep live ready
  | hangUp => exact ⟨h.keeps, h.current, h.dials⟩
  | send live control rest next =>
    have client : (w.loop.enqueue control).client = w.loop.client := by
      unfold EventLoop.enqueue
      split <;> rfl
    exact ⟨client ▸ h.keeps, by simpa only [pending, client] using h.current, h.dials⟩
  | arrive live items rest some next =>
    refine ⟨h.keeps, ?_, h.dials⟩
    simpa only [pending, EventLoop.deliver, Client.deliver_pending, ← next] using h.current

/-- As long as the loop has not stopped, it or its surroundings can go on. -/
theorem Accounts.progress {controls : List Control} {first : Client} {settings : Settings}
    (h : Accounts controls first w) (provided : w.Provided settings) (inStep : w.loop.client.InStep)
    (live : w.loop.stopped = false) : ∃ next, Step w next := by
  cases h with
  | dismissed halted | finished halted => simp [live] at halted
  | waiting _ client order sending heard awaits =>
    cases unsent : w.unsent with
    | cons control rest => exact ⟨_, .send live control rest unsent⟩
    | nil =>
      cases senders : w.loop.senders with
      | true => exact ⟨_, .hangUp live unsent senders⟩
      | false =>
        cases listening : w.loop.listening with
        | true => exact ⟨_, .turn live .control (by simp [EventLoop.isReady, listening, senders])⟩
        | false =>
          have reading : w.loop.client.isReading = true :=
            awaits.resolve_left (by simp [listening])
          by_cases arrived : w.coming = []
          · obtain ⟨items, found⟩ : ∃ items, w.loop.client.pending [] = some items := by
              rw [← Option.isSome_iff_exists, Client.pending_isSome, reading]
            have ends : HasEnd items := provided.current items (by rw [pending, arrived, found])
            exact ⟨_, .turn live .inbound (inStep.next_isSome found ends)⟩
          · exact ⟨_, .arrive live w.coming [] arrived (List.append_nil _).symm⟩

/-! ## Runs of the loop -/

/-- A scene in which every control is accounted for, every turn was paid for, and what is missing
will come. -/
structure Sound (settings : Settings) (controls : List Control) (first : Client) (bound : Nat)
    (w : Scene) : Prop where
  accounts : Accounts controls first w
  inStep : w.loop.client.InStep
  paid : w.turns + w.budget ≤ bound
  provided : w.Provided settings

theorem Sound.step {settings : Settings} {controls : List Control} {first : Client} {bound : Nat}
    (h : Sound settings controls first bound w) (s : Step w w') :
    Sound settings controls first bound w' where
  accounts := h.accounts.step s
  inStep := s.inStep h.inStep
  paid := Nat.le_trans (step_budget h.inStep s).1 h.paid
  provided := h.provided.step h.inStep s

end

/-- How many events a loop can come to read: those of the current connection, and those of the
connections to be opened. -/
def eventsFor (c : Client) (coming : List Incoming) (dials : List Dial) : Nat :=
  eventsIn (c.pending coming) + Dial.total (fun dial => (eventsOf dial.stream).length) dials

section
variable {c : Client} {coming : List Incoming} {dials : List Dial}

/-- Before its first turn, the loop has no control in its queue and looks for some. -/
theorem first_sound (inStep : c.InStep)
    (current : ∀ items, c.pending coming = some items → HasEnd items)
    (ends : ∀ dial ∈ dials, dial.attempt.connects c.settings = true → HasEnd dial.stream)
    (controls : List Control) :
    Sound c.settings controls c (controls.length + 1 + eventsFor c coming dials)
      ⟨⟨c, [], true, true, false⟩, controls, coming, dials, [], 0⟩ := by
  refine ⟨.waiting rfl rfl rfl (.inl rfl) (.inl rfl) (.inl rfl), inStep, ?_, ⟨rfl, current, ends⟩⟩
  simp only [budget, pending, eventsFor, List.length_nil, Bool.toNat_true]
  omega

theorem start_sound (inStep : c.InStep)
    (current : ∀ items, c.pending coming = some items → HasEnd items)
    (ends : ∀ dial ∈ dials, dial.attempt.connects c.settings = true → HasEnd dial.stream)
    (controls : List Control) :
    Sound c.settings controls (start c coming controls dials).loop.client
      (controls.length + 1 + eventsFor c coming dials) (start c coming controls dials) := by
  simp only [start, EventLoop.start_loop]
  cases ha : c.active with
  | some a => exact first_sound inStep current ends controls
  | none =>
    have opened := Dial.start_pending c (Dial.next dials)
    have rest (dial : Dial) (member : dial ∈ dials.tail) := ends dial (List.mem_of_mem_tail member)
    have current (items : List Incoming) (found : (c.start (Dial.next dials).attempt).pending
        ((Dial.next dials).sent c.settings) = some items) : HasEnd items := by
      obtain ⟨connects, rfl⟩ : (Dial.next dials).attempt.connects c.settings = true ∧
          (Dial.next dials).stream = items := by
        simpa [opened] using opened.symm.trans found
      exact ends _ (Dial.next_mem connects) connects
    have first :=
      first_sound (inStep.perform (.start (Dial.next dials).attempt)) current rest controls
    refine { first with paid := Nat.le_trans first.paid ?_ }
    have all := Dial.next_total (fun dial => (eventsOf dial.stream).length) rfl dials
    have few : eventsIn ((c.start (Dial.next dials).attempt).pending
        ((Dial.next dials).sent c.settings)) ≤ (eventsOf (Dial.next dials).stream).length := by
      rw [opened]
      split
      · exact Nat.le_refl _
      · exact Nat.zero_le _
    simp only [eventsFor, Client.perform]
    omega

theorem reachable_sound (inStep : c.InStep)
    (current : ∀ items, c.pending coming = some items → HasEnd items)
    (ends : ∀ dial ∈ dials, dial.attempt.connects c.settings = true → HasEnd dial.stream)
    {controls : List Control} {w : Scene} (h : Reachable (start c coming controls dials) w) :
    Sound c.settings controls (start c coming controls dials).loop.client
      (controls.length + 1 + eventsFor c coming dials) w := by
  induction h with
  | start => exact start_sound inStep current ends controls
  | next _ s ih => exact ih.step s

/-! ## The controls that are handled -/

theorem beforeShutdown_append {before : List Control} (h : .shutdown ∉ before)
    (after : List Control) : beforeShutdown (before ++ after) = before ++ beforeShutdown after := by
  apply List.takeWhile_append_of_pos
  intro control member
  simpa using ne_of_mem_of_not_mem member h

/-- A shutdown ends the loop; it is not handled like the other controls. -/
theorem shutdown_not_handled (w : Scene) : .shutdown ∉ w.handled := by
  intro member
  obtain ⟨op, -, control⟩ := List.mem_filterMap.mp member
  cases op <;> simp [ClientOp.control?] at control

/-- A loop that has not stopped handled the first controls, and no shutdown was among them. -/
theorem Accounts.handled_prefix {controls : List Control} {first : Client} {w : Scene}
    (h : Accounts controls first w) (live : w.loop.stopped = false) :
    w.loop.client = first.run w.done ∧
      (w.loop.listening = true ∨ w.loop.client.isReading = true) ∧
      w.handled <+: beforeShutdown controls := by
  cases h with
  | dismissed halted | finished halted => simp [live] at halted
  | waiting _ client order sending heard awaits =>
    refine ⟨client, awaits, ?_⟩
    rw [← order, beforeShutdown_append w.shutdown_not_handled]
    exact List.prefix_append _ _

/-- A loop that has stopped handled the controls in front of the shutdown. -/
theorem Accounts.handled_all {controls : List Control} {first : Client} {w : Scene}
    (h : Accounts controls first w) (halted : w.loop.stopped = true) :
    w.loop.client = (first.run w.done).shutdown ∧ w.handled = beforeShutdown controls ∧
      (.shutdown ∉ controls →
        w.handled = controls ∧ w.unsent = [] ∧ w.loop.controls = [] ∧ w.loop.senders = false ∧
          (first.run w.done).isReading = false) := by
  cases h with
  | waiting live => simp [halted] at live
  | dismissed _ client rest order =>
    refine ⟨client, ?_, fun absent => absurd ?_ absent⟩
    · rw [← order, beforeShutdown_append w.shutdown_not_handled]
      simp [beforeShutdown]
    · simp [← order]
  | finished _ client order sent empty gone idle =>
    refine ⟨client, ?_, fun _ => ⟨order, sent, empty, gone, idle⟩⟩
    have all := beforeShutdown_append w.shutdown_not_handled []
    rw [List.append_nil, order] at all
    rw [order, all]
    exact (List.append_nil _).symm

/-- A session was started before the first turn. -/
theorem start_started (c : Client) (coming : List Incoming) (controls : List Control)
    (dials : List Dial) : (start c coming controls dials).loop.client.active.isSome = true := by
  simp only [start, EventLoop.start_loop]
  cases ha : c.active with
  | none => rfl
  | some a => simp [ha]

end

end Scene

namespace Client

theorem InStep.shutdown_closed {c : Client} (h : c.InStep) (started : c.active.isSome = true) :
    c.shutdown.state? = some .closed ∧ c.shutdown.inbound? = none := by
  obtain none | ⟨session, unread, reading, live⟩ | ⟨session, ended, closed⟩ := h.cases
  · simp [none] at started
  · simp [shutdown, state?, session?, inbound?, reading, Session.retire_live (s := session), live]
  · simp [shutdown, state?, session?, inbound?, ended, Session.retire_closed, closed]

theorem InStep.ended_closed {c : Client} (h : c.InStep) (started : c.active.isSome = true)
    (idle : c.isReading = false) : c.state? = some .closed := by
  obtain none | ⟨session, unread, reading, -⟩ | ⟨session, ended, closed⟩ := h.cases
  · simp [none] at started
  · simp [isReading, inbound?, reading] at idle
  · simp [state?, session?, ended, closed]

end Client

namespace Scene

/-- The loop of any client, among surroundings that send some controls and then drop all senders,
and in which every connection comes to an end. Whatever happens when, and whichever side each turn
is on: the turns are no more than the controls, one for their end, and the events there are to read,
and no run goes on for ever. As long as the loop has not stopped, it looks for controls or reads a
connection, something can happen, and what was done to the client is what the first controls and the
events ask. When it has stopped, the controls handled are those in front of the first shutdown, each
once and in order, and the session is closed and not read. Without a shutdown, the loop stops only
when all controls were handled, none can come, and the session has ended of itself. -/
theorem loop_handles_controls {c : Client} (origin : c.Reachable) {coming : List Incoming}
    (current : ∀ items, c.pending coming = some items → HasEnd items) {dials : List Dial}
    (ends : ∀ dial ∈ dials, dial.attempt.connects c.settings = true → HasEnd dial.stream)
    {controls : List Control} {w : Scene} (h : Reachable (start c coming controls dials) w) :
    let first := (start c coming controls dials).loop.client
    w.turns ≤ controls.length + 1 + eventsFor c coming dials ∧
      Acc (fun later earlier => Step earlier later) w ∧
      (w.loop.stopped = false →
        (w.loop.listening = true ∨ w.loop.client.isReading = true) ∧ (∃ next, Step w next) ∧
          w.loop.client = first.run w.done ∧ w.handled <+: beforeShutdown controls) ∧
      (w.loop.stopped = true →
        w.loop.client = (first.run w.done).shutdown ∧ w.handled = beforeShutdown controls ∧
          w.loop.client.state? = some .closed ∧ w.loop.client.inbound? = none) ∧
      (w.loop.stopped = true → .shutdown ∉ controls →
        w.handled = controls ∧ w.unsent = [] ∧ w.loop.controls = [] ∧ w.loop.senders = false ∧
          (first.run w.done).state? = some .closed ∧ (first.run w.done).isReading = false) := by
  intro first
  have sound := reachable_sound (Client.reachable_inStep origin) current ends h
  have begun := start_sound (Client.reachable_inStep origin) current ends controls
  have inStep : (first.run w.done).InStep := begun.inStep.run w.done
  have started : (first.run w.done).active.isSome = true :=
    Client.run_started (start_started c coming controls dials) w.done
  refine ⟨Nat.le_trans (Nat.le_add_right _ _) sound.paid, steps_end sound.inStep, ?_, ?_, ?_⟩
  · intro live
    obtain ⟨client, awaits, handled⟩ := sound.accounts.handled_prefix live
    exact ⟨awaits, sound.accounts.progress sound.provided sound.inStep live, client, handled⟩
  · intro halted
    obtain ⟨client, handled, -⟩ := sound.accounts.handled_all halted
    obtain ⟨closed, idle⟩ := inStep.shutdown_closed started
    exact ⟨client, handled, client ▸ closed, client ▸ idle⟩
  · intro halted absent
    obtain ⟨-, -, complete⟩ := sound.accounts.handled_all halted
    obtain ⟨all, sent, empty, gone, idle⟩ := complete absent
    exact ⟨all, sent, empty, gone, inStep.ended_closed started idle, idle⟩

/-- A command is sent, the user reconnects before the end of the first connection is read, and the
second connection cannot be made. -/
theorem loop_handles_controls_of_reconnect :
    ∃ w, Reachable
        (start plainClient [] [.submit "list", .reconnect]
          [⟨.accepted, [.text "1", .close none]⟩, ⟨.failed .connectionRefused, []⟩]) w ∧
      w.loop.stopped = true ∧ w.turns = 4 ∧ w.handled = [.submit "list", .reconnect] ∧
      w.loop.client.state? = some .closed ∧ w.loop.client.inbound? = none := by
  have opened := @Reachable.start (start plainClient [] [.submit "list", .reconnect]
    [⟨.accepted, [.text "1", .close none]⟩, ⟨.failed .connectionRefused, []⟩])
  have sent := opened.next (.send rfl _ _ rfl)
  have submitted := sent.next (.turn rfl .control rfl)
  have arrived := submitted.next (.arrive rfl [.text "1", .close none] [] (by simp) rfl)
  have heard := arrived.next (.turn rfl .inbound rfl)
  have told := heard.next (.send rfl _ _ rfl)
  have reconnected := told.next (.turn rfl .control rfl)
  have alone := reconnected.next (.hangUp rfl rfl rfl)
  have stopped := alone.next (.turn rfl .control rfl)
  have ends : ∀ dial ∈ [(⟨.accepted, [.text "1", .close none]⟩ : Dial),
      ⟨.failed .connectionRefused, []⟩],
      dial.attempt.connects plainClient.settings = true → HasEnd dial.stream := by
    intro dial member connects
    obtain rfl | rfl : dial = ⟨.accepted, [.text "1", .close none]⟩ ∨
        dial = ⟨.failed .connectionRefused, []⟩ := by simpa using member
    · exact ⟨none, by decide⟩
    · exact absurd connects (by decide +kernel)
  have unread (items : List Incoming) (found : plainClient.pending [] = some items) :
      HasEnd items := by
    cases found
  obtain ⟨-, -, -, complete, -⟩ :=
    loop_handles_controls (.made ofSettings_plainClient) unread ends stopped
  obtain ⟨-, handled, closed, idle⟩ := complete rfl
  exact ⟨_, stopped, rfl, rfl, handled, closed, idle⟩

end Scene

end JobConsole
