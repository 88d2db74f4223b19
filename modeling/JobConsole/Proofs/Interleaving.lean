import JobConsole.Proofs.Conversation

namespace JobConsole

namespace Console

/-- The display once all that waits is handled, with some texts and payloads behind it. -/
def forecast (w : Console) (texts payloads : List String) : Display :=
  w.display.after w.client.settings.mode (w.waiting ++ texts) (w.unread ++ payloads)

/-! ## Moves -/

/-- A console in conversation went on, and some texts and payloads came to it. As long as its channel
is open, it comes to what it would have come to with them at the end of what waited. -/
structure Goes (w v : Console) (texts payloads : List String) : Prop where
  talks : v.Talks
  linked (h : v.isLinked = true) : w.isLinked = true ∧ ∀ moreTexts morePayloads,
    v.forecast moreTexts morePayloads = w.forecast (texts ++ moreTexts) (payloads ++ morePayloads)

section
variable {w v u : Console}

theorem Goes.refl (h : w.Talks) : Goes w w [] [] := ⟨h, fun linked => ⟨linked, fun _ _ => rfl⟩⟩

theorem Goes.trans {texts payloads texts' payloads' : List String} (h : Goes w v texts payloads)
    (h' : Goes v u texts' payloads') : Goes w u (texts ++ texts') (payloads ++ payloads') := by
  refine ⟨h'.talks, fun linked => ?_⟩
  obtain ⟨linked, later⟩ := h'.linked linked
  obtain ⟨linked, earlier⟩ := h.linked linked
  refine ⟨linked, fun moreTexts morePayloads => ?_⟩
  rw [later, earlier, List.append_assoc, List.append_assoc]

theorem Talks.types (h : w.Talks) (text : String) :
    Goes w (w.move (.send (.submit text))) [text] [] := by
  have moved : w.move (.send (.submit text)) =
      { w with loop := { w.loop with controls := w.loop.controls ++ [.submit text] } } := by
    simp only [move, EventLoop.enqueue, h.senders, if_true]
  have waiting : (w.move (.send (.submit text))).waiting = w.waiting ++ [text] := by
    rw [moved]
    exact List.filterMap_append
  constructor
  case talks =>
    rw [moved]
    refine ⟨h.live, h.listens, h.senders, ?_, h.reads⟩
    intro control member
    obtain earlier | last := List.mem_append.mp member
    · exact h.texts control earlier
    · rw [List.mem_singleton.mp last]
      rfl
  case linked =>
    intro linked
    have display : (w.move (.send (.submit text))).display = w.display := by rw [moved]; rfl
    have unread : (w.move (.send (.submit text))).unread = w.unread := by rw [moved]; rfl
    have settings : (w.move (.send (.submit text))).client.settings = w.client.settings := by
      rw [moved]; rfl
    refine ⟨by rwa [moved] at linked, fun moreTexts morePayloads => ?_⟩
    simp only [forecast, display, waiting, unread, settings, List.append_assoc, List.nil_append]

theorem Talks.hears (h : w.Talks) {items : List Incoming}
    (goesOn : ∀ item ∈ items, item.isEnd = false) :
    Goes w (w.move (.ask (.arrive items))) [] (items.filterMap Incoming.payload?) := by
  obtain ⟨arrived, reads, earlier⟩ := h.reads
  have inbound : w.client.inbound? = some ⟨arrived, false⟩ := reads.inbound
  have client : (w.move (.ask (.arrive items))).client = w.client.deliver items := rfl
  constructor
  case talks =>
    refine ⟨h.live, h.listens, h.senders, h.texts, arrived ++ items, ?_, ?_⟩
    · exact Client.deliver_reads reads items
    · intro item member
      obtain old | new := List.mem_append.mp member
      · exact earlier item old
      · exact goesOn item new
  case linked =>
    intro linked
    have session : (w.client.deliver items).session? = w.client.session? :=
      w.client.deliver_session items
    have sink : (w.client.deliver items).sink? = w.client.sink? := w.client.deliver_sink items
    have display : (w.move (.ask (.arrive items))).display = w.display := by
      simp only [display, frames, client, sink, Client.state?, Client.stats?, session]
      rfl
    have unread : (w.move (.ask (.arrive items))).unread =
        w.unread ++ items.filterMap Incoming.payload? := by
      simp only [Console.unread, client, Client.deliver_inbound, inbound]
      exact List.filterMap_append
    have settings : (w.move (.ask (.arrive items))).client.settings = w.client.settings := rfl
    have waiting : (w.move (.ask (.arrive items))).waiting = w.waiting := rfl
    refine ⟨?_, fun moreTexts morePayloads => ?_⟩
    · simpa only [isLinked, client, sink] using linked
    · simp only [forecast, display, waiting, unread, settings, List.append_assoc, List.nil_append]

/-- The text that waited first is sent. -/
theorem Talks.submits (h : w.Talks) {text : String} {rest : List Control}
    (queue : w.loop.controls = .submit text :: rest)
    (moved : v = { w.perform (.submit text) with
      loop := { w.loop with controls := rest, client := (w.client.submit text).1 } }) :
    Goes w v [] [] := by
  obtain ⟨session, arrived, at_, live, -, -⟩ := h.session
  obtain ⟨items, reads, goesOn⟩ := h.reads
  have client : v.client = (w.client.submit text).1 := by rw [moved]; rfl
  have settings : v.client.settings = w.client.settings := by
    rw [client]
    exact Client.perform_settings w.client (.submit text)
  constructor
  case talks =>
    have still := Client.perform_reads reads (.submit text)
    refine ⟨by rw [moved]; exact h.live, by rw [moved]; exact h.listens,
      by rw [moved]; exact h.senders, ?_, items, ?_, goesOn⟩
    · intro control member
      rw [moved] at member
      apply h.texts
      rw [queue]
      exact List.mem_cons_of_mem _ member
    · rw [settings, client]
      exact still
  case linked =>
    intro linked
    have sink : w.client.sink? = some session.sink := by
      simp [Client.sink?, Client.session?, at_]
    have room : session.sink.isConnected = true := by
      rw [isLinked, client] at linked
      exact Client.submit_linked sink linked
    have display : v.display = w.display.typed text := by
      rw [← submit_display at_ live room, moved]
      rfl
    have unread : v.unread = w.unread := by
      simp only [Console.unread, client, Client.submit_inbound]
    have waiting : w.waiting = text :: v.waiting := by
      simp only [Console.waiting, queue, moved]
      rfl
    refine ⟨by simp [isLinked, sink, room], ?_⟩
    intro moreTexts morePayloads
    simp only [forecast, display, unread, waiting, settings, Display.after_typed,
      List.nil_append, List.cons_append]

/-- The payload that arrived first is handled. -/
theorem Talks.reads_payload (h : w.Talks) {event : InboundEvent} {rest : Inbound}
    (next : w.client.inbound?.bind Inbound.next = some (event, rest)) :
    Goes w (w.perform .processNext) [] [] := by
  obtain ⟨session, arrived, at_, live, renders, goesOn⟩ := h.session
  have inbound : w.client.inbound? = some ⟨arrived, false⟩ := by simp [Client.inbound?, at_]
  obtain ⟨payload, left, found⟩ :
      ∃ payload left, Inbound.firstEvent arrived = some (.text payload, left) := by
    cases first : Inbound.firstEvent arrived with
    | none => simp [inbound, Inbound.next, first] at next
    | some pair =>
      obtain ⟨payload, text, -⟩ := Inbound.firstEvent_payload goesOn first
      exact ⟨payload, pair.2, by rw [← text]⟩
  obtain ⟨payload', text, payloads, behind⟩ := Inbound.firstEvent_payload goesOn found
  obtain rfl : payload = payload' := InboundEvent.text.inj text
  obtain ⟨display, session', at', live', renders'⟩ := processNext_display at_ live found
  have settings : (w.perform .processNext).client.settings = w.client.settings :=
    Client.perform_settings w.client .processNext
  have mode : session'.mode = (w.perform .processNext).client.settings.mode := by
    rw [renders', renders, settings]
  constructor
  case talks =>
    refine ⟨h.live, h.listens, h.senders, h.texts, left, ?_, behind⟩
    rw [at']
    exact .opened session' left live' mode
  case linked =>
    intro linked
    have sink : (w.perform .processNext).client.sink? = w.client.sink? :=
      w.client.processNext_sink
    have after : (w.perform .processNext).client.inbound? = some ⟨left, false⟩ := by
      simp [Client.inbound?, at']
    have unread : w.unread = payload :: (w.perform .processNext).unread := by
      simp only [Console.unread, inbound, after]
      exact payloads
    have waiting : (w.perform .processNext).waiting = w.waiting := rfl
    refine ⟨by simpa only [isLinked, sink] using linked, ?_⟩
    intro moreTexts morePayloads
    simp only [forecast, display, unread, waiting, settings, renders, Display.after_heard,
      List.nil_append, List.cons_append]

theorem Talks.turns (h : w.Talks) (side : Side) (attempt : Attempt) :
    Goes w (w.move (.turn side attempt)) [] [] := by
  by_cases ready : w.loop.isReady side = true
  · have step := EventLoop.turn_step h.live ready attempt
    have ops := EventLoop.turnOps_ready h.live ready attempt
    generalize turned : w.loop.turn side attempt = l' at step ops
    cases step with
    | submits text rest heard queue =>
      have ops : w.loop.turnOps .control attempt = [.submit text] := by
        simpa [EventLoop.asks, queue, h.live] using ops
      apply h.submits queue
      simp only [move, ops, turned, performAll_cons, performAll_nil]
      rfl
    | reconnects rest heard queue => simpa [Control.text?] using h.texts .reconnect (by simp [queue])
    | shutsDown rest heard queue => simpa [Control.text?] using h.texts .shutdown (by simp [queue])
    | hearsEnd heard queue gone => simp [h.senders] at gone
    | reads event rest next =>
      have turned := EventLoop.turn_reads h.live h.listens ready attempt
      have ops : w.loop.turnOps .inbound attempt = [.processNext] := by
        rw [EventLoop.turnOps_ready h.live ready, turned]
        simp [EventLoop.asks, h.live]
      have same : w.move (.turn .inbound attempt) = w.perform .processNext := by
        simp only [move, ops, turned, performAll_cons, performAll_nil]
        rfl
      rw [same]
      exact h.reads_payload next
  · have idle : w.loop.stopped = true ∨ w.loop.isReady side = false :=
      .inr (Bool.eq_false_iff.mpr ready)
    have still : w.move (.turn side attempt) = w := by
      simp only [move, EventLoop.turnOps_idle idle, EventLoop.turn_idle idle, performAll_nil]
    rw [still]
    exact .refl h

theorem Talks.writes (h : w.Talks) (works : Bool) : Goes w (w.move (.write works)) [] [] := by
  obtain still | ⟨sink, t, at_, current, step⟩ := w.world.writeCurrent_cases works
  · have still : w.move (.write works) = w := by
      simp only [move, still]
      rfl
    rw [still]
    exact .refl h
  · have moved : w.move (.write works) =
        { w with
          loop := { w.loop with client := w.client.setSink (t.write works sink).1 }
          current := some (t.write works sink).2 } := by
      simp only [move, step]
      rfl
    have client : (w.move (.write works)).client = w.client.setSink (t.write works sink).1 := by
      rw [moved]
      rfl
    have settings : (w.move (.write works)).client.settings = w.client.settings := by
      rw [client, Client.setSink_settings]
    constructor
    case talks =>
      obtain ⟨session, arrived, active, live, renders, goesOn⟩ := h.session
      have active : (w.move (.write works)).client.active =
          some ⟨{ session with sink := (t.write works sink).1 }, some ⟨arrived, false⟩⟩ := by
        simp [client, Client.setSink, active]
      refine ⟨by rw [moved]; exact h.live, by rw [moved]; exact h.listens,
        by rw [moved]; exact h.senders, by rw [moved]; exact h.texts, arrived, ?_, goesOn⟩
      rw [settings, active]
      exact .opened _ arrived live renders
    case linked =>
      intro linked
      have now : (w.move (.write works)).current = some (t.write works sink).2 := by rw [moved]
      obtain ⟨before, display⟩ := write_display at_ current client now linked
      have unread : (w.move (.write works)).unread = w.unread := by
        simp only [Console.unread, client, Client.setSink_inbound]
      have waiting : (w.move (.write works)).waiting = w.waiting := by
        rw [moved]
        rfl
      refine ⟨before, fun moreTexts morePayloads => ?_⟩
      simp only [forecast, display, unread, waiting, settings, List.nil_append]

/-- A move of a conversation brings what it brings, and what it handles was to come. -/
theorem Talks.move (h : w.Talks) {m : Move} (chat : m.isChat = true) :
    Goes w (w.move m) m.texts m.payloads := by
  cases m with
  | send control =>
    cases control with
    | submit text => exact h.types text
    | reconnect | shutdown => cases chat
  | ask op =>
    cases op with
    | arrive items =>
      apply h.hears
      intro item member
      simpa using List.all_eq_true.mp chat item member
    | start | reconnect | send | submit | processNext | shutdown => cases chat
  | turn side attempt => exact h.turns side attempt
  | write works => exact h.writes works
  | enter | hangUp => cases chat

theorem Talks.run (h : w.Talks) {moves : List Move} (chat : ∀ m ∈ moves, m.isChat = true) :
    Goes w (w.run moves) (moves.flatMap Move.texts) (moves.flatMap Move.payloads) := by
  induction moves generalizing w with
  | nil => exact .refl h
  | cons m moves ih =>
    obtain ⟨first, others⟩ := List.forall_mem_cons.mp chat
    have step := h.move first
    exact step.trans (ih step.talks others)

/-- A conversation of which all was handled shows what was to come of it. -/
theorem Talks.display (h : w.Talks) {moves : List Move} (chat : ∀ m ∈ moves, m.isChat = true)
    (handled : (w.run moves).waiting = [] ∧ (w.run moves).unread = [])
    (linked : (w.run moves).isLinked = true) :
    (w.run moves).display =
      w.forecast (moves.flatMap Move.texts) (moves.flatMap Move.payloads) := by
  obtain ⟨-, comes⟩ := (h.run chat).linked linked
  have forecast := comes [] []
  rw [List.append_nil, List.append_nil] at forecast
  rw [← forecast, Console.forecast, handled.1, handled.2]
  rfl

end

/-- **The order of typing and receiving does not show.** A loop runs on an open session. In two runs
from there the same texts are typed and the same payloads arrive, each in its order, and all of them
are handled, in whatever order the loop takes turns on its two sides, and the writer steps in
between; the channel is open at the end of both. Then both end with the same fragments in the log,
the same place of the view, the same frames queued in the same order, and the same counts, state and
line being typed. -/
theorem interleavings_agree {w : Console} (h : w.Talks) {moves moves' : List Move}
    (chat : ∀ m ∈ moves, m.isChat = true) (chat' : ∀ m ∈ moves', m.isChat = true)
    (texts : moves.flatMap Move.texts = moves'.flatMap Move.texts)
    (payloads : moves.flatMap Move.payloads = moves'.flatMap Move.payloads)
    (handled : (w.run moves).waiting = [] ∧ (w.run moves).unread = [])
    (handled' : (w.run moves').waiting = [] ∧ (w.run moves').unread = [])
    (linked : (w.run moves).isLinked = true) (linked' : (w.run moves').isLinked = true) :
    let v := w.run moves
    let v' := w.run moves'
    v.client.log.fragments = v'.client.log.fragments ∧
      v.client.log.scrollTop = v'.client.log.scrollTop ∧ v.frames = v'.frames ∧
      v.client.stats? = v'.client.stats? ∧ v.client.state? = v'.client.state? ∧
      v.client.log.input = v'.client.log.input := by
  intro v v'
  have same : v.display = v'.display := by
    rw [h.display chat handled linked, h.display chat' handled' linked', texts, payloads]
  exact ⟨congrArg Display.fragments same, congrArg Display.scrollTop same,
    congrArg Display.frames same, congrArg Display.stats same, congrArg Display.state same,
    congrArg Display.input same⟩

/-- A message, a payload that is none, a command and an empty text, in two orders. -/
theorem interleavings_agree_of_two_orders :
    let w := (ofClient plainClient).run [.enter .accepted]
    let moves : List Move :=
      [.send (.submit "list"), .ask (.arrive [.text "[1]", .ping [], .text "x"]),
        .turn .control .silent, .turn .inbound .silent, .write true, .send (.submit ""),
        .turn .inbound .silent, .turn .control .silent]
    let moves' : List Move :=
      [.ask (.arrive [.text "[1]"]), .turn .inbound .silent, .ask (.arrive [.text "x"]),
        .turn .inbound .silent, .send (.submit "list"), .send (.submit ""),
        .turn .control .silent, .turn .control .silent]
    (w.run moves).client.log.fragments = ["connected<br/>", "[1]<br/>"] ∧
      (w.run moves').client.log.fragments = (w.run moves).client.log.fragments ∧
      (w.run moves').client.stats? = some ⟨1, 1, 2⟩ ∧
      (w.run moves).client.stats? = (w.run moves').client.stats? ∧
      (w.run moves').frames =
        [.text "\x7b\"command\":\"watch\"\x7d", .text "\x7b\"command\":\"list\"\x7d"] ∧
      (w.run moves).frames = (w.run moves').frames := by
  intro w moves moves'
  have reachable : Client.Reachable w.client := .entered .accepted (.made ofSettings_plainClient)
  have talks : w.Talks :=
    talks_of_reachable rfl rfl rfl (by decide +kernel) reachable (by decide +kernel)
      (by decide +kernel)
  have chat : ∀ m ∈ moves, m.isChat = true := by decide
  have chat' : ∀ m ∈ moves', m.isChat = true := by decide
  obtain ⟨fragments, -, frames, stats, -⟩ :=
    interleavings_agree talks chat chat' (by decide) (by decide) (by decide +kernel)
      (by decide +kernel) (by decide +kernel) (by decide +kernel)
  exact ⟨by decide +kernel, fragments.symm, by decide +kernel, stats, by decide +kernel, frames⟩

end Console

end JobConsole
