import Mathlib.Data.List.Forall2
import JobConsole.Proofs.Outline

namespace JobConsole

namespace Console

section
variable {w : Console} {accepts : Nat → Bool}

/-! ## Moves on the outline -/

/-- The loop of a console stops if nothing is left to wait for, and its client is shut down then. -/
def settle (w : Console) : Console :=
  { w.performAll (if w.loop.settle.stopped then [.shutdown] else []) with loop := w.loop.settle }

theorem settle_outline (live : w.loop.stopped = false) :
    w.settle.outline = w.outline.settle := by
  have reading : w.client.isReading = w.outline.outlet.any Outlet.reading :=
    w.client.isReading_outlet
  by_cases waits : w.loop.listening = true ∨ w.client.isReading = true
  · have same : w.settle = w := by
      simp only [settle, EventLoop.settle_waits waits, live, Bool.false_eq_true, if_false,
        performAll_nil]
    rw [same, Outline.settle_waits (waits.imp_right (reading ▸ ·))]
  · obtain ⟨deaf, idle⟩ : w.loop.listening = false ∧ w.client.isReading = false := by
      simpa using waits
    have stops : w.settle = { w.perform .shutdown with loop := w.loop.stop } := by
      simp only [settle, EventLoop.settle_stops deaf idle]
      rfl
    have ended : w.settle.outline = { (w.perform .shutdown).outline with stopped := true } := by
      rw [stops]
      rfl
    rw [ended, shutdown_outline, Outline.settle_stops deaf (reading ▸ idle)]

theorem onLoop_outline (w : Console) (l : EventLoop) (client : l.client = w.client) :
    ({ w with loop := l } : Console).outline =
      { w.outline with listening := l.listening, stopped := l.stopped } := by
  have same : ({ w with loop := l } : Console).client = w.client := client
  simp only [outline, same]
  rfl

/-- The outline after a turn: that of its operations, with what the loop waits for then. -/
theorem turnOps_outline (w : Console) (side : Side) (attempt : Attempt) :
    (w.move (.turn side attempt)).outline =
      { (w.performAll (w.loop.turnOps side attempt)).outline with
        listening := (w.loop.turn side attempt).listening
        stopped := (w.loop.turn side attempt).stopped } :=
  onLoop_outline _ _ (w.turned_client side attempt)

/-- A turn that comes to one operation, and leaves open what the loop waits for. -/
theorem turnOp_outline {side : Side} {attempt : Attempt} {op : ClientOp}
    (ops : w.loop.turnOps side attempt = [op])
    (listening : (w.loop.turn side attempt).listening = w.loop.listening)
    (stopped : (w.loop.turn side attempt).stopped = w.loop.stopped) :
    (w.move (.turn side attempt)).outline = (w.perform op).outline := by
  rw [turnOps_outline, ops, listening, stopped, performAll_cons, performAll_nil]
  rfl

theorem turn_outline (side : Side) (attempt : Attempt)
    (follows : Follows accepts (w.move (.turn side attempt)).offers) :
    (w.move (.turn side attempt)).outline =
      (w.stimulus? (.turn side attempt)).elim w.outline (w.outline.next accepts) := by
  by_cases idle : w.loop.stopped = true ∨ w.loop.isReady side = false
  · have silent : w.stimulus? (.turn side attempt) = none := by
      obtain idle | idle := idle <;> simp [stimulus?, idle]
    have still : w.move (.turn side attempt) = w := by
      simp only [move, EventLoop.turnOps_idle idle, EventLoop.turn_idle idle, performAll_nil]
    rw [silent, still]
    rfl
  · obtain ⟨live, ready⟩ : w.loop.stopped = false ∧ w.loop.isReady side = true := by
      simpa using idle
    have step := EventLoop.turn_step live ready attempt
    have ops := EventLoop.turnOps_ready live ready attempt
    generalize turned : w.loop.turn side attempt = l' at step ops
    cases step with
    | submits text rest heard queue =>
      have stimulus : w.stimulus? (.turn .control attempt) = some (.asked (.submit text)) := by
        simp [stimulus?, live, ready, queue]
      have ops : w.loop.turnOps .control attempt = [.submit text] := by
        simpa [EventLoop.asks, queue, live] using ops
      simp only [move, ops, performAll_cons, performAll_nil] at follows
      rw [stimulus, turnOp_outline ops (by rw [turned]) (by rw [turned])]
      exact ask_outline (.submit text) follows (by simp)
    | reconnects rest heard queue =>
      have stimulus : w.stimulus? (.turn .control attempt) =
          some (.asked (.reconnect attempt)) := by
        simp [stimulus?, live, ready, queue]
      have ops : w.loop.turnOps .control attempt = [.reconnect attempt] := by
        simpa [EventLoop.asks, queue, live] using ops
      simp only [move, ops, performAll_cons, performAll_nil] at follows
      rw [stimulus, turnOp_outline ops (by rw [turned]) (by rw [turned])]
      exact ask_outline (.reconnect attempt) follows (by simp)
    | shutsDown rest heard queue =>
      have stimulus : w.stimulus? (.turn .control attempt) = some .dismissed := by
        simp [stimulus?, live, ready, queue]
      have ops : w.loop.turnOps .control attempt = [.shutdown] := by
        simpa [EventLoop.asks, queue] using ops
      rw [stimulus, turnOps_outline, ops, turned, performAll_cons, performAll_nil,
        shutdown_outline]
      rfl
    | hearsEnd heard queue gone =>
      have stimulus : w.stimulus? (.turn .control attempt) = some .hungUp := by
        simp [stimulus?, live, ready, queue]
      have asks : w.loop.asks attempt .control = [] := by simp [EventLoop.asks, queue]
      have settled : w.move (.turn .control attempt) =
          settle { w with loop := { w.loop with listening := false } } := by
        simp only [move, ops, turned, asks, settle, List.nil_append]
        split <;> rfl
      rw [stimulus, settled]
      exact settle_outline live
    | reads event rest next =>
      have settled : w.move (.turn .inbound attempt) = (w.perform .processNext).settle := by
        simp only [move, ops, turned, EventLoop.asks]
        rfl
      have reading : w.outline.outlet.any Outlet.reading = true := by
        obtain ⟨inbound, reads, -⟩ := Option.bind_eq_some_iff.mp next
        exact w.client.isReading_outlet.symm.trans (congrArg Option.isSome reads)
      rw [settled, settle_outline (w := w.perform .processNext) live, processNext_outline]
      simp only [stimulus?, live, ready]
      cases w.client.atEnd with
      | true => rfl
      | false => exact Outline.settle_waits (.inr reading)

theorem setSink_outlet {c : Client} {sink after : ChannelSink} (at_ : c.sink? = some sink)
    (held : after.held = sink.held) : (c.setSink after).outlet? = c.outlet? := by
  obtain ⟨session, found, rfl⟩ := Option.map_eq_some_iff.mp at_
  obtain ⟨a, active, rfl⟩ := Option.map_eq_some_iff.mp found
  simp [Client.setSink, Client.outlet?, active, Active.outlet, held]

/-- The writer takes from the queue what was accepted before. -/
theorem write_outline (works : Bool) : (w.move (.write works)).outline = w.outline := by
  simp only [move, World.writeCurrent]
  cases found : w.world.line? with
  | none => rfl
  | some line =>
    obtain ⟨sink, t⟩ := line
    obtain ⟨at_, current⟩ : w.client.sink? = some sink ∧ w.current = some t := by
      obtain ⟨sink', at_, mapped⟩ := Option.bind_eq_some_iff.mp found
      obtain ⟨t', current, pair⟩ := Option.map_eq_some_iff.mp mapped
      obtain ⟨rfl, rfl⟩ := Prod.mk.inj pair
      exact ⟨at_, current⟩
    have frames : (some (t.write works sink).2).map Traffic.sent = w.current.map Traffic.sent := by
      rw [current]
      rfl
    change ({ w.outline with
      outlet := (w.client.setSink (t.write works sink).1).outlet?
      current := (some (t.write works sink).2).map Traffic.sent } : Outline) = _
    rw [setSink_outlet at_ (t.write_same_held works), frames]
    rfl

/-- A console goes on as its outline does. A move that is nothing to the outline leaves it. -/
theorem move_outline {m : Move} (follows : Follows accepts (w.move m).offers) :
    (w.move m).outline = (w.stimulus? m).elim w.outline (w.outline.next accepts) := by
  cases m with
  | ask op =>
    cases op with
    | processNext =>
      simp only [stimulus?, move, processNext_outline]
      split <;> rfl
    | arrive items => exact arrive_outline items
    | start | reconnect | send | submit | shutdown => exact ask_outline _ follows (by simp)
  | enter attempt =>
    have isNone : w.outline.outlet.isNone = w.client.active.isNone := Option.isNone_map
    have entered : (w.move (.enter attempt)).outline =
        { (w.performAll (entryOps w.client attempt)).outline with
          listening := true, stopped := false } := by
      rw [move_enter]
      rfl
    have opened : (w.performAll (entryOps w.client attempt)).outline =
        if w.outline.outlet.isNone then w.outline.start attempt else w.outline := by
      rw [isNone, entryOps]
      split
      · exact start_outline attempt
      · rfl
    rw [entered, opened]
    rfl
  | send control =>
    simp only [move, EventLoop.enqueue]
    split <;> rfl
  | hangUp => rfl
  | turn side attempt => exact turn_outline side attempt follows
  | write works => exact write_outline works

/-- A run takes the outline through the stimuli of its moves. -/
theorem run_outline {moves : List Move} (follows : Follows accepts (w.run moves).offers) :
    (w.run moves).outline = (w.stimuli moves).foldl (Outline.next accepts) w.outline := by
  induction moves generalizing w with
  | nil => rfl
  | cons m moves ih =>
    obtain ⟨more, offers⟩ := (w.move m).run_offers moves
    have first : Follows accepts (w.move m).offers :=
      Follows.earlier more (offers.symm ▸ follows)
    rw [run_cons, ih follows, move_outline first, stimuli, List.foldl_append]
    cases w.stimulus? m <;> rfl

/-- The connections of a console, as far as its outline tells of them. -/
theorem lines_outline (sound : w.world.Sound) :
    w.world.lines.map (fun line => (line.1.held, line.2.sent)) = w.outline.lines := by
  have current : w.world.line?.map (fun line => (line.1.held, line.2.sent)) =
      w.outline.outlet.bind fun outlet => w.outline.current.map (outlet.held, ·) := by
    change (w.client.sink?.bind fun sink => w.current.map (sink, ·)).map _ =
      w.client.outlet?.bind fun outlet => (w.current.map Traffic.sent).map (outlet.held, ·)
    unfold Client.sink? Client.session? Client.outlet?
    cases w.client.active <;> cases w.current <;> rfl
  have former : w.former.map (fun line => (line.1.held, line.2.sent)) =
      w.outline.former.map (false, ·) := by
    simp only [outline, List.map_map]
    apply List.map_congr_left
    intro line member
    have released := (sound.former line.1 line.2 member).1
    rw [released]
    rfl
  rw [World.lines, Outline.lines, List.map_append, ← current, ← former]
  cases w.world.line? <;> rfl

end

/-! ## Two runs -/

/-- Two connections on which the same frames were accepted, and of which the session holds both sending
ends or none. The same stands on their sockets or waits for them, but for what a failed write lost. -/
structure SameFrames (line line' : ChannelSink × Traffic) : Prop where
  accepted : line.2.sent = line'.2.sent
  held : line.1.held = line'.1.held
  carries : line.2.Carries line.1
  carries' : line'.2.Carries line'.1
  texts : line.2.broken = false → line'.2.broken = false →
    line.2.texts line.1 = line'.2.texts line'.1

theorem sameFrames {lines lines' : List (ChannelSink × Traffic)}
    (ordered : ∀ line ∈ lines, line.2.Sound line.1)
    (ordered' : ∀ line ∈ lines', line.2.Sound line.1)
    (same : lines.map (fun line => (line.1.held, line.2.sent)) =
      lines'.map (fun line => (line.1.held, line.2.sent))) :
    List.Forall₂ SameFrames lines lines' := by
  induction lines generalizing lines' with
  | nil =>
    obtain rfl : lines' = [] := List.map_eq_nil_iff.mp same.symm
    exact .nil
  | cons line lines ih =>
    cases lines' with
    | nil => cases same
    | cons line' lines' =>
      obtain ⟨first, others⟩ := List.cons.inj same
      obtain ⟨held, accepted⟩ := Prod.mk.inj first
      obtain ⟨sound, ordered⟩ := List.forall_mem_cons.mp ordered
      obtain ⟨sound', ordered'⟩ := List.forall_mem_cons.mp ordered'
      refine .cons ⟨accepted, held, sound.carries, sound'.carries, ?_⟩ (ih ordered ordered' others)
      intro whole whole'
      rw [sound.carries.texts whole, sound'.carries.texts whole', accepted]

/-- Where no write failed, the same texts stand on the sockets or wait. -/
theorem texts_eq {lines lines' : List (ChannelSink × Traffic)} (same : List.Forall₂ SameFrames lines lines')
    (whole : ∀ line ∈ lines, line.2.broken = false)
    (whole' : ∀ line ∈ lines', line.2.broken = false) :
    lines.map (fun line => line.2.texts line.1) = lines'.map (fun line => line.2.texts line.1) := by
  induction same with
  | nil => rfl
  | cons first _ ih =>
    obtain ⟨here, others⟩ := List.forall_mem_cons.mp whole
    obtain ⟨here', others'⟩ := List.forall_mem_cons.mp whole'
    rw [List.map_cons, List.map_cons, first.texts here here', ih others others']

/-- **The server cannot make the client send anything.** Take two runs, from consoles whose frames are
in order and that are alike as far as they send. In both the same operations are asked, the same
controls are handled and the ends of connections are handled at the same points among them, and every
attempt turns out the same. Let the sinks take and refuse the same frames of those that are offered,
one after the other. What else the connections carry, payloads of any content and in any number, may
differ, and so may the steps of the writers. Then one after the other the connections of both carry the
same frames: what stands on their sockets and waits in their queues is what was accepted, which is the
same in both, unless a write failed and the rest was lost; and a close only where the session let go,
which it did in both or in none. Every sending is answered the same, and the line being typed, the
state of the session and the number of commands it sent are the same. -/
theorem outbound_ignores_payloads {w w' : Console} {moves moves' : List Move}
    {accepts : Nat → Bool} (sound : w.world.Sound) (sound' : w'.world.Sound)
    (start : w.outline = w'.outline) (same : w.stimuli moves = w'.stimuli moves')
    (taken : Follows accepts (w.run moves).offers)
    (taken' : Follows accepts (w'.run moves').offers) :
    let v := w.run moves
    let v' := w'.run moves'
    List.Forall₂ SameFrames v.world.lines v'.world.lines ∧
      v.answers = v'.answers ∧ v.client.log.input = v'.client.log.input ∧
      v.client.state? = v'.client.state? ∧
      v.client.stats?.map SessionStats.commandsSent =
        v'.client.stats?.map SessionStats.commandsSent := by
  intro v v'
  have ordered : v.world.Sound := run_sound sound moves
  have ordered' : v'.world.Sound := run_sound sound' moves'
  have outlines : v.outline = v'.outline := by
    rw [run_outline taken, run_outline taken', start, same]
  have outlets : v.client.outlet? = v'.client.outlet? := congrArg Outline.outlet outlines
  refine ⟨?_, congrArg Outline.answers outlines, congrArg Outline.input outlines, ?_, ?_⟩
  · apply sameFrames (fun _ => ordered.ordered) (fun _ => ordered'.ordered)
    rw [lines_outline ordered, lines_outline ordered', outlines]
  · rw [← v.client.outlet_state, outlets, v'.client.outlet_state]
  · rw [← v.client.outlet_commandsSent, outlets, v'.client.outlet_commandsSent]

/-- A server that sends what looks like commands, before and behind a command of the user, and one
that only closes. -/
theorem outbound_ignores_payloads_of_chatter :
    let talked : List Move :=
      [.enter .accepted, .send (.submit "list"),
        .ask (.arrive
          [.text "\x7b\"command\":\"quit\"\x7d", .text ":quit", .text "[1]", .close none]),
        .turn .inbound .silent, .turn .control .silent, .turn .inbound .silent, .write true,
        .turn .inbound .silent, .turn .inbound .silent, .send .reconnect, .turn .control .accepted]
    let closed : List Move :=
      [.enter .accepted, .send (.submit "list"), .turn .control .silent,
        .ask (.arrive [.close none]), .turn .inbound .silent, .send .reconnect,
        .turn .control .accepted]
    let v := (ofClient plainClient).run talked
    let v' := (ofClient plainClient).run closed
    v.client.log.length = 6 ∧ v'.client.log.length = 4 ∧
      v.world.lines.map (fun line => line.2.texts line.1) =
        [["\x7b\"command\":\"watch\"\x7d"],
          ["\x7b\"command\":\"watch\"\x7d", "\x7b\"command\":\"list\"\x7d"]] ∧
      v.answers = v'.answers ∧ v.client.state? = some .opened := by
  intro talked closed v v'
  have takes_all {offers : List Bool} (h : ∀ taken ∈ offers, taken = true) :
      Follows (fun _ => true) offers :=
    fun _ taken found => h taken (List.mem_of_getElem? found)
  have taken : Follows (fun _ => true) v.offers := takes_all (by decide +kernel)
  have taken' : Follows (fun _ => true) v'.offers := takes_all (by decide +kernel)
  have same : (ofClient plainClient).stimuli talked = (ofClient plainClient).stimuli closed := by
    decide +kernel
  have sound : (ofClient plainClient).world.Sound := ofClient_sound plainClient
  obtain ⟨lines, answers, -, state, -⟩ :=
    outbound_ignores_payloads sound sound rfl same taken taken'
  have texts := texts_eq lines (by decide +kernel) (by decide +kernel)
  refine ⟨by decide +kernel, by decide +kernel, texts.trans ?_, answers, state.trans ?_⟩
  · decide +kernel
  · decide +kernel

end Console

end JobConsole
