import JobConsole.Proofs.ClientRun
import JobConsole.Proofs.Traffic

/-!
# What reaches the wire

A client beside the writers of its connections, those that it gave up among them:

* `World.perform`: an operation of the client, and what it makes of its connections;
* `World.Step`, `World.Reachable`: the steps of the client and of the writers, interleaved;
* `wire_order`: on each socket stands a beginning of `watch`, the accepted commands and a close.
-/

namespace JobConsole

/-! ## The sink of a client's session -/

/-- A command is accepted when it was queued; else the sink stays as it is. -/
theorem Session.send_channel (s : Session ChannelSink) (text : String) :
    ((s.send text).2 = .ok true ∧ s.sink.isConnected = true ∧
        (s.send text).1.sink = (CommandSink.sendText s.sink (Command.encode ⟨text⟩)).1) ∨
      ((s.send text).2 ≠ .ok true ∧ (s.send text).1.sink = s.sink) := by
  by_cases ht : text = ""
  · exact .inr (by simp [send, ht])
  · by_cases live : s.state = .opened
    · cases connected : s.sink.isConnected with
      | true => exact .inl (by simp [send, ht, live, Traffic.sendText_connected connected])
      | false => exact .inr (by simp [send, ht, live, Traffic.sendText_unconnected connected])
    · exact .inr (by simp [send, ht, live])

namespace Client

def sink? (c : Client) : Option ChannelSink := c.session?.map Session.sink

/-- The client when the writer of the current connection took from its queue. -/
def setSink (c : Client) (sink : ChannelSink) : Client :=
  { c with active := c.active.map fun a => { a with session := { a.session with sink } } }

theorem setSink_sink {c : Client} {sink : ChannelSink} (h : c.sink? = some sink)
    (after : ChannelSink) : (c.setSink after).sink? = some after := by
  obtain ⟨session, hs, rfl⟩ := Option.map_eq_some_iff.mp h
  obtain ⟨a, ha, rfl⟩ := Option.map_eq_some_iff.mp hs
  simp [setSink, sink?, session?, ha]

@[simp] theorem setSink_log (c : Client) (sink : ChannelSink) : (c.setSink sink).log = c.log := rfl

@[simp] theorem setSink_settings (c : Client) (sink : ChannelSink) :
    (c.setSink sink).settings = c.settings := rfl

@[simp] theorem setSink_state (c : Client) (sink : ChannelSink) :
    (c.setSink sink).state? = c.state? := by
  unfold setSink state? session?
  cases c.active <;> rfl

@[simp] theorem setSink_stats (c : Client) (sink : ChannelSink) :
    (c.setSink sink).stats? = c.stats? := by
  unfold setSink stats? session?
  cases c.active <;> rfl

@[simp] theorem setSink_inbound (c : Client) (sink : ChannelSink) :
    (c.setSink sink).inbound? = c.inbound? := by
  unfold setSink inbound?
  cases c.active <;> rfl

theorem send_sink (c : Client) (text : String) :
    ((c.send text).2 = .ok true ∧ ∃ sink, c.sink? = some sink ∧ sink.isConnected = true ∧
        (c.send text).1.sink? = some (CommandSink.sendText sink (Command.encode ⟨text⟩)).1) ∨
      ((c.send text).2 ≠ .ok true ∧ (c.send text).1.sink? = c.sink?) := by
  unfold send
  by_cases ht : text = ""
  · exact .inr (by simp [ht])
  · simp only [ht, if_false]
    cases ha : c.active with
    | none => exact .inr ⟨by simp, rfl⟩
    | some a =>
      obtain ⟨ok, connected, sink⟩ | ⟨refused, sink⟩ := a.session.send_channel text
      · exact .inl ⟨ok, a.session.sink, by simp [sink?, session?, ha], connected,
          by simp [sink?, session?, sink]⟩
      · exact .inr ⟨refused, by simp [sink?, session?, ha, sink]⟩

theorem dispatch_sink (c : Client) (event : InboundEvent) :
    (c.dispatch event).sink? = c.sink? := by
  unfold dispatch
  cases ha : c.active with
  | none => rfl
  | some a =>
    cases event with
    | text payload =>
      simp only [sink?, session?, Option.map_some, Session.handleMessage, ha]
      split
      · rfl
      · split <;> rfl
    | closed detail =>
      simp only [sink?, session?, Option.map_some, Session.handleClose, ha]
      split <;> rfl

theorem processNext_sink (c : Client) : c.processNext.1.sink? = c.sink? := by
  unfold processNext
  split
  · rfl
  · next a ha =>
    split
    · rfl
    · split
      · rfl
      · exact (dispatch_sink _ _).trans (by simp [sink?, session?, ha])

theorem shutdown_sink {c : Client} {sink : ChannelSink} (h : c.sink? = some sink) :
    c.shutdown.sink? = some sink ∨ c.shutdown.sink? = some (CommandSink.close sink) := by
  obtain ⟨session, hs, rfl⟩ := Option.map_eq_some_iff.mp h
  obtain ⟨a, ha, rfl⟩ := Option.map_eq_some_iff.mp hs
  by_cases closed : a.session.state = .closed
  · exact .inl (by simp [sink?, session?, shutdown, ha, Session.retire_closed closed])
  · exact .inr (by simp [sink?, session?, shutdown, ha, Session.retire_live closed])

theorem start_sink {c : Client} {attempt : Attempt} (h : attempt.connects c.settings = true) :
    (c.start attempt).sink? =
      some (CommandSink.sendText ChannelSink.connected Command.watch.encode).1 := by
  rw [start_connected h]
  simp [sink?, session?, openedSession, Session.start]

theorem deliver_sink (c : Client) (items : List Incoming) : (c.deliver items).sink? = c.sink? := by
  simp only [deliver, sink?, session?, Option.map_map]
  rfl

end Client

/-! ## The client and its writers -/

/-- A client with the connections that were made for it. -/
structure World where
  client : Client
  /-- What became of the frames of the current session, if its connection was made. -/
  current : Option Traffic
  /-- The connections that were given up, with what was left of their queues. -/
  former : List (ChannelSink × Traffic)

namespace World

def start (client : Client) : World := ⟨client, none, []⟩

def line? (w : World) : Option (ChannelSink × Traffic) :=
  w.client.sink?.bind fun sink => w.current.map (sink, ·)

def lines (w : World) : List (ChannelSink × Traffic) := w.line?.toList ++ w.former

/-- The current session is dropped: nothing can be queued on its connection any more, and its
writer goes on alone. -/
def leave (w : World) : World :=
  { client := { w.client with active := none }
    current := none
    former := w.former ++ (w.line?.map fun line => (line.1.release, line.2)).toList }

/-- Another session takes the place of the current one, which is dropped. -/
def replace (w : World) (attempt : Attempt) : World :=
  { w.leave with
    client := w.client.start attempt
    current := if attempt.connects w.client.settings then some .start else none }

/-- The sending of a text was answered; a text that was accepted is marked. -/
def answered (w : World) (text : String) (answer : Client × Except ConsoleError Bool) : World :=
  { w with
    client := answer.1
    current :=
      match answer.2 with
      | .ok true => w.current.map (·.accept text)
      | _ => w.current }

def perform (w : World) : ClientOp → World
  | .start attempt => w.replace attempt
  | .reconnect attempt => { w with client := w.client.makeRoom }.replace attempt
  | .send text => w.answered text (w.client.send text)
  | .submit text => w.answered text (w.client.submit text)
  | op => { w with client := (w.client.perform op).1 }

/-- The client of a world does what it does without its writers. -/
theorem perform_client (w : World) (op : ClientOp) :
    (w.perform op).client = (w.client.perform op).1 := by
  cases op <;> rfl

def writeCurrent (w : World) (works : Bool) : World :=
  match w.line? with
  | none => w
  | some (sink, t) =>
    { w with
      client := w.client.setSink (t.write works sink).1
      current := some (t.write works sink).2 }

/-- Without a current connection there is no writer to make a step. -/
theorem writeCurrent_cases (w : World) (works : Bool) :
    w.writeCurrent works = w ∨
      ∃ sink t, w.client.sink? = some sink ∧ w.current = some t ∧
        w.writeCurrent works =
          { w with
            client := w.client.setSink (t.write works sink).1
            current := some (t.write works sink).2 } := by
  unfold writeCurrent
  cases found : w.line? with
  | none => exact .inl rfl
  | some line =>
    obtain ⟨sink, at_, mapped⟩ := Option.bind_eq_some_iff.mp found
    obtain ⟨t, current, rfl⟩ := Option.map_eq_some_iff.mp mapped
    exact .inr ⟨sink, t, at_, current, rfl⟩

/-- The steps of a client and of the writers of its connections. Whether a write works is up to the
socket. -/
inductive Step (w : World) : World → Prop
  | ask (op : ClientOp) : Step w (w.perform op)
  | leave : Step w w.leave
  | write (works : Bool) : Step w (w.writeCurrent works)
  | writeFormer (works : Bool) (before after : List (ChannelSink × Traffic)) (sink : ChannelSink)
      (t : Traffic) (at_ : w.former = before ++ (sink, t) :: after) :
      Step w { w with former := before ++ t.write works sink :: after }

inductive Reachable (client : Client) : World → Prop
  | start : Reachable client (start client)
  | next {w w' : World} : Reachable client w → Step w w' → Reachable client w'

/-- A world in which the frames of all connections are in order, and nobody can queue more on a
connection that was given up. -/
structure Sound (w : World) : Prop where
  current (t : Traffic) (h : w.current = some t) :
    ∃ sink, w.client.sink? = some sink ∧ t.Sound sink
  former (sink : ChannelSink) (t : Traffic) (h : (sink, t) ∈ w.former) :
    sink.held = false ∧ t.Sound sink

section
variable {w w' : World}

/-- What the client does apart from commands and new sessions keeps the order. -/
theorem Sound.onClient (h : w.Sound) {client : Client}
    (step : ∀ sink, w.client.sink? = some sink →
      client.sink? = some sink ∨ client.sink? = some (CommandSink.close sink)) :
    Sound { w with client } := by
  constructor
  · intro t ht
    obtain ⟨sink, hs, sound⟩ := h.current t ht
    obtain same | closed := step sink hs
    · exact ⟨sink, same, sound⟩
    · exact ⟨_, closed, sound.close⟩
  · exact h.former

theorem Sound.line (h : w.Sound) {sink : ChannelSink} {t : Traffic}
    (at_ : w.line? = some (sink, t)) : w.client.sink? = some sink ∧ t.Sound sink := by
  obtain ⟨sink', hs, mapped⟩ := Option.bind_eq_some_iff.mp at_
  obtain ⟨t', ht, pair⟩ := Option.map_eq_some_iff.mp mapped
  obtain ⟨rfl, rfl⟩ := Prod.mk.inj pair
  obtain ⟨sink, hs', sound⟩ := h.current t' ht
  obtain rfl := Option.some.inj (hs.symm.trans hs')
  exact ⟨hs, sound⟩

/-- The frames of all connections that were made are in order. -/
theorem Sound.ordered (h : w.Sound) {line : ChannelSink × Traffic} (made : line ∈ w.lines) :
    line.2.Sound line.1 := by
  obtain current | former := List.mem_append.mp made
  · exact (h.line (Option.mem_toList.mp current)).2
  · exact (h.former line.1 line.2 former).2

theorem Sound.leave (h : w.Sound) : w.leave.Sound := by
  constructor
  · intro t ht
    cases ht
  · intro sink t member
    obtain old | left := List.mem_append.mp member
    · exact h.former sink t old
    · obtain ⟨line, at_, pair⟩ := Option.map_eq_some_iff.mp (Option.mem_toList.mp left)
      obtain ⟨rfl, rfl⟩ := Prod.mk.inj pair
      exact ⟨rfl, (h.line at_).2.release⟩

theorem Sound.replace (h : w.Sound) (attempt : Attempt) : (w.replace attempt).Sound := by
  constructor
  · intro t ht
    cases connects : attempt.connects w.client.settings with
    | false => simp [World.replace, connects] at ht
    | true =>
      obtain rfl : Traffic.start = t := by simpa [World.replace, connects] using ht
      exact ⟨_, Client.start_sink connects, Traffic.sound_start⟩
  · exact h.leave.former

theorem Sound.answered (h : w.Sound) (text : String) {c : Client} (same : c.sink? = w.client.sink?) :
    (w.answered text (c.send text)).Sound := by
  constructor
  · intro t ht
    obtain ⟨accepted, sink, hs, connected, sent⟩ | ⟨refused, sent⟩ := c.send_sink text
    · simp only [World.answered, accepted] at ht
      obtain ⟨t, current, rfl⟩ := Option.map_eq_some_iff.mp ht
      obtain ⟨sink', hs', sound⟩ := h.current t current
      obtain rfl := Option.some.inj ((hs.symm.trans same).trans hs')
      exact ⟨_, sent, sound.accept connected text⟩
    · have current : w.current = some t := by
        cases answer : (c.send text).2 with
        | error e => simpa [World.answered, answer] using ht
        | ok accepted =>
          cases accepted with
          | false => simpa [World.answered, answer] using ht
          | true => exact absurd answer refused
      obtain ⟨sink, hs, sound⟩ := h.current t current
      exact ⟨sink, (sent.trans same).trans hs, sound⟩
  · exact h.former

theorem Sound.perform (h : w.Sound) (op : ClientOp) : (w.perform op).Sound := by
  cases op with
  | start attempt => exact h.replace attempt
  | reconnect attempt =>
    have room : Sound { w with client := w.client.makeRoom } := by
      apply h.onClient
      intro sink hs
      exact Client.shutdown_sink hs
    exact room.replace attempt
  | send text => exact h.answered text rfl
  | submit text => exact h.answered text rfl
  | processNext =>
    apply h.onClient
    intro sink hs
    exact .inl (w.client.processNext_sink.trans hs)
  | shutdown =>
    apply h.onClient
    intro sink hs
    exact Client.shutdown_sink hs
  | arrive items =>
    apply h.onClient
    intro sink hs
    exact .inl ((w.client.deliver_sink items).trans hs)

theorem Sound.writeCurrent (h : w.Sound) (works : Bool) : (w.writeCurrent works).Sound := by
  unfold World.writeCurrent
  split
  · exact h
  · next sink t at_ =>
    obtain ⟨hs, sound⟩ := h.line at_
    constructor
    · intro t' ht
      obtain rfl := Option.some.inj ht
      exact ⟨_, Client.setSink_sink hs _, sound.write works⟩
    · exact h.former

/-- Every step of the client and of the writers keeps the order. -/
theorem Sound.step (h : w.Sound) (s : Step w w') : w'.Sound := by
  cases s with
  | ask op => exact h.perform op
  | leave => exact h.leave
  | write works => exact h.writeCurrent works
  | writeFormer works before after sink t at_ =>
    obtain ⟨released, sound⟩ := h.former sink t (by simp [at_])
    constructor
    · exact h.current
    · intro sink' t' member
      obtain earlier | written | later : (sink', t') ∈ before ∨ (sink', t') = t.write works sink ∨
          (sink', t') ∈ after := by simpa using member
      · exact h.former sink' t' (by simp [at_, earlier])
      · obtain ⟨rfl, rfl⟩ := Prod.mk.inj written
        exact ⟨(t.write_same_held works).trans released, sound.write works⟩
      · exact h.former sink' t' (by simp [at_, later])

theorem reachable_sound {client : Client} (h : Reachable client w) : w.Sound := by
  induction h with
  | start =>
    constructor
    · intro t ht
      cases ht
    · intro sink t member
      cases member
  | next _ s ih => exact ih.step s

end

/-- Along all runs of a client, with its writers stepping in between and failing at any write: what
stands on the socket of a connection is a beginning of `watch`, the commands accepted while it was
the current one, and a close. A close is only ever behind all of them. A writer that did not fail
and has nothing to write left has written them all, and once the client gave its connection up, it
gets to write all of them and the close. -/
theorem wire_order {client : Client} {w : World} (h : Reachable client w) :
    (∀ line ∈ w.former, line.1.held = false) ∧
    ∀ line ∈ w.lines,
      line.2.writer.written <+: line.2.sent ++ [.close] ∧
      (.close ∈ line.2.writer.written → line.2.writer.written = line.2.sent ++ [.close]) ∧
      (line.2.broken = false → line.1.queue = [] →
        line.2.writer.written = line.2.sent ∨ line.2.writer.written = line.2.sent ++ [.close]) ∧
      (line.2.broken = false → line.1.held = false →
        (Traffic.writes (line.1.queue.length + 1) line.1 line.2).writer.written =
          line.2.sent ++ [.close]) := by
  have sound := reachable_sound h
  constructor
  · intro line member
    exact (sound.former line.1 line.2 member).1
  · intro line member
    have ordered := sound.ordered member
    refine ⟨ordered.written_prefix, ordered.closed_last, ordered.written_all, ?_⟩
    intro whole released
    exact ordered.writes_released released whole (Nat.lt_succ_self _)

/-- The user reconnects before the writer has taken the command, and the writer finishes alone. -/
theorem wire_order_of_reconnected :
    ∃ w, Reachable plainClient w ∧
      w.former.map (fun line => (line.2.writer.written, line.2.broken)) =
        [([.text "\x7b\"command\":\"watch\"\x7d"], false)] ∧
      ∀ line ∈ w.former,
        (Traffic.writes (line.1.queue.length + 1) line.1 line.2).writer.written =
          [.text "\x7b\"command\":\"watch\"\x7d", .text "\x7b\"command\":\"list\"\x7d", .close] := by
  have reachable : Reachable plainClient
      ((((start plainClient).perform (.start .accepted)).writeCurrent true).perform
        (.send "list") |>.perform (.reconnect .accepted)) :=
    .next (.next (.next (.next .start (.ask _)) (.write _)) (.ask _)) (.ask _)
  obtain ⟨released, ordered⟩ := wire_order reachable
  refine ⟨_, reachable, by decide +kernel, fun line member => ?_⟩
  obtain ⟨-, -, -, finishes⟩ := ordered line (List.mem_append_right _ member)
  obtain ⟨whole, sent⟩ : line.2.broken = false ∧ line.2.sent ++ [.close] =
      [.text "\x7b\"command\":\"watch\"\x7d", .text "\x7b\"command\":\"list\"\x7d", .close] := by
    revert line
    decide +kernel
  rw [finishes whole (released line member), sent]

end World

end JobConsole
