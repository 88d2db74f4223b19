import JobConsole.Proofs.History
import JobConsole.Proofs.Outline
import JobConsole.Proofs.ReadSide

namespace JobConsole

/-- What a console shows and counts, and what it has queued. -/
structure Display where
  fragments : List String
  scrollTop : Nat
  /-- The line being typed. -/
  input : String
  state : Option ConnectionState
  stats : Option SessionStats
  /-- The frames queued on the current connection, oldest first, those that were written among
  them. -/
  frames : List Outgoing

namespace Display

def typed (d : Display) (text : String) : Display :=
  if text = "" then { d with input := text }
  else
    { d with
      input := text
      stats := d.stats.map fun s => { s with commandsSent := s.commandsSent + 1 }
      frames := d.frames ++ [.text (Command.encode ⟨text⟩)] }

/-- A payload is shown if it is a message, and counted if not. -/
def heard (mode : RenderMode) (d : Display) (payload : String) : Display :=
  match Client.messageLine? mode payload with
  | some line =>
    { d with
      fragments := d.fragments ++ [line ++ lineBreak]
      scrollTop := d.fragments.length + 1
      stats := d.stats.map fun s => { s with messagesReceived := s.messagesReceived + 1 } }
  | none =>
    { d with stats := d.stats.map fun s => { s with parseFailures := s.parseFailures + 1 } }

/-- Some texts and some payloads are handled. -/
def after (mode : RenderMode) (d : Display) (texts payloads : List String) : Display :=
  payloads.foldl (heard mode) (texts.foldl typed d)

/-- A text and a payload may be handled in either order. -/
theorem heard_typed (mode : RenderMode) (d : Display) (text payload : String) :
    (d.typed text).heard mode payload = (d.heard mode payload).typed text := by
  unfold typed heard
  by_cases empty : text = ""
  · cases Client.messageLine? mode payload <;> simp [empty]
  · cases Client.messageLine? mode payload <;> simp [empty, Function.comp_def]

theorem after_typed (mode : RenderMode) (d : Display) (text : String)
    (texts payloads : List String) :
    (d.typed text).after mode texts payloads = d.after mode (text :: texts) payloads := rfl

/-- A payload that is handled before some texts may as well be handled behind them. -/
theorem after_heard (mode : RenderMode) (d : Display) (payload : String)
    (texts payloads : List String) :
    (d.heard mode payload).after mode texts payloads = d.after mode texts (payload :: payloads) := by
  induction texts generalizing d with
  | nil => rfl
  | cons text texts ih => rw [← after_typed, ← after_typed, ← heard_typed, ih]

end Display

/-! ## A console in conversation -/

def Incoming.payload? (item : Incoming) : Option String := item.event?.bind InboundEvent.payload?

def Incoming.isEnd (item : Incoming) : Bool := item.event?.any InboundEvent.isClosed

def Control.text? : Control → Option String
  | .submit text => some text
  | .reconnect | .shutdown => none

/-- A move of a conversation: a text is sent to the loop, something arrives that is no end, the loop
takes a turn, or the writer makes a step. -/
def Move.isChat : Move → Bool
  | .send (.submit _) | .turn _ _ | .write _ => true
  | .ask (.arrive items) => items.all fun item => !item.isEnd
  | _ => false

def Move.texts : Move → List String
  | .send control => control.text?.toList
  | _ => []

def Move.payloads : Move → List String
  | .ask (.arrive items) => items.filterMap Incoming.payload?
  | _ => []

/-- Where no end is among the items, the first event is a payload, and the payloads behind it are the
others. -/
theorem Inbound.firstEvent_payload {items rest : List Incoming} {event : InboundEvent}
    (goesOn : ∀ item ∈ items, item.isEnd = false)
    (next : Inbound.firstEvent items = some (event, rest)) :
    ∃ payload, event = .text payload ∧
      items.filterMap Incoming.payload? = payload :: rest.filterMap Incoming.payload? ∧
      ∀ item ∈ rest, item.isEnd = false := by
  induction items with
  | nil => cases next
  | cons item items ih =>
    obtain ⟨first, later⟩ := List.forall_mem_cons.mp goesOn
    simp only [Inbound.firstEvent] at next
    cases he : item.event? with
    | none =>
      rw [he] at next
      obtain ⟨payload, text, payloads, behind⟩ := ih later next
      have skipped : item.payload? = none := by simp [Incoming.payload?, he]
      exact ⟨payload, text, by rw [List.filterMap_cons_none skipped, payloads], behind⟩
    | some found =>
      obtain ⟨rfl, rfl⟩ : found = event ∧ items = rest := by simpa [he] using next
      cases found with
      | closed detail => simp [Incoming.isEnd, he, InboundEvent.isClosed] at first
      | text payload =>
        have read : item.payload? = some payload := by
          simp [Incoming.payload?, he, InboundEvent.payload?]
        exact ⟨payload, rfl, List.filterMap_cons_some read, later⟩

/-- A loop that still looks for controls goes on behind an event. -/
theorem EventLoop.turn_reads {l : EventLoop} (live : l.stopped = false)
    (heard : l.listening = true) (ready : l.isReady .inbound = true) (attempt : Attempt) :
    l.turn .inbound attempt = { l with client := l.client.processNext.1 } := by
  unfold turn
  rw [if_neg (by simp [live, ready])]
  exact settle_waits (.inl heard)

/-- A session that is read has not read the end of its connection. -/
theorem Client.Reads.inbound {c : Client} {mode : RenderMode} {items : List Incoming}
    (h : Client.Reads mode c.active (some items)) : c.inbound? = some ⟨items, false⟩ := by
  generalize at_ : c.active = active at h
  cases h with
  | opened session => simp [Client.inbound?, at_]

namespace Console

def waiting (w : Console) : List String := w.loop.controls.filterMap Control.text?

def unread (w : Console) : List String :=
  (w.client.inbound?.elim [] Inbound.arrived).filterMap Incoming.payload?

/-- The frames queued on the current connection: those that were written, and those that wait. -/
def frames (w : Console) : List Outgoing :=
  w.current.elim [] (·.writer.written) ++ w.client.sink?.elim [] ChannelSink.queue

def display (w : Console) : Display where
  fragments := w.client.log.fragments
  scrollTop := w.client.log.scrollTop
  input := w.client.log.input
  state := w.client.state?
  stats := w.client.stats?
  frames := w.frames

/-- Whether the channel of the current session is open. -/
def isLinked (w : Console) : Bool := w.client.sink?.any ChannelSink.isConnected

/-- A console in conversation: its loop runs, only texts wait for it, and an open session is read on
which no end has arrived. -/
structure Talks (w : Console) : Prop where
  live : w.loop.stopped = false
  listens : w.loop.listening = true
  senders : w.loop.senders = true
  texts : ∀ control ∈ w.loop.controls, control.text?.isSome = true
  reads : ∃ items, Client.Reads w.client.settings.mode w.client.active (some items) ∧
    ∀ item ∈ items, item.isEnd = false

section
variable {w : Console}

/-- Every open session that a client can come to may be talked on, until an end arrives. -/
theorem talks_of_reachable (live : w.loop.stopped = false) (listens : w.loop.listening = true)
    (senders : w.loop.senders = true)
    (texts : ∀ control ∈ w.loop.controls, control.text?.isSome = true)
    (h : Client.Reachable w.client) (opened : w.client.state? = some .opened)
    (goesOn : ∀ item ∈ w.client.inbound?.elim [] Inbound.arrived, item.isEnd = false) :
    w.Talks := by
  obtain ⟨unread, reads⟩ := Client.reachable_inStep h
  refine ⟨live, listens, senders, texts, ?_⟩
  generalize at_ : w.client.active = active at reads
  cases reads with
  | unstarted => simp [Client.state?, Client.session?, at_] at opened
  | ended session closed => simp [Client.state?, Client.session?, at_, closed] at opened
  | opened session items live renders =>
    refine ⟨items, .opened session items live renders, ?_⟩
    simpa [Client.inbound?, at_] using goesOn

theorem Talks.session (h : w.Talks) :
    ∃ session items, w.client.active = some ⟨session, some ⟨items, false⟩⟩ ∧
      session.state = .opened ∧ session.mode = w.client.settings.mode ∧
      ∀ item ∈ items, item.isEnd = false := by
  obtain ⟨items, reads, goesOn⟩ := h.reads
  generalize w.client.active = active at reads ⊢
  cases reads with
  | opened session _ live renders => exact ⟨session, items, rfl, live, renders, goesOn⟩

end

end Console

/-! ## The handling of a text and of a payload -/

namespace Client

section
variable {c : Client} {a : Active}

theorem deliver_session (c : Client) (items : List Incoming) :
    (c.deliver items).session? = c.session? := by
  unfold deliver session?
  cases c.active <;> rfl

theorem send_inbound (c : Client) (text : String) : (c.send text).1.inbound? = c.inbound? := by
  have step := c.send_step text
  generalize c.send text = sent at step
  cases step with
  | nothing | unstarted | unopened | refused => rfl
  | accepted _ a at_ => simp [inbound?, at_]

theorem submit_inbound (c : Client) (text : String) :
    (c.submit text).1.inbound? = c.inbound? :=
  send_inbound { c with log := c.log.setInput text } text

/-- The sending of a text does not open the channel. -/
theorem submit_linked {sink : ChannelSink} {text : String} (at_ : c.sink? = some sink)
    (linked : (c.submit text).1.sink?.any ChannelSink.isConnected = true) :
    sink.isConnected = true := by
  have sent := send_sink { c with log := c.log.setInput text } text
  obtain ⟨-, sink', found, connected, -⟩ | ⟨-, same⟩ := sent
  · obtain rfl := Option.some.inj (at_.symm.trans found)
    exact connected
  · have kept : (c.submit text).1.sink? = some sink := same.trans at_
    simpa [kept] using linked

theorem submit_accepted (at_ : c.active = some a) (live : a.session.state = .opened)
    (room : a.session.sink.isConnected = true) {text : String} (nonempty : text ≠ "") :
    c.submit text =
      ({ c with
          log := c.log.setInput text
          active := some { a with session := { a.session with
            sink := { a.session.sink with
              queue := a.session.sink.queue ++ [.text (Command.encode ⟨text⟩)] }
            stats := { a.session.stats with
              commandsSent := a.session.stats.commandsSent + 1 } } } }, .ok true) := by
  simp only [submit, send, if_neg nonempty, at_, Session.send_accepted live nonempty room,
    Traffic.sendText_connected room]

end

end Client

namespace Console

section
variable {w : Console} {a : Active}

/-- A text that is sent on an open channel is the line being typed then, and is queued unless it is
empty. -/
theorem submit_display (at_ : w.client.active = some a) (live : a.session.state = .opened)
    (room : a.session.sink.isConnected = true) (text : String) :
    (w.perform (.submit text)).display = w.display.typed text := by
  by_cases empty : text = ""
  · subst empty
    rfl
  · have submitted := Client.submit_accepted at_ live room empty
    have client : (w.perform (.submit text)).client = (w.client.submit text).1 := rfl
    have current : (w.perform (.submit text)).current = w.current.map (·.accept text) := by
      simp only [perform, World.perform, World.answered, world, submitted]
    have written : (w.current.map (·.accept text)).elim [] (·.writer.written) =
        w.current.elim [] (·.writer.written) := by
      cases w.current <;> rfl
    rw [Display.typed, if_neg empty]
    simp [display, frames, client, current, written, submitted, Client.state?, Client.stats?,
      Client.session?, Client.sink?, at_]
    exact ⟨rfl, rfl⟩

/-- A payload that is read leaves a line if it is a message, and is counted in either case. -/
theorem processNext_display {session : Session ChannelSink} {items rest : List Incoming}
    {payload : String} (at_ : w.client.active = some ⟨session, some ⟨items, false⟩⟩)
    (live : session.state = .opened)
    (next : Inbound.firstEvent items = some (.text payload, rest)) :
    (w.perform .processNext).display = w.display.heard session.mode payload ∧
      ∃ session', (w.perform .processNext).client.active = some ⟨session', some ⟨rest, false⟩⟩ ∧
        session'.state = .opened ∧ session'.mode = session.mode := by
  have client : (w.perform .processNext).client =
      Client.dispatch { w.client with active := some ⟨session, some ⟨rest, false⟩⟩ }
        (.text payload) :=
    congrArg Prod.fst (Client.processNext_text at_ next)
  have current : (w.perform .processNext).current = w.current := rfl
  rw [Client.dispatch_payload rfl] at client
  cases parsed : parseMessage payload with
  | ok message =>
    have line : Client.messageLine? session.mode payload =
        some (renderMessage session.mode message) := by
      simp [Client.messageLine?, parsed]
    simp only [Session.handleMessage_parsed live _ parsed] at client
    refine ⟨?_, _, congrArg Client.active client, live, rfl⟩
    simp [display, frames, client, current, Display.heard, line, Client.state?, Client.stats?,
      Client.session?, Client.sink?, at_]
  | error e =>
    have none : Client.messageLine? session.mode payload = none := by
      simp [Client.messageLine?, parsed]
    simp only [Session.handleMessage_rejected live _ parsed] at client
    refine ⟨?_, _, congrArg Client.active client, live, rfl⟩
    simp [display, frames, client, current, Display.heard, none, Client.state?, Client.stats?,
      Client.session?, Client.sink?, at_]

end

/-! ## The writer -/

/-- A step of the writer that leaves the channel open found it open, and lost no frame. -/
theorem write_linked {t : Traffic} {sink : ChannelSink} {works : Bool}
    (linked : (t.write works sink).1.isConnected = true) :
    sink.isConnected = true ∧
      (t.write works sink).2.writer.written ++ (t.write works sink).1.queue =
        t.writer.written ++ sink.queue := by
  have lost : (Writer.abandon sink).isConnected = false := by
    simp [Writer.abandon, ChannelSink.isConnected]
  cases ended : t.writer.ended with
  | true =>
    rw [Traffic.write_ended ended] at linked ⊢
    exact ⟨linked, rfl⟩
  | false =>
    by_cases due : sink.queue ≠ [] ∨ sink.held = false
    · cases works with
      | false =>
        rw [Traffic.write_fails ended due] at linked
        simp [lost] at linked
      | true =>
        cases queue : sink.queue with
        | nil =>
          have released := due.resolve_left (· queue)
          rw [Traffic.write_close ended (.inr ⟨queue, released⟩)] at linked
          simp [lost] at linked
        | cons frame rest =>
          cases frame with
          | text payload =>
            rw [Traffic.write_text ended queue] at linked ⊢
            exact ⟨linked, List.append_assoc _ _ _⟩
          | close => simp [Traffic.write, Writer.step, ended, queue, lost] at linked
    · obtain ⟨queue, held⟩ : sink.queue = [] ∧ sink.held = true := by simpa using due
      rw [Traffic.write_waiting ended queue held] at linked ⊢
      exact ⟨linked, rfl⟩

/-- A step of the writer that leaves the channel open does not show. -/
theorem write_display {w v : Console} {t : Traffic} {sink : ChannelSink} {works : Bool}
    (at_ : w.client.sink? = some sink) (current : w.current = some t)
    (client : v.client = w.client.setSink (t.write works sink).1)
    (now : v.current = some (t.write works sink).2) (linked : v.isLinked = true) :
    w.isLinked = true ∧ v.display = w.display := by
  have after : (w.client.setSink (t.write works sink).1).sink? = some (t.write works sink).1 :=
    Client.setSink_sink at_ _
  have connected : (t.write works sink).1.isConnected = true := by
    simpa [isLinked, client, after] using linked
  obtain ⟨before, written⟩ := write_linked connected
  have frames : v.frames = w.frames := by
    simpa [frames, client, after, now, current, at_] using written
  constructor
  · simpa [isLinked, at_] using before
  · simp only [display, frames, client, Client.setSink_log, Client.setSink_state,
      Client.setSink_stats]

end Console

end JobConsole
