import JobConsole.Client
import JobConsole.Proofs.SessionSteps

/-!
# Runs of a client

What is asked of a client, one operation after the other, and what each does to its session and its
log:

* `ClientOp`, `Client.perform`, `Client.run`: the operations, with their replies, and runs of them;
* `Client.Reads`: how the session of a client stands to what arrived and was not read: a session
  that is read is open, one that is not is closed;
* `perform_reads`: every operation keeps that, and `afterOp` tells what is left to read.
-/

namespace JobConsole

/-- What can happen to a client: what is asked of it, and the arrival of what its server sends. -/
inductive ClientOp
  | start (attempt : Attempt)
  | reconnect (attempt : Attempt)
  | send (text : String)
  | submit (text : String)
  | processNext
  | shutdown
  | arrive (items : List Incoming)
  deriving DecidableEq, Repr

inductive Reply
  | done
  | sent (result : Except ConsoleError Bool)
  | progressed (progress : Progress)

/-- Whether the opening of a connection succeeds, with the address that some settings give. -/
def Attempt.connects (settings : Settings) (attempt : Attempt) : Bool :=
  (Connection.dial settings attempt).isOk

theorem Connection.dial_ok {settings : Settings} {attempt : Attempt} {connection : Connection}
    (h : dial settings attempt = .ok connection) : connection = ⟨.connected, ⟨[], false⟩⟩ := by
  unfold dial at h
  split at h
  · cases h
  · cases attempt with
    | accepted => exact (Except.ok.inj h).symm
    | failed | silent => cases h

namespace Client

def perform (c : Client) : ClientOp → Client × Reply
  | .start attempt => (c.start attempt, .done)
  | .reconnect attempt => (c.reconnect attempt, .done)
  | .send text => let (c, result) := c.send text; (c, .sent result)
  | .submit text => let (c, result) := c.submit text; (c, .sent result)
  | .processNext => let (c, progress) := c.processNext; (c, .progressed progress)
  | .shutdown => (c.shutdown, .done)
  | .arrive items => (c.deliver items, .done)

def run (c : Client) (ops : List ClientOp) : Client := ops.foldl (fun c op => (c.perform op).1) c

@[simp] theorem run_nil (c : Client) : c.run [] = c := rfl

@[simp] theorem run_cons (c : Client) (op : ClientOp) (ops : List ClientOp) :
    c.run (op :: ops) = (c.perform op).1.run ops := rfl

/-! ## Starting a session -/

/-- The session on a connection that was made: it is open, and `watch` was handed to its sink. -/
def openedSession (settings : Settings) (id : SessionId) : Session ChannelSink :=
  ({ Session.start id .connected settings.mode with state := .opened } : Session ChannelSink).emit
    Command.watch.name

def failedSession (settings : Settings) (id : SessionId) : Session ChannelSink :=
  { Session.start id .disconnected settings.mode with state := .closed }

theorem start_connected {c : Client} {attempt : Attempt}
    (h : attempt.connects c.settings = true) :
    c.start attempt =
      { c with
        log := c.log.appendLine Session.connectedLine
        active := some ⟨openedSession c.settings c.ids.draw.1, some ⟨[], false⟩⟩
        ids := c.ids.draw.2 } := by
  unfold Attempt.connects at h
  cases hd : Connection.dial c.settings attempt with
  | error e => simp [hd, Except.isOk, Except.toBool] at h
  | ok connection =>
    obtain rfl := Connection.dial_ok hd
    obtain ⟨session, log⟩ := Session.handleOpen_connecting
      (s := Session.start c.ids.draw.1 ChannelSink.connected c.settings.mode) rfl c.log
    simp only [start, openSession, hd, session, log]
    rfl

theorem start_failed {c : Client} {attempt : Attempt}
    (h : attempt.connects c.settings = false) :
    c.start attempt =
      { c with
        log := c.log.appendLine Session.closedLine
        active := some ⟨failedSession c.settings c.ids.draw.1, none⟩
        ids := c.ids.draw.2 } := by
  unfold Attempt.connects at h
  cases hd : Connection.dial c.settings attempt with
  | ok connection => simp [hd, Except.isOk, Except.toBool] at h
  | error e =>
    have closed := Session.handleClose_live
      (s := Session.start c.ids.draw.1 ChannelSink.disconnected c.settings.mode)
      (by simp [Session.start]) c.log
    simp only [start, openSession, hd, closed]
    rfl

/-! ## What is left to read -/

/-- The session of a client and what arrived on its connection and was not read. A session that is
read is open, and renders as the settings say; one that is not read has ended. -/
inductive Reads (mode : RenderMode) : Option Active → Option (List Incoming) → Prop
  | unstarted : Reads mode none none
  | opened (session : Session ChannelSink) (unread : List Incoming)
      (live : session.state = .opened) (renders : session.mode = mode) :
      Reads mode (some ⟨session, some ⟨unread, false⟩⟩) (some unread)
  | ended (session : Session ChannelSink) (closed : session.state = .closed) :
      Reads mode (some ⟨session, none⟩) none

/-- What is left to read behind an operation. -/
def afterOp (settings : Settings) (unread : Option (List Incoming)) :
    ClientOp → Option (List Incoming)
  | .start attempt | .reconnect attempt =>
    if attempt.connects settings then some [] else none
  | .send _ | .submit _ => unread
  | .processNext =>
    match unread.bind Inbound.firstEvent with
    | some (.text _, rest) => some rest
    | some (.closed _, _) => none
    | none => unread
  | .shutdown => none
  | .arrive items => unread.map (· ++ items)

/-- The line of a payload, if it is a message. -/
def messageLine? (mode : RenderMode) (payload : String) : Option String :=
  match parseMessage payload with
  | .ok message => some (renderMessage mode message)
  | .error _ => none

/-- The line that tells how the opening of a connection turned out. -/
def outcomeLine (settings : Settings) (attempt : Attempt) : String :=
  if attempt.connects settings then Session.connectedLine else Session.closedLine

def linesOf (settings : Settings) (unread : Option (List Incoming)) : ClientOp → List String
  | .start attempt => [outcomeLine settings attempt]
  | .reconnect attempt => [reconnectingLine, outcomeLine settings attempt]
  | .processNext =>
    match unread.bind Inbound.firstEvent with
    | some (.text payload, _) => (messageLine? settings.mode payload).toList
    | some (.closed _, _) => [Session.closedLine]
    | none => []
  | .send _ | .submit _ | .shutdown | .arrive _ => []

section
variable {c : Client} {unread : Option (List Incoming)}

theorem start_reads (c : Client) (attempt : Attempt) :
    Reads c.settings.mode (c.start attempt).active
      (if attempt.connects c.settings then some [] else none) := by
  cases h : attempt.connects c.settings with
  | true =>
    rw [start_connected h]
    exact .opened _ [] (by simp [openedSession]) (by simp [openedSession, Session.start])
  | false =>
    rw [start_failed h]
    exact .ended _ rfl

theorem shutdown_reads (h : Reads c.settings.mode c.active unread) :
    Reads c.settings.mode c.shutdown.active none := by
  simp only [shutdown]
  generalize c.active = active at h ⊢
  cases h with
  | unstarted => exact .unstarted
  | opened session unread live => exact .ended _ (by simp [Session.retire_live, live])
  | ended session closed => exact .ended _ (by rw [Session.retire_closed closed, closed])

theorem send_reads (h : Reads c.settings.mode c.active unread) (text : String) :
    Reads c.settings.mode (c.send text).1.active unread := by
  unfold send
  by_cases ht : text = ""
  · simpa [ht] using h
  · simp only [ht, if_false]
    generalize ha : c.active = active at h
    cases h with
    | unstarted => simpa [ha] using Reads.unstarted
    | opened session unread live renders =>
      exact .opened _ unread (by simp [live]) (by simp [renders])
    | ended session closed => exact .ended _ (by simp [closed])

theorem deliver_reads (h : Reads c.settings.mode c.active unread) (items : List Incoming) :
    Reads c.settings.mode (c.deliver items).active (unread.map (· ++ items)) := by
  simp only [deliver]
  generalize c.active = active at h ⊢
  cases h with
  | unstarted => exact .unstarted
  | opened session unread live renders => exact .opened session _ live renders
  | ended session closed => exact .ended session closed

/-- A payload that arrives in an open session leaves a line if it is a message, and nothing if it is
none. -/
theorem dispatch_text {session : Session ChannelSink} {inbound : Option Inbound}
    (h : c.active = some ⟨session, inbound⟩) (live : session.state = .opened) (payload : String) :
    ∃ session', (c.dispatch (.text payload)).active = some ⟨session', inbound⟩ ∧
      session'.state = .opened ∧ session'.mode = session.mode ∧ session'.sink = session.sink ∧
      (c.dispatch (.text payload)).log =
        (messageLine? session.mode payload).elim c.log c.log.appendLine := by
  cases hp : parseMessage payload with
  | ok message =>
    simp only [dispatch, h, Session.handleMessage_parsed live c.log hp, messageLine?, hp]
    exact ⟨_, rfl, live, rfl, rfl, rfl⟩
  | error e =>
    simp only [dispatch, h, Session.handleMessage_rejected live c.log hp, messageLine?, hp]
    exact ⟨_, rfl, live, rfl, rfl, rfl⟩

theorem dispatch_closed {session : Session ChannelSink} {inbound : Option Inbound}
    (h : c.active = some ⟨session, inbound⟩) (live : session.state = .opened)
    (detail : Option String) :
    c.dispatch (.closed detail) =
      { c with
        log := c.log.appendLine Session.closedLine
        active := some ⟨{ session with state := .closed }, none⟩ } := by
  simp [dispatch, h, Session.handleClose_live (s := session) (by simp [live])]

section
variable {session : Session ChannelSink} {items rest : List Incoming}

theorem processNext_waiting (h : c.active = some ⟨session, some ⟨items, false⟩⟩)
    (hf : Inbound.firstEvent items = none) : c.processNext = (c, .waiting) := by
  simp [processNext, h, Inbound.next, hf]

theorem processNext_text (h : c.active = some ⟨session, some ⟨items, false⟩⟩) {payload : String}
    (hf : Inbound.firstEvent items = some (.text payload, rest)) :
    c.processNext =
      (dispatch { c with active := some ⟨session, some ⟨rest, false⟩⟩ } (.text payload),
        .handled) := by
  simp [processNext, h, Inbound.next, hf]

theorem processNext_closed (h : c.active = some ⟨session, some ⟨items, false⟩⟩)
    (live : session.state = .opened) {detail : Option String}
    (hf : Inbound.firstEvent items = some (.closed detail, rest)) :
    c.processNext =
      ({ c with
          log := c.log.appendLine Session.closedLine
          active := some ⟨{ session with state := .closed }, none⟩ }, .handled) := by
  simp only [processNext, h, Inbound.next, hf, Bool.false_eq_true, if_false]
  rw [dispatch_closed rfl live]

end

/-- The handling of the next event reads it off and logs its line. -/
theorem processNext_spec (h : Reads c.settings.mode c.active unread) :
    Reads c.settings.mode c.processNext.1.active (afterOp c.settings unread .processNext) ∧
      c.processNext.1.log.fragments =
        c.log.fragments ++ (linesOf c.settings unread .processNext).map (· ++ lineBreak) := by
  generalize ha : c.active = active at h
  cases h with
  | unstarted => simpa [processNext, ha, afterOp, linesOf] using Reads.unstarted
  | ended session closed =>
    simpa [processNext, ha, afterOp, linesOf] using Reads.ended session closed
  | opened session items live renders =>
    cases hf : Inbound.firstEvent items with
    | none =>
      rw [processNext_waiting ha hf]
      simpa [afterOp, linesOf, hf, ha] using Reads.opened session items live renders
    | some next =>
      obtain ⟨event, rest⟩ := next
      cases event with
      | closed detail =>
        rw [processNext_closed ha live hf]
        simpa [afterOp, linesOf, hf] using Reads.ended { session with state := .closed } rfl
      | text payload =>
        obtain ⟨session', active, live', mode, -, log⟩ := dispatch_text
          (c := { c with active := some ⟨session, some ⟨rest, false⟩⟩ }) rfl live payload
        rw [processNext_text ha hf]
        refine ⟨?_, ?_⟩
        · simpa [afterOp, hf, active] using Reads.opened session' rest live' (mode.trans renders)
        · simp only [log, linesOf, Option.bind_some, hf, renders]
          cases messageLine? c.settings.mode payload <;> simp

theorem dispatch_settings (c : Client) (event : InboundEvent) :
    (c.dispatch event).settings = c.settings := by
  unfold dispatch
  cases c.active with
  | none => rfl
  | some a => cases event <;> rfl

theorem processNext_settings (c : Client) : c.processNext.1.settings = c.settings := by
  unfold processNext
  split
  · rfl
  · split
    · rfl
    · split
      · rfl
      · exact dispatch_settings _ _

theorem perform_settings (c : Client) (op : ClientOp) :
    (c.perform op).1.settings = c.settings := by
  cases op with
  | start | reconnect | shutdown | arrive => rfl
  | send text | submit text =>
    simp only [perform, submit, send]
    split
    · rfl
    · cases c.active <;> rfl
  | processNext => exact processNext_settings c

/-- Every operation leaves to read what `afterOp` says. -/
theorem perform_reads (h : Reads c.settings.mode c.active unread) (op : ClientOp) :
    Reads c.settings.mode (c.perform op).1.active (afterOp c.settings unread op) := by
  cases op with
  | start attempt => exact start_reads c attempt
  | reconnect attempt => exact start_reads c.makeRoom attempt
  | send text => exact send_reads h text
  | submit text => exact send_reads (c := { c with log := c.log.setInput text }) h text
  | processNext => exact (processNext_spec h).1
  | shutdown => exact shutdown_reads h
  | arrive items => exact deliver_reads h items

theorem start_fragments (c : Client) (attempt : Attempt) :
    (c.start attempt).log.fragments =
      c.log.fragments ++ [outcomeLine c.settings attempt ++ lineBreak] := by
  cases h : attempt.connects c.settings with
  | true => rw [start_connected h]; simp [outcomeLine, h]
  | false => rw [start_failed h]; simp [outcomeLine, h]

theorem send_log (c : Client) (text : String) : (c.send text).1.log = c.log := by
  unfold send
  split
  · rfl
  · cases c.active <;> rfl

/-- Every operation adds to the log what `linesOf` says. -/
theorem perform_fragments (h : Reads c.settings.mode c.active unread) (op : ClientOp) :
    (c.perform op).1.log.fragments =
      c.log.fragments ++ (linesOf c.settings unread op).map (· ++ lineBreak) := by
  cases op with
  | start attempt => exact start_fragments c attempt
  | reconnect attempt =>
    have room : c.makeRoom.log.fragments = c.log.fragments ++ [reconnectingLine ++ lineBreak] := by
      simp [makeRoom]
    have started := start_fragments c.makeRoom attempt
    rw [room, List.append_assoc] at started
    exact started
  | send text | submit text => simp [perform, submit, send_log, linesOf]
  | processNext => exact (processNext_spec h).2
  | shutdown | arrive => simp [perform, shutdown, deliver, linesOf]

end

/-- A client that was just made reads nothing, and its log is empty. -/
theorem ofSettings_spec {settings : Settings} {ids : IdSource} {c : Client}
    (h : ofSettings settings ids = .ok c) :
    c.settings = settings ∧ c.active = none ∧ c.log.fragments = [] := by
  unfold ofSettings at h
  cases hl : Log.ofCapacity settings.logCapacity with
  | error fault => simp [hl, Except.map] at h
  | ok log =>
    obtain rfl : (⟨settings, log, none, ids⟩ : Client) = c := by simpa [hl, Except.map] using h
    exact ⟨rfl, rfl, Log.fragments_ofCapacity hl⟩

end Client

def plainClient : Client := ⟨.defaults, .empty, none, ⟨0, 0⟩⟩

theorem ofSettings_plainClient : Client.ofSettings .defaults ⟨0, 0⟩ = .ok plainClient := rfl

end JobConsole
