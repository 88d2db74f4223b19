import JobConsole.Socket.Connection

/-!
# The console client

The client owns the log and the one live session. Each session belongs to one attempt to open a
connection; how the attempt turns out is given to the operations that make one.

* `Client.start`, `Client.reconnect`: open a session, the first or another one;
* `Client.send`, `Client.submit`: what the user sends;
* `Client.deliver`, `Client.processNext`: what arrives, and the handling of the next event;
* `Client.shutdown`: the end of the session.
-/

namespace JobConsole

/-- The live session and, while its connection is read, the reading side. -/
structure Active where
  session : Session ChannelSink
  inbound : Option Inbound

structure Client where
  settings : Settings
  log : Log
  active : Option Active
  ids : IdSource

/-- What became of the wait for an event. -/
inductive Progress
  /-- No connection is read. -/
  | idle
  /-- Nothing arrived yet. -/
  | waiting
  | handled
  deriving DecidableEq, Repr

namespace Client

def reconnectingLine : String := "reconnecting"

/-- A client with an empty log and no session. -/
def ofSettings (settings : Settings) (ids : IdSource) : Except CapacityFault Client :=
  (Log.ofCapacity settings.logCapacity).map fun log => ⟨settings, log, none, ids⟩

def session? (c : Client) : Option (Session ChannelSink) := c.active.map Active.session

def state? (c : Client) : Option ConnectionState := c.session?.map Session.state

def stats? (c : Client) : Option SessionStats := c.session?.map Session.stats

def inbound? (c : Client) : Option Inbound := c.active.bind Active.inbound

def isReading (c : Client) : Bool := c.inbound?.isSome

/-- The session of an attempt and the log after it. A failed attempt is logged as a close. -/
def openSession (settings : Settings) (id : SessionId) (log : Log) (attempt : Attempt) :
    Active × Log :=
  match Connection.dial settings attempt with
  | .ok connection =>
    let (session, log, _) := (Session.start id connection.sink settings.mode).handleOpen log
    (⟨session, some connection.inbound⟩, log)
  | .error _ =>
    let (session, log) :=
      (Session.start id ChannelSink.disconnected settings.mode).handleClose log
    (⟨session, none⟩, log)

/-- Opens a session in place of the one before. -/
def start (c : Client) (attempt : Attempt) : Client :=
  let (id, ids) := c.ids.draw
  let (active, log) := openSession c.settings id c.log attempt
  { c with log, active := some active, ids }

/-- Ends the current session without a word. It is no longer read. -/
def shutdown (c : Client) : Client :=
  { c with active := c.active.map fun a => ⟨a.session.retire, none⟩ }

/-- Ends the current session and clears the line being typed, to make room for another session. -/
def makeRoom (c : Client) : Client :=
  { c.shutdown with log := c.log.clearInput.appendLine reconnectingLine }

/-- Opens another session in place of the current one, which is ended before. -/
def reconnect (c : Client) (attempt : Attempt) : Client := c.makeRoom.start attempt

/-- What is left of the current session's queue once the session is replaced or given up. -/
def abandonedSink? (c : Client) : Option ChannelSink :=
  c.shutdown.session?.map fun s => s.sink.release

/-- Sends a command on the current session. Nothing is sent for the empty text. -/
def send (c : Client) (text : String) : Client × Except ConsoleError Bool :=
  if text = "" then (c, .ok false)
  else
    match c.active with
    | none => (c, .error (.notOpen .closed))
    | some a =>
      let (session, result) := a.session.send text
      ({ c with active := some { a with session } }, result)

/-- Shows a text as the line being typed, and sends it. -/
def submit (c : Client) (text : String) : Client × Except ConsoleError Bool :=
  send { c with log := c.log.setInput text } text

/-- The writer of the current session takes all that is queued. -/
def drain (c : Client) : List Outgoing × Client :=
  match c.active with
  | none => ([], c)
  | some a =>
    let (queued, sink) := a.session.sink.drain
    (queued, { c with active := some { a with session := { a.session with sink } } })

def deliver (c : Client) (items : List Incoming) : Client :=
  { c with active := c.active.map fun a =>
      { a with inbound := a.inbound.map fun inbound => inbound.deliver items } }

/-- Handles an event of the current session. A payload that is no message changes only the count of
such payloads; an end leaves nothing to read. -/
def dispatch (c : Client) (event : InboundEvent) : Client :=
  match c.active with
  | none => c
  | some a =>
    match event with
    | .text payload =>
      let (session, log, _) := a.session.handleMessage c.log payload
      { c with log, active := some { a with session } }
    | .closed _ =>
      let (session, log) := a.session.handleClose c.log
      { c with log, active := some ⟨session, none⟩ }

/-- Handles the next event of the current session, if it is read and an event is there. -/
def processNext (c : Client) : Client × Progress :=
  match c.active with
  | none => (c, .idle)
  | some a =>
    match a.inbound with
    | none => (c, .idle)
    | some inbound =>
      match inbound.next with
      | none => (c, .waiting)
      | some (event, inbound) =>
        (dispatch { c with active := some { a with inbound := some inbound } } event, .handled)

end Client

end JobConsole
