import JobConsole.Log
import JobConsole.Render
import JobConsole.SessionId

/-!
# Sessions

A session is one logical connection. It begins while the connection is being made, is open from the
first open event on, and ends closed; a session that ended never comes back. Its sink carries what it
sends.

* `Session.send`: sends a command, if the session is open;
* `Session.retire`: ends the session without a word;
* `Session.handleOpen`, `Session.handleMessage`, `Session.handleClose`: what the transport reports.

Operations that can fail return their result beside the session, because a failure may leave traces
in it.
-/

namespace JobConsole

/-- The outbound side of a connection, which takes or refuses frames and can be told to close. -/
class CommandSink (σ : Type) where
  sendText : σ → String → σ × Except ConsoleError Unit
  close : σ → σ

/-- What a session counts: messages shown, payloads that were no messages, commands sent. -/
structure SessionStats where
  messagesReceived : Nat
  parseFailures : Nat
  commandsSent : Nat
  deriving DecidableEq, Repr, Inhabited

structure Session (σ : Type) where
  id : SessionId
  state : ConnectionState
  sink : σ
  mode : RenderMode
  stats : SessionStats

namespace Session

def connectedLine : String := "connected"

def closedLine : String := "connection closed"

variable {σ : Type}

def start (id : SessionId) (sink : σ) (mode : RenderMode) : Session σ :=
  ⟨id, .connecting, sink, mode, ⟨0, 0, 0⟩⟩

variable [CommandSink σ]

/-- Sends a command by its name. Nothing is sent for the empty text. -/
def send (s : Session σ) (text : String) : Session σ × Except ConsoleError Bool :=
  if text = "" then (s, .ok false)
  else if s.state ≠ .opened then (s, .error (.notOpen s.state))
  else
    match CommandSink.sendText s.sink (Command.encode ⟨text⟩) with
    | (sink, .error e) => ({ s with sink }, .error e)
    | (sink, .ok ()) =>
      ({ s with sink, stats := { s.stats with commandsSent := s.stats.commandsSent + 1 } },
        .ok true)

/-- Ends the session and its connection; the log hears nothing of it. -/
def retire (s : Session σ) : Session σ :=
  if s.state.isTerminal then s
  else { s with sink := CommandSink.close s.sink, state := .closed }

/-- The connection was made. The first time, this is logged and the console subscribes to the job
queue; a refusal of that is returned, and the session stays open. -/
def handleOpen (s : Session σ) (log : Log) : Session σ × Log × Except ConsoleError Unit :=
  match s.state.transition .opened with
  | .error _ => (s, log, .ok ())
  | .ok state =>
    match ({ s with state } : Session σ).send Command.watch.name with
    | (s, .ok _) => (s, log.appendLine connectedLine, .ok ())
    | (s, .error e) => (s, log.appendLine connectedLine, .error e)

/-- A payload arrived. While the session is open its message is logged as a line; a payload that is
no message is counted and its error returned. -/
def handleMessage (s : Session σ) (log : Log) (payload : String) :
    Session σ × Log × Except ConsoleError Unit :=
  if s.state ≠ .opened then (s, log, .ok ())
  else
    match parseMessage payload with
    | .error e =>
      ({ s with stats := { s.stats with parseFailures := s.stats.parseFailures + 1 } }, log,
        .error e)
    | .ok message =>
      ({ s with stats := { s.stats with messagesReceived := s.stats.messagesReceived + 1 } },
        log.appendLine (renderMessage s.mode message), .ok ())

/-- The connection ended. The first time, this is logged. -/
def handleClose (s : Session σ) (log : Log) : Session σ × Log :=
  if s.state.isTerminal then (s, log)
  else ({ s with state := .closed }, log.appendLine closedLine)

end Session

/-- A sink that records frames. It can be given a number of frames after which it refuses more, with
an error of its own. -/
structure Recorder where
  frames : List String
  closes : Nat
  limit : Option Nat
  refusal : ConsoleError

instance : CommandSink Recorder where
  sendText r text :=
    if r.limit.any (· ≤ r.frames.length) then (r, .error r.refusal)
    else if r.closes ≠ 0 then (r, .error (.notOpen .closed))
    else ({ r with frames := r.frames ++ [text] }, .ok ())
  close r := { r with closes := r.closes + 1 }

end JobConsole
