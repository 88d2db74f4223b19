import JobConsole.ConnectionState
import JobConsole.Json.Fault
import JobConsole.Socket.Fault

/-!
# Errors of the console

Every failure has a cause, a message and a stable number. Numbers from 1000 on are for settings,
from 2000 on for the state of a session, from 3000 on for the transport, from 4000 on for payloads.
-/

namespace JobConsole

inductive SettingsFault
  | port (text : String)
  | renderMode (text : String)
  | blankHost
  | hostCharacters (host : String)
  | described (text : String)
  deriving DecidableEq, Repr

def SettingsFault.message : SettingsFault → String
  | .port text => "invalid CONSOLE_PORT: " ++ text
  | .renderMode text => "invalid render mode: " ++ text ++ " (expected raw or summary)"
  | .blankHost => "CONSOLE_HOST must not be empty"
  | .hostCharacters host => "CONSOLE_HOST contains invalid characters: " ++ host
  | .described text => text

inductive ConsoleError
  | config (fault : SettingsFault)
  /-- The handshake or the transport failed. -/
  | connect (fault : TransportFault)
  /-- The handshake took more than `secs` seconds. -/
  | connectTimeout (url : String) (secs : Nat)
  /-- The session is not open and carries no frames. -/
  | notOpen (state : ConnectionState)
  | invalidTransition (source target : ConnectionState)
  /-- A payload is not JSON. -/
  | parse (fault : Json.ParseError)
  /-- A command cannot be written. -/
  | encode (fault : Json.ParseError)
  deriving DecidableEq, Repr

namespace ConsoleError

def message : ConsoleError → String
  | .config fault => "invalid configuration: " ++ fault.message
  | .connect fault => "connection error: " ++ fault.message
  | .connectTimeout url secs =>
    "connection to " ++ url ++ " timed out after " ++ toString secs ++ " s"
  | .notOpen state => "session is not open (state: " ++ state.name ++ ")"
  | .invalidTransition source target =>
    "invalid state transition: " ++ source.name ++ " -> " ++ target.name
  | .parse fault => "malformed JSON payload: " ++ fault.message
  | .encode fault => "cannot encode command: " ++ fault.message

def code : ConsoleError → Nat
  | .config _ => 1001
  | .notOpen _ => 2001
  | .invalidTransition _ _ => 2002
  | .connect _ => 3001
  | .connectTimeout _ _ => 3002
  | .parse _ => 4001
  | .encode _ => 4002

/-- Whether the connection itself failed, which the console shows like its end. -/
def isTransport : ConsoleError → Bool
  | .connect _ => true
  | .connectTimeout _ _ => true
  | _ => false

/-- The text of the failure behind this one, if another part reported it. -/
def source? : ConsoleError → Option String
  | .connect fault => some fault.message
  | .parse fault => some fault.message
  | .encode fault => some fault.message
  | _ => none

end ConsoleError

/-- The state after a step, if the step is allowed. -/
def ConnectionState.transition (source target : ConnectionState) :
    Except ConsoleError ConnectionState :=
  if source.canBecome target then .ok target else .error (.invalidTransition source target)

end JobConsole
