import JobConsole.Log
import JobConsole.Render
import JobConsole.Settings.EnvFile

namespace JobConsole

structure Settings where
  host : String
  port : Nat
  path : String
  connectTimeoutSecs : Nat
  maxPayloadBytes : Nat
  mode : RenderMode
  logCapacity : Nat
  deriving DecidableEq, Repr

namespace Settings

def defaultPath : String := "/cui"

def defaultMaxPayloadBytes : Nat := 1024 * 1024

def defaults : Settings where
  host := "127.0.0.1"
  port := 9090
  path := defaultPath
  connectTimeoutSecs := 10
  maxPayloadBytes := defaultMaxPayloadBytes
  mode := .raw
  logCapacity := Log.defaultCapacity

def maxPort : Nat := 0xFFFF

def maxCount : Nat := 0xFFFFFFFFFFFFFFFF

/-- A number in decimal digits, with a plus sign or without, up to `limit`. -/
def readCount (limit : Nat) (text : String) : Option Nat :=
  let digits := match text.toList with
    | '+' :: rest => rest
    | cs => cs
  if digits ≠ [] ∧ digits.all Char.isDigit then
    let n := digits.foldl (fun n c => n * 10 + (c.toNat - '0'.toNat)) 0
    if n ≤ limit then some n else none
  else none

/-- A path with exactly one slash in front, and no blanks around it. -/
def normalizePath (path : String) : String :=
  String.ofList ('/' :: (trim path).toList.dropWhile (· == '/'))

/-- The characters that would end a host inside an address. -/
def isHostBreak (c : Char) : Bool := c == '/' || c == ' ' || c == '?' || c == '#'

/-- Refuses a host that is blank or would break the address. -/
def validate (s : Settings) : Except ConsoleError Unit :=
  if trim s.host = "" then .error (.config .blankHost)
  else if s.host.toList.any isHostBreak then .error (.config (.hostCharacters s.host))
  else .ok ()

def endpoint (s : Settings) : String := "ws://" ++ s.host ++ ":" ++ toString s.port ++ s.path

def readPort (text : Option String) : Except ConsoleError Nat :=
  match text with
  | none => .ok defaults.port
  | some text =>
    match readCount maxPort text with
    | some port => .ok port
    | none => .error (.config (.port text))

def readMode (text : Option String) : Except ConsoleError RenderMode :=
  match text with
  | none => .ok defaults.mode
  | some text => RenderMode.ofName text

/-- The count that a variable is set to. One that is no count is passed over. -/
def countOr (text : Option String) (otherwise : Nat) : Nat :=
  (text.bind (readCount maxCount)).getD otherwise

def ofEnvironment (env : Environment) : Except ConsoleError Settings := do
  let port ← readPort (env.text? "CONSOLE_PORT")
  let mode ← readMode (env.text? "CONSOLE_RENDER_MODE")
  let settings : Settings := {
    host := (env.text? "CONSOLE_HOST").getD defaults.host
    port
    path := normalizePath ((env.text? "CONSOLE_PATH").getD defaults.path)
    connectTimeoutSecs :=
      countOr (env.text? "CONSOLE_CONNECT_TIMEOUT_SECS") defaults.connectTimeoutSecs
    maxPayloadBytes := countOr (env.text? "CONSOLE_MAX_PAYLOAD_BYTES") defaults.maxPayloadBytes
    mode
    logCapacity := max (countOr (env.text? "CONSOLE_LOG_CAPACITY") defaults.logCapacity) 1 }
  settings.validate
  return settings

/-- The settings of an environment completed by a file, if there is one. -/
def load (env : Environment) (file : Option (List UInt8)) :
    Except Unassignable (Except ConsoleError Settings) :=
  match file with
  | none => .ok (ofEnvironment env)
  | some bytes => (EnvFile.load env bytes).map ofEnvironment

end Settings

end JobConsole
