import JobConsole.EventLoop

/-!
# The terminal program

The program shows the console log on its output and takes controls from its input. Three parties work
beside each other: a reader that sends a control for each line of the input, a watcher that sends a
shutdown when the user interrupts the program, and the event loop. Controls can come as long as the
reader or the watcher holds on to the sending end.
-/

namespace JobConsole

structure Terminal where
  loop : EventLoop
  /-- The controls the reader has not sent yet. -/
  unsent : List Control
  /-- Whether the reader holds the sending end. -/
  reading : Bool
  /-- Whether the watcher holds the sending end. -/
  watching : Bool

namespace Terminal

def start (client : Client) (input : List UInt8) (attempt : Attempt) : Terminal :=
  ⟨EventLoop.start client attempt, Control.readAll input, true, true⟩

/-- The terminal after a party may have let go of the sending end. -/
def release (t : Terminal) : Terminal :=
  if t.reading || t.watching then t else { t with loop := t.loop.closeControls }

def endReading (t : Terminal) : Terminal :=
  if !t.reading then t else release { t with reading := false }

/-- The reader sends its next control, or ends if it has none. -/
def read (t : Terminal) : Terminal :=
  if !t.reading then t
  else
    match t.unsent with
    | [] => t.endReading
    | control :: rest => { t with loop := t.loop.enqueue control, unsent := rest }

def interrupt (t : Terminal) : Terminal :=
  if !t.watching then t
  else release { t with loop := t.loop.enqueue .shutdown, watching := false }

/-- The watcher ends without a shutdown. -/
def endWatching (t : Terminal) : Terminal :=
  if !t.watching then t else release { t with watching := false }

/-- The steps of the three parties, and the arrival of what the server sends. -/
inductive Step : Terminal → Terminal → Prop
  | read (t : Terminal) : Step t t.read
  /-- The input cannot be read any farther, or the loop is gone. -/
  | endReading (t : Terminal) : Step t t.endReading
  | interrupt (t : Terminal) : Step t t.interrupt
  /-- Interrupts cannot be waited for, or the loop is gone. -/
  | endWatching (t : Terminal) : Step t t.endWatching
  | deliver (t : Terminal) (items : List Incoming) :
      Step t { t with loop := t.loop.deliver items }
  | turn (t : Terminal) (side : Side) (attempt : Attempt) :
      Step t { t with loop := t.loop.turn side attempt }

inductive Reachable (client : Client) (input : List UInt8) : Terminal → Prop
  | start (attempt : Attempt) : Reachable client input (start client input attempt)
  | step {t u : Terminal} : Reachable client input t → Step t u → Reachable client input u

/-- The lines of a log behind the first `shown`, as they are shown. -/
def linesFrom (shown : Nat) (log : Log) : String :=
  String.join ((log.entries.drop shown).map fun entry => entry.text ++ "\n")

def errorLine (e : ConsoleError) : String := "Error: " ++ e.message ++ "\n"

/-- A folder, by its path, and the folders above it. Each is tried for an environment file. -/
def foldersAbove (path : String) : List String :=
  let names := path.splitOn "/"
  (List.range names.length).map fun n => "/".intercalate (names.take (names.length - n))

/-- How a program ends. -/
inductive Ending
  | exited (code : Nat)
  /-- The program stopped on a failure that it does not handle. -/
  | aborted
  deriving DecidableEq, Repr

structure Report where
  ending : Ending
  output : String
  errors : String
  deriving DecidableEq, Repr

inductive Outcome
  | ended (report : Report)
  /-- The input is used up, and the program waits for ever. -/
  | endless
  deriving DecidableEq, Repr

/-- The reader goes on, and the loop takes a turn on its controls. -/
def advance (attempt : Attempt) (t : Terminal) : Terminal :=
  { t.read with loop := t.read.loop.turn .control attempt }

/-- Reads the input control by control, and its end. -/
def runInput (attempt : Attempt) (t : Terminal) : Terminal :=
  (t.unsent.foldl (fun t _ => t.advance attempt) t).advance attempt

/-- The program in an environment that a file may complete, on a whole input. Every attempt to open a
connection turns out the same, no server says anything, and the user does not interrupt the program,
so a loop that has not stopped at the end of the input never stops. -/
def run (env : Environment) (file : Option (List UInt8)) (input : List UInt8) (attempt : Attempt)
    (ids : IdSource) : Outcome :=
  match Settings.load env file with
  | .error u => .ended ⟨.aborted, "", u.message ++ "\n"⟩
  | .ok (.error e) => .ended ⟨.exited 1, "", errorLine e⟩
  | .ok (.ok settings) =>
    match Client.ofSettings settings ids with
    | .error fault => .ended ⟨.aborted, "", fault.message ++ "\n"⟩
    | .ok client =>
      let loop := (runInput attempt (start client input attempt)).loop
      if loop.stopped then .ended ⟨.exited 0, linesFrom 0 loop.client.log, ""⟩ else .endless

end Terminal

end JobConsole
