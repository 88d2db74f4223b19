import JobConsole.Command
import JobConsole.ConsoleError
import JobConsole.Json.Printer
import JobConsole.Text.Blank
import JobConsole.Text.Lowercase
import JobConsole.Text.Markup

namespace JobConsole

/-- How messages become lines. -/
inductive RenderMode
  | raw
  | summary
  deriving DecidableEq, Repr

namespace RenderMode

def name : RenderMode → String
  | .raw => "raw"
  | .summary => "summary"

/-- The mode of a name; blanks around it and the case of its letters do not matter. -/
def ofName (text : String) : Except ConsoleError RenderMode :=
  let name := lowercase (trim text)
  if name = "raw" then .ok .raw
  else if name = "summary" then .ok .summary
  else .error (.config (.renderMode name))

end RenderMode

def parseMessage (payload : String) : Except ConsoleError Json :=
  match Json.parse payload with
  | .ok message => .ok message
  | .error fault => .error (.parse fault)

/-- A field of a job as plain text: strings without their quotes, `null` where it is absent. -/
def jobField (job : Json) (key : String) : String :=
  match job.get? key with
  | none => "null"
  | some (.string s) => s
  | some v => v.render

/-- What is said of a job, by the event that happened to it. -/
def jobDetails (event : String) (job : Json) : String :=
  if event = "started" then jobField job "started" ++ " cmd=" ++ jobField job "cmd"
  else if event = "scheduled" then jobField job "scheduled" ++ " cmd=" ++ jobField job "cmd"
  else if event = "finished" then
    jobField job "finished" ++ " result=" ++ jobField job "result" ++ " url=" ++ jobField job "url"
  else "unknown event(error)"

/-- The event a message reports, if it is an event of the watched queue. -/
def watchedEvent? (message : Json) : Option String :=
  if (message.get? Command.key).bind Json.string? = some Command.watch.name then
    (message.get? "event").bind Json.string?
  else none

/-- The sentence for an event, not yet made safe for markup. -/
def eventSummary (event : String) (message : Json) : String :=
  match (message.get? "job").filter Json.isObject with
  | none => "event: " ++ event
  | some job =>
    "event: " ++ event ++ " Job " ++ jobField job "id" ++ " (app=" ++ jobField job "appid" ++
      ") has " ++ event ++ " at " ++ jobDetails event job

/-- The sentence for a message, if it is an event of the watched queue. -/
def summary? (message : Json) : Option String :=
  (watchedEvent? message).map fun event => eventSummary event message

/-- The line of a message. Sentences are made safe for markup; compact texts stand as they are. -/
def renderMessage (mode : RenderMode) (message : Json) : String :=
  match mode with
  | .raw => message.render
  | .summary =>
    match summary? message with
    | some line => Markup.escape line
    | none => message.render

end JobConsole
