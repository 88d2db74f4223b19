import JobConsole.Feed
import JobConsole.Json.Printer
import JobConsole.Timestamp

/-!
# The console log

The lines the console shows, in order, with the scroll position of the view and the line being
typed. Entries are only ever added at the end; each is also sent to the observers of the log.
-/

namespace JobConsole

/-- The end of every line. -/
def lineBreak : String := "<br/>"

/-- A fragment of the log, with the time it was added. -/
structure Entry where
  html : String
  timestamp : Timestamp
  deriving DecidableEq, Repr

/-- A text without the line break it ends with, if it does. One break is removed at most. -/
def withoutBreak (s : String) : String :=
  let cs := s.toList
  let ending := lineBreak.toList
  if ending.isSuffixOf cs then String.ofList (cs.take (cs.length - ending.length)) else s

/-- The fragment for displays without markup. -/
def Entry.text (entry : Entry) : String := withoutBreak entry.html

def Entry.toJson (entry : Entry) : Json :=
  .object [("html", .string entry.html), ("timestamp", .string entry.timestamp.text)]

structure Log where
  entries : List Entry
  /-- The first entry in view. -/
  scrollTop : Nat
  /-- The line being typed. -/
  input : String
  feed : Feed Entry
  /-- The time that new entries are stamped with. -/
  clock : Timestamp

namespace Log

/-- The log keeps this many entries for its observers unless another number is asked for. -/
def defaultCapacity : Nat := 1024

/-- The octets that an entry takes in the feed, with what is kept about it there. -/
def entrySize : Nat := 64

/-- An empty log that keeps at least `capacity` entries for its observers. -/
def ofCapacity (capacity : Nat) : Except CapacityFault Log :=
  (Feed.ofCapacity entrySize (max capacity 1)).map fun feed => ⟨[], 0, "", feed, default⟩

def empty : Log := ⟨[], 0, "", ⟨Feed.grant defaultCapacity, 0, []⟩, default⟩

def length (log : Log) : Nat := log.entries.length

def isEmpty (log : Log) : Bool := log.entries.isEmpty

/-- The greatest scroll position. -/
def scrollHeight (log : Log) : Nat := log.entries.length

/-- Adds a fragment as it is and scrolls to the bottom. -/
def append (log : Log) (html : String) : Log :=
  let entry : Entry := ⟨html, log.clock⟩
  let entries := log.entries ++ [entry]
  { log with entries, scrollTop := entries.length, feed := log.feed.send entry }

def appendLine (log : Log) (line : String) : Log := log.append (line ++ lineBreak)

def html (log : Log) : String := String.join (log.entries.map Entry.html)

/-- Moves the view, within its range. -/
def scrollTo (log : Log) (position : Nat) : Log :=
  { log with scrollTop := min position log.scrollHeight }

def setInput (log : Log) (input : String) : Log := { log with input }

def clearInput (log : Log) : Log := { log with input := "" }

def observe (log : Log) : Observer := log.feed.observe

def setClock (log : Log) (clock : Timestamp) : Log := { log with clock }

end Log

end JobConsole
