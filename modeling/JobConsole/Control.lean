import JobConsole.Capacity
import JobConsole.Text.Blank
import JobConsole.Text.Lines
import JobConsole.Text.Utf8

/-!
# Controls

What the user asks for, one line each. A few lines are reserved; every other line is a command to be
sent as it was typed.
-/

namespace JobConsole

inductive Control
  | submit (text : String)
  | reconnect
  | shutdown
  deriving DecidableEq, Repr

namespace Control

def reconnectLine : String := ":reconnect"

def shutdownLines : List String := [":quit", ":q"]

/-- What a line asks for. Blanks around the reserved lines do not matter. -/
def ofLine (line : String) : Control :=
  let word := trim line
  if word = reconnectLine then .reconnect
  else if word ∈ shutdownLines then .shutdown
  else .submit line

/-- The lines before the first one that is not UTF-8, without their ends. -/
def textLines : List (List UInt8) → List String
  | [] => []
  | line :: rest =>
    match Utf8.decode line with
    | .ok cs => String.ofList (withoutLineEnd cs) :: textLines rest
    | .error _ => []

def readAll (bytes : List UInt8) : List Control := (textLines (splitLines bytes)).map ofLine

/-- The controls that reach a receiver which goes away after `taken` of them, or never. -/
def delivered (bytes : List UInt8) (taken : Option Nat) : List Control :=
  match taken with
  | some n => (readAll bytes).take n
  | none => readAll bytes

/-- The controls that are delivered through a channel of some capacity, if it can be had. However
many the channel holds, a sender waits until there is room, so its capacity does not show. -/
def deliveredThrough (capacity : Nat) (bytes : List UInt8) (taken : Option Nat) :
    Except CapacityFault (List Control) :=
  if maxChannel < capacity then .error .channel else .ok (delivered bytes taken)

end Control

end JobConsole
