import JobConsole.Client
import JobConsole.Control

/-!
# The event loop

The loop waits for the user's controls and for events of the current connection, whichever comes
first, and handles each to its end before the next.

The loop stops on a shutdown, and when the controls are gone and no connection is read. Stopping
ends the session.
-/

namespace JobConsole

structure EventLoop where
  client : Client
  /-- The controls that wait, oldest first. -/
  controls : List Control
  /-- Whether more controls can come. -/
  senders : Bool
  /-- Whether the loop still looks for controls. -/
  listening : Bool
  stopped : Bool

inductive Side
  | control
  | inbound
  deriving DecidableEq, Repr

namespace EventLoop

def stop (l : EventLoop) : EventLoop := { l with client := l.client.shutdown, stopped := true }

/-- Stops the loop if nothing is left to wait for. -/
def settle (l : EventLoop) : EventLoop :=
  if !l.listening && !l.client.isReading then l.stop else l

/-- The loop of a client, at its first turn. A client without a session opens one before. -/
def start (client : Client) (attempt : Attempt) : EventLoop :=
  let client := if client.active.isNone then client.start attempt else client
  settle ⟨client, [], true, true, false⟩

def enqueue (l : EventLoop) (control : Control) : EventLoop :=
  if l.senders then { l with controls := l.controls ++ [control] } else l

def closeControls (l : EventLoop) : EventLoop := { l with senders := false }

def deliver (l : EventLoop) (items : List Incoming) : EventLoop :=
  { l with client := l.client.deliver items }

def handle (l : EventLoop) (control : Control) (attempt : Attempt) : EventLoop :=
  match control with
  | .submit text => { l with client := (l.client.submit text).1 }
  | .reconnect => { l with client := l.client.reconnect attempt }
  | .shutdown => l.stop

def isReady (l : EventLoop) : Side → Bool
  | .control => l.listening && (!l.controls.isEmpty || !l.senders)
  | .inbound => (l.client.inbound?.bind Inbound.next).isSome

/-- One turn on a side that is ready. A reconnect makes the attempt that is given. -/
def turn (l : EventLoop) (side : Side) (attempt : Attempt) : EventLoop :=
  if l.stopped || !l.isReady side then l
  else
    match side with
    | .inbound => settle { l with client := l.client.processNext.1 }
    | .control =>
      match l.controls with
      | [] => settle { l with listening := false }
      | control :: rest => settle (handle { l with controls := rest } control attempt)

/-- One turn after the other, each on a side and with the attempt it may make. -/
def run (l : EventLoop) (turns : List (Side × Attempt)) : EventLoop :=
  turns.foldl (fun l t => l.turn t.1 t.2) l

end EventLoop

end JobConsole
