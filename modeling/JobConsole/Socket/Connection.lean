import JobConsole.Session
import JobConsole.Settings
import JobConsole.Socket.Address
import JobConsole.Socket.Frame

/-!
# Connections

A connection has two sides. What the console sends is queued and taken from the queue by a writer;
what arrives from the socket waits until it is read.
-/

namespace JobConsole

inductive Outgoing
  | text (payload : String)
  | close
  deriving DecidableEq, Repr

def Outgoing.text? : Outgoing → Option String
  | .text payload => some payload
  | .close => none

/-- The frame that puts it there. -/
def Outgoing.frame (mask : List UInt8) : Outgoing → Frame
  | .text payload => ⟨true, false, .text, some mask, Utf8.encode payload.toList⟩
  | .close => ⟨true, false, .close, some mask, []⟩

/-- The sending end of a connection's queue. Frames can be queued as long as the session holds the
end and the writer takes from it; the queue outlives the session's hold on it. -/
structure ChannelSink where
  /-- Whether the session still holds the sending end. -/
  held : Bool
  /-- What the writer has not taken yet, oldest first. -/
  queue : List Outgoing
  /-- Whether the writer still takes from the queue. -/
  drained : Bool
  deriving DecidableEq, Repr

namespace ChannelSink

def disconnected : ChannelSink := ⟨false, [], false⟩

def connected : ChannelSink := ⟨true, [], true⟩

def isConnected (sink : ChannelSink) : Bool := sink.held && sink.drained

def enqueue (sink : ChannelSink) (frame : Outgoing) : ChannelSink :=
  if sink.isConnected then { sink with queue := sink.queue ++ [frame] } else sink

/-- Lets go of the sending end without a word. -/
def release (sink : ChannelSink) : ChannelSink := { sink with held := false }

def drain (sink : ChannelSink) : List Outgoing × ChannelSink :=
  (sink.queue, { sink with queue := [] })

end ChannelSink

instance : CommandSink ChannelSink where
  sendText sink payload :=
    if sink.isConnected then (sink.enqueue (.text payload), .ok ())
    else (sink, .error (.notOpen .closed))
  close sink := (sink.enqueue .close).release

/-- What the socket yields: messages, the reasons for its end, and its end. -/
inductive Incoming
  | text (payload : String)
  | binary (payload : List UInt8)
  | ping (payload : List UInt8)
  | pong (payload : List UInt8)
  /-- A frame that was not made part of a message. -/
  | frame
  /-- The server closes, with a code and a reason or without. -/
  | close (reason : Option (Nat × String))
  | failed (fault : TransportFault)
  | finished
  deriving DecidableEq, Repr

inductive InboundEvent
  | text (payload : String)
  /-- The connection ended. Every end is the same to the console; the detail is for diagnostics. -/
  | closed (detail : Option String)
  deriving DecidableEq, Repr

/-- The event that an item is, if it is one. -/
def Incoming.event? : Incoming → Option InboundEvent
  | .text payload => some (.text payload)
  | .close reason => some (.closed (reason.map fun (code, why) => toString code ++ " " ++ why))
  | .failed fault => some (.closed (some fault.message))
  | .finished => some (.closed none)
  | _ => none

/-- The reading side: what arrived and was not read, and whether the end was read. -/
structure Inbound where
  arrived : List Incoming
  ended : Bool
  deriving DecidableEq, Repr

namespace Inbound

/-- The first event among some items, with the items behind it. -/
def firstEvent : List Incoming → Option (InboundEvent × List Incoming)
  | [] => none
  | item :: rest =>
    match item.event? with
    | some event => some (event, rest)
    | none => firstEvent rest

/-- The next event, and what is left to read. Items that are no events are passed over; without an
event there is nothing to do but wait. After the end, only the end is read. -/
def next (inbound : Inbound) : Option (InboundEvent × Inbound) :=
  if inbound.ended then some (.closed none, inbound)
  else
    match firstEvent inbound.arrived with
    | none => none
    | some (.text payload, rest) => some (.text payload, ⟨rest, false⟩)
    | some (.closed detail, _) => some (.closed detail, ⟨[], true⟩)

/-- The reading side when more has arrived. -/
def deliver (inbound : Inbound) (items : List Incoming) : Inbound :=
  { inbound with arrived := inbound.arrived ++ items }

end Inbound

/-- How the network answers an attempt to open a connection. -/
inductive Attempt
  | failed (fault : TransportFault)
  /-- The handshake did not come to an end in time. -/
  | silent
  | accepted
  deriving DecidableEq, Repr

structure Connection where
  sink : ChannelSink
  inbound : Inbound
  deriving DecidableEq, Repr

namespace Connection

/-- How many characters of an address come before its authority. -/
def schemeLength : Nat := "ws://".length

/-- The connection to the endpoint of some settings, if its address can be asked for and the network
answers well. -/
def dial (settings : Settings) (attempt : Attempt) : Except ConsoleError Connection :=
  match Address.check schemeLength settings.endpoint with
  | .error fault => .error (.connect (.address fault))
  | .ok () =>
    match attempt with
    | .failed fault => .error (.connect fault)
    | .silent => .error (.connectTimeout settings.endpoint settings.connectTimeoutSecs)
    | .accepted => .ok ⟨.connected, ⟨[], false⟩⟩

end Connection

end JobConsole
