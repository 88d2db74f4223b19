import JobConsole.Socket.Connection

/-!
# Reading a socket

Octets from the server become the items that the reading side of a connection waits for.

A message longer than the limit, frames out of order, and text that is not UTF-8 end the reading.
-/

namespace JobConsole

structure Fragments where
  isText : Bool
  payload : List UInt8
  deriving DecidableEq, Repr

/-- The state of reading: the octets that make no whole frame yet, the message that is being put
together, and whether the reading has ended. -/
structure Reader where
  bytes : List UInt8
  fragments : Option Fragments
  ended : Bool
  deriving DecidableEq, Repr

namespace Reader

def start : Reader := ⟨[], none, false⟩

/-- Codes that a server may close with. -/
def isAllowedCode (code : Nat) : Bool :=
  [1000, 1001, 1002, 1003, 1007, 1008, 1009, 1010, 1011, 1012, 1013].contains code ||
    (3000 ≤ code && code < 5000)

/-- The item for the payload of a close frame. A code that is not allowed is answered by the code
for a breach of the protocol. -/
def closeItem : List UInt8 → Except TransportFault Incoming
  | [] => .ok (.close none)
  | [_] => .error (.protocol .invalidCloseSequence)
  | high :: low :: reason =>
    match Utf8.decode reason with
    | .error fault => .error (.encoding fault.message)
    | .ok cs =>
      let code := numberOf [high, low]
      if isAllowedCode code then .ok (.close (some (code, String.ofList cs)))
      else .ok (.close (some (1002, "Protocol violation")))

def messageItem (f : Fragments) : Except TransportFault Incoming :=
  if f.isText then
    match Utf8.decode f.payload with
    | .ok cs => .ok (.text (String.ofList cs))
    | .error fault => .error (.encoding fault.message)
  else .ok (.binary f.payload)

/-- Refuses fragments of a text that cannot become UTF-8, whatever follows them. -/
def checkFragments (f : Fragments) : Except TransportFault Unit :=
  match f.isText, Utf8.decode f.payload with
  | true, .error (.invalid length begins) =>
    .error (.encoding (Utf8.Fault.invalid length begins).message)
  | _, _ => .ok ()

/-- The fragments with one frame more, within the limit. -/
def join (max : Nat) (f : Fragments) (payload : List UInt8) : Except TransportFault Fragments :=
  let payload := f.payload ++ payload
  if max < payload.length then .error (.messageTooLong payload.length max)
  else .ok { f with payload }

/-- The message that a frame of data belongs to, with the frame. -/
def gather (max : Nat) (fragments : Option Fragments) (frame : Frame) :
    Except TransportFault Fragments :=
  match frame.opcode, fragments with
  | .continuation, none => .error (.protocol .unexpectedContinuation)
  | .continuation, some f => join max f frame.payload
  | .text, some _ => .error (.protocol (.expectedFragment "TEXT"))
  | _, some _ => .error (.protocol (.expectedFragment "BINARY"))
  | .text, none => join max ⟨true, []⟩ frame.payload
  | _, none => join max ⟨false, []⟩ frame.payload

def controlItem (frame : Frame) : Except TransportFault Incoming :=
  if !frame.final then .error (.protocol .fragmentedControl)
  else if 125 < frame.payload.length then .error (.protocol .controlTooLong)
  else
    match frame.opcode with
    | .close => closeItem frame.payload
    | .ping => .ok (.ping frame.payload)
    | _ => .ok (.pong frame.payload)

/-- The message being put together after a frame, and the item that the frame completes. -/
def accept (max : Nat) (fragments : Option Fragments) (frame : Frame) :
    Except TransportFault (Option Fragments × Option Incoming) :=
  if frame.reserved then .error (.protocol .reservedBits)
  else if frame.mask.isSome then .error (.protocol .maskedFrame)
  else if frame.opcode.isControl then
    (controlItem frame).map fun item => (fragments, some item)
  else do
    let f ← gather max fragments frame
    if frame.final then return (none, some (← messageItem f))
    else
      checkFragments f
      return (some f, none)

/-- Whether nothing is read behind an item. -/
def endsReading : Incoming → Bool
  | .close _ | .failed _ | .finished => true
  | _ => false

/-- Reads frames from the octets at hand; each takes two octets at least, so there are no more than
`rounds`. -/
def readFrames (max : Nat) : (rounds : Nat) → Reader → List Incoming → Reader × List Incoming
  | 0, r, rev => (r, rev.reverse)
  | rounds + 1, r, rev =>
    match Frame.read? max r.bytes with
    | .error fault => (⟨[], none, true⟩, (.failed fault :: rev).reverse)
    | .ok none => (r, rev.reverse)
    | .ok (some (frame, rest)) =>
      match accept max r.fragments frame with
      | .error fault => (⟨[], none, true⟩, (.failed fault :: rev).reverse)
      | .ok (fragments, none) => readFrames max rounds ⟨rest, fragments, false⟩ rev
      | .ok (fragments, some item) =>
        if endsReading item then (⟨[], none, true⟩, (item :: rev).reverse)
        else readFrames max rounds ⟨rest, fragments, false⟩ (item :: rev)

def feed (max : Nat) (r : Reader) (bytes : List UInt8) : Reader × List Incoming :=
  if r.ended then (r, [])
  else
    let r := { r with bytes := r.bytes ++ bytes }
    readFrames max (r.bytes.length + 1) r []

/-- The frames that the socket itself answers an item with: a ping is returned, and so is a close. -/
def reply (mask : List UInt8) : Incoming → Option Frame
  | .ping payload => some ⟨true, false, .pong, some mask, payload⟩
  | .close none => some ⟨true, false, .close, some mask, []⟩
  | .close (some (code, why)) =>
    some ⟨true, false, .close, some mask, octetsOf 2 code ++ Utf8.encode why.toList⟩
  | _ => none

/-- The items at the end of the octets: the server is gone without having closed. -/
def finish (r : Reader) : List Incoming :=
  if r.ended then [.finished] else [.failed (.protocol .resetWithoutClosing)]

end Reader

end JobConsole
