import JobConsole.Socket.Fault
import JobConsole.Socket.Octets

namespace JobConsole

inductive Opcode
  | continuation
  | text
  | binary
  | close
  | ping
  | pong
  deriving DecidableEq, Repr

namespace Opcode

def code : Opcode → Nat
  | .continuation => 0
  | .text => 1
  | .binary => 2
  | .close => 8
  | .ping => 9
  | .pong => 10

def ofCode? : Nat → Option Opcode
  | 0 => some .continuation
  | 1 => some .text
  | 2 => some .binary
  | 8 => some .close
  | 9 => some .ping
  | 10 => some .pong
  | _ => none

/-- Control frames may come between the frames of one message. -/
def isControl : Opcode → Bool
  | .close | .ping | .pong => true
  | _ => false

theorem ofCode?_code (o : Opcode) : ofCode? o.code = some o := by cases o <;> rfl

end Opcode

structure Frame where
  final : Bool
  /-- Whether any of the three reserved bits is set. -/
  reserved : Bool
  opcode : Opcode
  /-- The four octets that the payload is combined with on the wire. -/
  mask : Option (List UInt8)
  payload : List UInt8
  deriving DecidableEq, Repr

namespace Frame

/-- A payload combined with the octets of a mask, over and over. -/
def applyMask (mask payload : List UInt8) : List UInt8 :=
  payload.mapIdx fun i b => b ^^^ mask.getD (i % 4) 0

/-- The first `n` octets and the others, if there are that many. -/
def take? (n : Nat) (bytes : List UInt8) : Option (List UInt8 × List UInt8) :=
  if n ≤ bytes.length then some (bytes.splitAt n) else none

/-- How many octets the length takes behind the header, by what stands in the header. -/
def lengthWidth (short : Nat) : Nat := if short = 126 then 2 else if short = 127 then 8 else 0

/-- The length of the payload, the mask, and the octets behind both, if they are there. -/
def readLength? (second : Nat) (bytes : List UInt8) :
    Option (Nat × Option (List UInt8) × List UInt8) := do
  let short := second % 128
  let (long, bytes) ← take? (lengthWidth short) bytes
  let length := if short < 126 then short else numberOf long
  if 128 ≤ second then
    let (mask, bytes) ← take? 4 bytes
    return (length, some mask, bytes)
  else return (length, none, bytes)

/-- The frame that some octets start with, and the octets behind it; none while octets are missing.
A payload longer than `max` is refused before it is there. -/
def read? (max : Nat) : List UInt8 → Except TransportFault (Option (Frame × List UInt8))
  | first :: second :: bytes =>
    match readLength? second.toNat bytes with
    | none => .ok none
    | some (length, mask, bytes) =>
      let first := first.toNat
      match Opcode.ofCode? (first % 16) with
      | none => .error (.protocol (.invalidOpcode (first % 16)))
      | some opcode =>
        if max < length then .error (.messageTooLong length max)
        else
          match take? length bytes with
          | none => .ok none
          | some (payload, rest) =>
            let payload := match mask with
              | some mask => applyMask mask payload
              | none => payload
            .ok (some (⟨decide (128 ≤ first), decide (first / 16 % 8 ≠ 0), opcode, mask, payload⟩,
              rest))
  | _ => .ok none

/-- The length of a payload in the fewest octets, with the bit that tells of a mask. -/
def encodeLength (masked : Bool) (length : Nat) : List UInt8 :=
  let bit := if masked then 128 else 0
  if length < 126 then octetsOf 1 (bit + length)
  else if length < 65536 then octetsOf 1 (bit + 126) ++ octetsOf 2 length
  else octetsOf 1 (bit + 127) ++ octetsOf 8 length

/-- The octets of a frame without reserved bits. -/
def encode (f : Frame) : List UInt8 :=
  octetsOf 1 ((if f.final then 128 else 0) + f.opcode.code) ++
    encodeLength f.mask.isSome f.payload.length ++
    match f.mask with
    | some mask => mask ++ applyMask mask f.payload
    | none => f.payload

end Frame

end JobConsole
