/-!
# Capacities

How much a part of the program can be asked to hold. The program does not go on when more is asked
for.
-/

namespace JobConsole

/-- The greatest capacity of a feed that can be asked for. -/
def maxFeed : Nat := 0x7FFFFFFFFFFFFFFF

/-- The greatest capacity of a channel that can be asked for. -/
def maxChannel : Nat := 0x1FFFFFFFFFFFFFFF

/-- The most octets that one block of memory can have. -/
def maxOctets : Nat := 0x7FFFFFFFFFFFFFFF

inductive CapacityFault
  /-- A feed that keeps nothing. -/
  | empty
  /-- A feed for more than `maxFeed` items. -/
  | feed
  /-- A block of memory of more than `maxOctets`. -/
  | memory
  /-- A channel for more than `maxChannel` items. -/
  | channel
  deriving DecidableEq, Repr

def CapacityFault.message : CapacityFault → String
  | .empty => "broadcast channel capacity cannot be zero"
  | .feed => "broadcast channel capacity exceeded `usize::MAX / 2`"
  | .memory => "capacity overflow"
  | .channel =>
    "a semaphore may not have more than MAX_PERMITS permits (" ++ toString maxChannel ++ ")"

end JobConsole
