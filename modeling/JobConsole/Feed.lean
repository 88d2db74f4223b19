import JobConsole.Capacity

/-!
# Feeds

A feed hands the items sent on it to any number of observers. It keeps the newest items for
observers that are behind; one that is too far behind learns how many items it missed and goes on
with the oldest item that is kept.
-/

namespace JobConsole

structure Feed (α : Type) where
  /-- How many items are kept. -/
  capacity : Nat
  /-- How many items were sent so far. -/
  sent : Nat
  /-- The newest items, oldest first. -/
  kept : List α

/-- How far an observer has come: the number of the item that it receives next. -/
structure Observer where
  next : Nat
  deriving DecidableEq, Repr

inductive Delivery (α : Type)
  | item (value : α)
  /-- So many items were given up before they were received. -/
  | missed (count : Nat)
  /-- Nothing is left to receive now. -/
  | nothing
  deriving DecidableEq, Repr

namespace Feed

/-- The capacity that a request is given: the least power of two that is not below it. -/
def grant (request : Nat) : Nat := if request ≤ 1 then 1 else Nat.pow 2 ((request - 1).log2 + 1)

/-- A feed for a requested capacity, on which nothing was sent. An item takes `size` octets, and there
has to be room for as many as the feed can keep. -/
def ofCapacity {α : Type} (size request : Nat) : Except CapacityFault (Feed α) :=
  if request = 0 then .error .empty
  else if maxFeed < request then .error .feed
  else if maxOctets < grant request * size then .error .memory
  else .ok ⟨grant request, 0, []⟩

/-- Sends an item. The oldest one is given up when more than `capacity` would be kept. -/
def send {α : Type} (feed : Feed α) (item : α) : Feed α :=
  let kept := feed.kept ++ [item]
  { feed with sent := feed.sent + 1, kept := kept.drop (kept.length - feed.capacity) }

/-- The number of the oldest item that is kept. -/
def oldest {α : Type} (feed : Feed α) : Nat := feed.sent - feed.kept.length

def observe {α : Type} (feed : Feed α) : Observer := ⟨feed.sent⟩

end Feed

/-- What an observer receives next, and how far it has come then. -/
def Observer.receive {α : Type} (observer : Observer) (feed : Feed α) : Delivery α × Observer :=
  if observer.next < feed.oldest then
    (.missed (feed.oldest - observer.next), ⟨feed.oldest⟩)
  else
    match feed.kept[observer.next - feed.oldest]? with
    | some item => (.item item, ⟨observer.next + 1⟩)
    | none => (.nothing, observer)

end JobConsole
