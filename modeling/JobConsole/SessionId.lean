/-!
# Session ids

An id tells a session from all others. It is a number of 128 bits, of which six mark it as a random
identifier (version 4, variant 10) and 122 are free.
-/

namespace JobConsole

structure SessionId where
  bits : Nat
  deriving DecidableEq, Repr

namespace SessionId

/-- How many bits of an id are free. -/
def freeBits : Nat := 122

/-- The id with these free bits. They are, from the top, 48 bits before the version, 12 before the
variant, and 62 behind it. -/
def ofFreeBits (n : Nat) : SessionId :=
  let n := n % Nat.pow 2 freeBits
  let high := n / Nat.pow 2 74
  let middle := n / Nat.pow 2 62 % Nat.pow 2 12
  let low := n % Nat.pow 2 62
  ⟨(((high * 16 + 4) * Nat.pow 2 12 + middle) * 4 + 2) * Nat.pow 2 62 + low⟩

def digits (id : SessionId) : List Char :=
  let ds := Nat.toDigits 16 id.bits
  List.replicate (32 - ds.length) '0' ++ ds

def short (id : SessionId) : String := String.ofList (id.digits.take 8)

/-- Whether the six fixed bits are set as they have to be. -/
def isWellFormed (id : SessionId) : Bool :=
  id.bits / Nat.pow 2 76 % 16 == 4 && id.bits / Nat.pow 2 62 % 4 == 2 &&
    decide (id.bits < Nat.pow 2 128)

/-- Whether no two of some ids are the same: in order, no id is next to itself. -/
def areDistinct (ids : List SessionId) : Bool :=
  let ordered := (ids.map bits).mergeSort
  (ordered.zip (ordered.drop 1)).all fun pair => pair.1 != pair.2

end SessionId

/-- A source of ids: where it started and how many were drawn. -/
structure IdSource where
  seed : Nat
  drawn : Nat
  deriving DecidableEq, Repr

namespace IdSource

/-- Successive ids lie this far apart, modulo their number. The stride is odd, so no id comes again
before all others did. -/
def stride : Nat := 0x9E3779B97F4A7C15F39CC0605CEDC83

def draw (source : IdSource) : SessionId × IdSource :=
  (.ofFreeBits (source.seed + source.drawn * stride), { source with drawn := source.drawn + 1 })

def drawMany : (count : Nat) → IdSource → List SessionId
  | 0, _ => []
  | count + 1, source => source.draw.1 :: drawMany count source.draw.2

end IdSource

end JobConsole
