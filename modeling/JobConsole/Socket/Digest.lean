import JobConsole.Socket.Octets

namespace JobConsole

namespace Sha1

/-- The five words that a digest is made of while octets are taken in. -/
structure Words where
  a : UInt32
  b : UInt32
  c : UInt32
  d : UInt32
  e : UInt32
  deriving DecidableEq, Repr

def initial : Words := ⟨0x67452301, 0xEFCDAB89, 0x98BADCFE, 0x10325476, 0xC3D2E1F0⟩

def rotateLeft (x : UInt32) (n : UInt32) : UInt32 := (x <<< n) ||| (x >>> (32 - n))

/-- The function of three words and the constant that belong to a round. -/
def mix (round : Nat) (w : Words) : UInt32 × UInt32 :=
  if round < 20 then ((w.b &&& w.c) ||| ((~~~ w.b) &&& w.d), 0x5A827999)
  else if round < 40 then (w.b ^^^ w.c ^^^ w.d, 0x6ED9EBA1)
  else if round < 60 then ((w.b &&& w.c) ||| (w.b &&& w.d) ||| (w.c &&& w.d), 0x8F1BBCDC)
  else (w.b ^^^ w.c ^^^ w.d, 0xCA62C1D6)

/-- One round. `recent` are the last sixteen words of the schedule, oldest first; each round uses up
the oldest and adds one. -/
def round (state : Words × List UInt32) (number : Nat) : Words × List UInt32 :=
  let (w, recent) := state
  let x := recent.headD 0
  let (f, k) := mix number w
  let a := rotateLeft w.a 5 + f + w.e + k + x
  let next := rotateLeft
    (recent.getD 13 0 ^^^ recent.getD 8 0 ^^^ recent.getD 2 0 ^^^ recent.getD 0 0) 1
  (⟨a, w.a, rotateLeft w.b 30, w.c, w.d⟩, recent.drop 1 ++ [next])

/-- Takes in a block of sixteen words. -/
def block (w : Words) (words : List UInt32) : Words :=
  let (v, _) := (List.range 80).foldl round (w, words)
  ⟨w.a + v.a, w.b + v.b, w.c + v.c, w.d + v.d, w.e + v.e⟩

/-- Octets in groups of `size`, of which there are at most `rounds`. -/
def groups {α : Type} (size : Nat) : (rounds : Nat) → List α → List (List α)
  | 0, _ => []
  | _ + 1, [] => []
  | rounds + 1, xs => xs.take size :: groups size rounds (xs.drop size)

def wordOf (bytes : List UInt8) : UInt32 := bytes.foldl (fun n b => n * 256 + b.toUInt32) 0

/-- Octets filled up to whole blocks: a one bit, zeros, and the length in bits. -/
def pad (bytes : List UInt8) : List UInt8 :=
  let zeros := (64 - (bytes.length + 9) % 64) % 64
  bytes ++ 0x80 :: (List.replicate zeros 0 ++ octetsOf 8 (bytes.length * 8))

def digest (bytes : List UInt8) : List UInt8 :=
  let padded := pad bytes
  let words := (groups 4 padded.length padded).map wordOf
  let w := (groups 16 words.length words).foldl block initial
  [w.a, w.b, w.c, w.d, w.e].flatMap fun x => octetsOf 4 x.toNat

end Sha1

namespace Base64

def alphabet : List Char :=
  "ABCDEFGHIJKLMNOPQRSTUVWXYZabcdefghijklmnopqrstuvwxyz0123456789+/".toList

def digit (n : Nat) : Char := alphabet.getD (n % 64) 'A'

/-- Octets in Base64, filled up with equals signs. -/
def encodeChars : List UInt8 → List Char
  | [] => []
  | [x] =>
    let n := x.toNat * 16
    [digit (n / 64), digit n, '=', '=']
  | [x, y] =>
    let n := (x.toNat * 256 + y.toNat) * 4
    [digit (n / 4096), digit (n / 64), digit n, '=']
  | x :: y :: z :: rest =>
    let n := (x.toNat * 256 + y.toNat) * 256 + z.toNat
    digit (n / 262144) :: digit (n / 4096) :: digit (n / 64) :: digit n :: encodeChars rest

def encode (bytes : List UInt8) : String := String.ofList (encodeChars bytes)

end Base64

end JobConsole
