import JobConsole.Socket.Fault

namespace JobConsole.Address

def maxLength : Nat := 65534

/-- The characters that may stand in an address as they are. -/
def isPlain (c : Char) : Bool :=
  c.isAlphanum || "!#$&'()*+,-./:;=?@[]_~".toList.contains c

/-- The characters that end the authority. -/
def endsAuthority (c : Char) : Bool := c == '/' || c == '?' || c == '#'

/-- What was found in an authority so far. -/
structure Seen where
  /-- Colons since the last `@` or bracket. -/
  colons : Nat
  opened : Bool
  closed : Bool
  /-- Whether a percent sign came since the last `@` or bracket. -/
  percent : Bool
  /-- Whether the last character was an `@`. -/
  atSign : Bool
  deriving DecidableEq, Repr

/-- No authority has more colons than this in a row of names. -/
def maxColons : Nat := 8

def Seen.step (s : Seen) (c : Char) : Except AddressFault Seen :=
  if c = ':' then
    if maxColons ≤ s.colons then .error .invalidAuthority
    else .ok { s with colons := s.colons + 1, atSign := false }
  else if c = '[' then
    if s.percent || s.opened then .error .invalidAuthority
    else .ok { s with opened := true, atSign := false }
  else if c = ']' then
    if !s.opened || s.closed then .error .invalidAuthority
    else .ok { s with closed := true, colons := 0, percent := false, atSign := false }
  else if c = '@' then .ok { s with colons := 0, percent := false, atSign := true }
  else if c = '%' then .ok { s with percent := true, atSign := false }
  else if isPlain c then .ok { s with atSign := false }
  else .error .invalidCharacter

def Seen.finish (s : Seen) : Except AddressFault Unit :=
  if s.opened != s.closed || 1 < s.colons || s.atSign || s.percent then .error .invalidAuthority
  else .ok ()

def checkAuthority (s : Seen) : List Char → Except AddressFault (List Char)
  | [] => do
    s.finish
    return []
  | c :: rest =>
    if endsAuthority c then do
      s.finish
      return c :: rest
    else
      match s.step c with
      | .error fault => .error fault
      | .ok s => checkAuthority s rest

/-- The characters of a path. Some that ought to be written by their numbers are let through. -/
def isPathChar (c : Char) : Bool :=
  let n := c.toNat
  n == 0x21 || (0x24 ≤ n && n ≤ 0x3B) || n == 0x3D || (0x40 ≤ n && n ≤ 0x5F) ||
    (0x61 ≤ n && n ≤ 0x7A) || n == 0x7C || n == 0x7E || 0x80 ≤ n ||
    c == '"' || c == '{' || c == '}'

def isQueryChar (c : Char) : Bool :=
  let n := c.toNat
  n == 0x21 || (0x24 ≤ n && n ≤ 0x3B) || n == 0x3D || (0x3F ≤ n && n ≤ 0x7E) || 0x80 ≤ n

/-- Checks a query up to the fragment, which may hold anything. -/
def checkQuery (cs : List Char) : Except AddressFault Unit :=
  if (cs.takeWhile (· != '#')).all isQueryChar then .ok () else .error .invalidCharacter

def checkPath : List Char → Except AddressFault Unit
  | [] => .ok ()
  | c :: rest =>
    if c = '?' then checkQuery rest
    else if c = '#' then .ok ()
    else if isPathChar c then checkPath rest
    else .error .invalidCharacter

def checkRest (cs : List Char) : Except AddressFault Unit :=
  match checkAuthority ⟨0, false, false, false, false⟩ cs with
  | .error fault => .error fault
  | .ok rest => if rest.length = cs.length then .error .noAuthority else checkPath rest

/-- Checks an address whose scheme has the given length, with its `://`. -/
def check (scheme : Nat) (address : String) : Except AddressFault Unit :=
  let cs := address.toList
  if maxLength < utf8Length cs then .error .tooLong else checkRest (cs.drop scheme)

/-- What an address names: a host, a port if it is given as a number, and what to ask the host
for. -/
structure Parts where
  host : String
  port : Option Nat
  target : String
  deriving DecidableEq, Repr

/-- The characters behind the last one that satisfies `p`, if any does; else all of them. -/
def behindLast (p : Char → Bool) (cs : List Char) : List Char :=
  (cs.reverse.takeWhile fun c => !p c).reverse

/-- The host of an authority without its user, and the text behind the colon that follows it. A
host in brackets may hold colons. -/
def splitHost : List Char → List Char × List Char
  | '[' :: cs => (cs.takeWhile (· != ']'), (cs.dropWhile (· != ']')).drop 2)
  | cs => (cs.takeWhile (· != ':'), (cs.dropWhile (· != ':')).drop 1)

/-- The parts of an address whose scheme has the given length. The fragment is nobody's business but
the asker's. -/
def parts (scheme : Nat) (address : String) : Parts :=
  let cs := address.toList.drop scheme
  let authority := cs.takeWhile fun c => !endsAuthority c
  let target := (cs.drop authority.length).takeWhile (· != '#')
  let (host, port) := splitHost (behindLast (· == '@') authority)
  { host := String.ofList host
    port := if port.all Char.isDigit then (String.ofList port).toNat? else none
    target := String.ofList (if target.head? = some '/' then target else '/' :: target) }

end JobConsole.Address
