import JobConsole.Json.Parser

/-!
# Passing over JSON

A value that nobody needs is checked for its form and passed over without being built. It may be
nested to any depth, its numbers may be too large, and its strings may hold half a surrogate pair.

What is open around the current place is kept in a list, so depth costs no recursion.
-/

namespace JobConsole.Json

/-- Passes over a string literal from behind its opening quote, with `used` characters of an escape
still to be passed over. -/
def skipStringFrom : (used : Nat) → List Char → Except Refusal (List Char)
  | _, [] => .error .truncated
  | used + 1, _ :: rest => skipStringFrom used rest
  | 0, c :: rest =>
    if c = '"' then .ok rest
    else if c = '\\' then
      match rest with
      | [] => .error .truncated
      | 'u' :: digits =>
        match hexUnit? digits with
        | some _ => skipStringFrom 5 rest
        | none => .error (hexFault digits).flaw.refusal
      | d :: _ => if (letterEscape? d).isSome then skipStringFrom 1 rest else .error .malformed
    else if c.toNat < 0x20 then .error .malformed
    else skipStringFrom 0 rest

def skipString (cs : List Char) : Except Refusal (List Char) := skipStringFrom 0 cs

def skipDigits : List Char → Except Refusal (List Char)
  | [] => .error .malformed
  | c :: rest => if c.isDigit then .ok (rest.dropWhile Char.isDigit) else .error .malformed

def skipWhole : List Char → Except Refusal (List Char)
  | '0' :: rest => if rest.head?.any Char.isDigit then .error .malformed else .ok rest
  | cs => skipDigits cs

def skipFraction : List Char → Except Refusal (List Char)
  | '.' :: rest => skipDigits rest
  | cs => .ok cs

def skipExponent : List Char → Except Refusal (List Char)
  | [] => .ok []
  | c :: rest =>
    if c = 'e' ∨ c = 'E' then skipDigits (NumberText.readSign rest).2 else .ok (c :: rest)

def skipNumber (cs : List Char) : Except Refusal (List Char) := do
  skipExponent (← skipFraction (← skipWhole cs))

/-- A result of reading of which only what is left, or the kind of its fault, is of interest. -/
def restOf {α : Type} : Scan α → Except Refusal (List Char)
  | .ok (_, rest) => .ok rest
  | .error fault => .error fault.flaw.refusal

/-- Passes over a value that is not nested, from its first character on. -/
def skipScalar : List Char → Except Refusal (List Char)
  | '-' :: rest => skipNumber rest
  | '"' :: rest => skipString rest
  | [] => .error .truncated
  | c :: rest => if c.isDigit then skipNumber (c :: rest) else restOf (scalar (c :: rest))

def skipKey (cs : List Char) : Except Refusal (List Char) :=
  match skipSpace cs with
  | [] => .error .truncated
  | '"' :: rest =>
    match skipString rest with
    | .error refusal => .error refusal
    | .ok rest =>
      match passColon rest with
      | .error fault => .error fault.flaw.refusal
      | .ok rest => .ok rest
  | _ => .error .malformed

/-- What can be open around a value. -/
inductive Bracket
  | list
  | object
  deriving DecidableEq, Repr

def Bracket.closing : Bracket → Char
  | .list => ']'
  | .object => '}'

/-- Passes over what has to come before the next value inside a bracket. -/
def Bracket.skipToValue : Bracket → List Char → Except Refusal (List Char)
  | .list, cs => .ok cs
  | .object, cs => skipKey cs

mutual
/-- Passes over a value with the brackets in `around` open, innermost first, and over all that
follows it up to the end of the outermost. -/
def skipValue : (rounds : Nat) → (around : List Bracket) → List Char → Except Refusal (List Char)
  | 0, _, _ => .error .truncated
  | rounds + 1, around, cs =>
    let opened (b : Bracket) (rest : List Char) : Except Refusal (List Char) :=
      match skipSpace rest with
      | [] => .error .truncated
      | c :: rest =>
        if c = b.closing then skipEnd rounds around rest
        else
          match b.skipToValue (c :: rest) with
          | .error refusal => .error refusal
          | .ok rest => skipValue rounds (b :: around) rest
    match skipSpace cs with
    | '[' :: rest => opened .list rest
    | '{' :: rest => opened .object rest
    | cs =>
      match skipScalar cs with
      | .error refusal => .error refusal
      | .ok rest => skipEnd rounds around rest

/-- Passes over what follows a finished value inside the brackets in `around`. -/
def skipEnd : (rounds : Nat) → (around : List Bracket) → List Char → Except Refusal (List Char)
  | _, [], cs => .ok cs
  | 0, _ :: _, _ => .error .truncated
  | rounds + 1, b :: around, cs =>
    match skipSpace cs with
    | [] => .error .truncated
    | c :: rest =>
      if c = ',' then
        match b.skipToValue rest with
        | .error refusal => .error refusal
        | .ok rest => skipValue rounds (b :: around) rest
      else if c = b.closing then skipEnd rounds around rest
      else .error .malformed
end

end JobConsole.Json
