import JobConsole.Json.Skip

/-!
# Commands

What the console sends to the server: an object with the one member `command`.
-/

namespace JobConsole

open Json

structure Command where
  name : String
  deriving DecidableEq, Repr

namespace Command

def watch : Command := ⟨"watch"⟩

def isWatch (c : Command) : Bool := c == watch

/-- The key of the member that holds the name. -/
def key : String := "command"

def encode (c : Command) : String :=
  String.ofList ('{' :: (writeString key ++ ':' :: (writeString c.name ++ ['}'])))

/-- The refusal of a value that is no string, read from its first character on. Numbers and words
are read to their end first; lists and objects are not read at all. -/
def refuseOther : List Char → Refusal
  | '[' :: _ => .mismatched
  | '{' :: _ => .mismatched
  | cs =>
    match scalar cs with
    | .ok _ => .mismatched
    | .error fault => fault.flaw.refusal

/-- Reads the name, which has to be a string. -/
def readName (cs : List Char) : Except Refusal (String × List Char) :=
  match skipSpace cs with
  | '"' :: rest =>
    match readString rest with
    | .ok (name, rest) => .ok (name, rest)
    | .error fault => .error fault.flaw.refusal
  | cs => .error (refuseOther cs)

/-- Reads the value of the member `k`, from the colon on: the name found so far, and what is left. A
second name is refused before it is read. -/
def readValue (rounds : Nat) (k : String) (name : Option String) (cs : List Char) :
    Except Refusal (Option String × List Char) :=
  if k = key ∧ name.isSome then .error .mismatched
  else
    match passColon cs with
    | .error fault => .error fault.flaw.refusal
    | .ok rest =>
      if k = key then
        match readName rest with
        | .ok (name, rest) => .ok (some name, rest)
        | .error refusal => .error refusal
      else
        match skipValue rounds [] rest with
        | .ok rest => .ok (name, rest)
        | .error refusal => .error refusal

/-- The command of an object whose members gave this name. -/
def ofName (name : Option String) (rest : List Char) : Except Refusal (Command × List Char) :=
  match name with
  | some name => .ok (⟨name⟩, rest)
  | none => .error .mismatched

/-- Reads members from where one is due, up to the end of the object. -/
def readMembers (limit : Nat) : (rounds : Nat) → (atEnd : Flaw) → (name : Option String) →
    List Char → Except Refusal (Command × List Char)
  | 0, _, _, _ => .error .truncated
  | rounds + 1, atEnd, name, cs =>
    match readKey atEnd cs with
    | .error fault => .error fault.flaw.refusal
    | .ok (k, rest) =>
      match readValue limit k name rest with
      | .error refusal => .error refusal
      | .ok (name, rest) =>
        match skipSpace rest with
        | [] => .error .truncated
        | '}' :: rest => ofName name rest
        | ',' :: rest =>
          match skipSpace rest with
          | '}' :: _ => .error .malformed
          | rest => readMembers limit rounds .endInValue name rest
        | _ => .error .malformed

def readObject (limit : Nat) (cs : List Char) : Except Refusal (Command × List Char) :=
  match skipSpace cs with
  | '}' :: rest => ofName none rest
  | rest => readMembers limit limit .endInObject none rest

def readList (cs : List Char) : Except Refusal (Command × List Char) :=
  match skipSpace cs with
  | [] => .error .truncated
  | ']' :: _ => .error .mismatched
  | cs =>
    match readName cs with
    | .error refusal => .error refusal
    | .ok (name, rest) =>
      match skipSpace rest with
      | [] => .error .truncated
      | ']' :: rest => .ok (⟨name⟩, rest)
      | _ => .error .malformed

def read (limit : Nat) (cs : List Char) : Except Refusal (Command × List Char) :=
  match skipSpace cs with
  | '{' :: rest => readObject limit rest
  | '[' :: rest => readList rest
  | '"' :: rest =>
    match readString rest with
    | .ok _ => .error .mismatched
    | .error fault => .error fault.flaw.refusal
  | cs => .error (refuseOther cs)

/-- The command that a text holds, or why it holds none. -/
def decode (text : String) : Except Refusal Command :=
  let cs := text.toList
  match read (cs.length + 1) cs with
  | .error refusal => .error refusal
  | .ok (c, rest) => if skipSpace rest = [] then .ok c else .error .malformed

end Command

end JobConsole
