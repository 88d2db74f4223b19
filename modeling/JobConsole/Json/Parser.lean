import JobConsole.Json.StringText

/-!
# Reading JSON

Lists and objects may be nested `maxNesting` deep. Every element and every member takes at least one
character, so a loop over them that may run once per character of the text never runs out.
-/

namespace JobConsole.Json

/-- How deep lists and objects may be nested. -/
def maxNesting : Nat := 127

def isSpace (c : Char) : Bool := c == ' ' || c == '\n' || c == '\t' || c == '\r'

def skipSpace (cs : List Char) : List Char := cs.dropWhile isSpace

/-- Reads the rest of a fixed word, which stands for `value`. -/
def word (value : Json) : (letters : List Char) → List Char → Scan Json
  | [], rest => .ok (value, rest)
  | _ :: _, [] => .error (.here .endInValue [])
  | w :: ws, c :: rest =>
    if c = w then word value ws rest else .error (.ahead .expectedWord (c :: rest))

/-- Reads elements from where one is due, up to the end of their list. -/
def elements (item : List Char → Scan Json) :
    (rounds : Nat) → (rev : List Json) → List Char → Scan (List Json)
  | 0, _, _ => .error (.here .endInList [])
  | rounds + 1, rev, cs =>
    match item cs with
    | .error fault => .error fault
    | .ok (v, rest) =>
      match skipSpace rest with
      | [] => .error (.here .endInList [])
      | ']' :: rest => .ok ((v :: rev).reverse, rest)
      | ',' :: rest =>
        match skipSpace rest with
        | ']' :: rest => .error (.ahead .trailingComma (']' :: rest))
        | rest => elements item rounds (v :: rev) rest
      | rest => .error (.ahead .expectedListCommaOrEnd rest)

/-- Reads a key from where one is due. `atEnd` is the flaw of a text that ends there. -/
def readKey (atEnd : Flaw) : List Char → Scan String
  | [] => .error (.here atEnd [])
  | '"' :: rest => readString rest
  | rest => .error (.ahead .expectedStringKey rest)

def passColon (cs : List Char) : Except Fault (List Char) :=
  match skipSpace cs with
  | [] => .error (.here .endInObject [])
  | ':' :: rest => .ok rest
  | rest => .error (.ahead .expectedColon rest)

def readMember (item : List Char → Scan Json) (atEnd : Flaw) (cs : List Char) :
    Scan (String × Json) :=
  match readKey atEnd cs with
  | .error fault => .error fault
  | .ok (key, rest) =>
    match passColon rest with
    | .error fault => .error fault
    | .ok rest =>
      match item rest with
      | .error fault => .error fault
      | .ok (v, rest) => .ok ((key, v), rest)

/-- Reads members from where one is due, up to the end of their object. `atEnd` is the flaw of a
text that ends before the next key. -/
def memberPairs (item : List Char → Scan Json) :
    (rounds : Nat) → (atEnd : Flaw) → (rev : List (String × Json)) → List Char →
      Scan (List (String × Json))
  | 0, _, _, _ => .error (.here .endInObject [])
  | rounds + 1, atEnd, rev, cs =>
    match readMember item atEnd cs with
    | .error fault => .error fault
    | .ok (pair, rest) =>
      match skipSpace rest with
      | [] => .error (.here .endInObject [])
      | '}' :: rest => .ok ((pair :: rev).reverse, rest)
      | ',' :: rest =>
        match skipSpace rest with
        | '}' :: rest => .error (.ahead .trailingComma ('}' :: rest))
        | rest => memberPairs item rounds .endInValue (pair :: rev) rest
      | rest => .error (.ahead .expectedObjectCommaOrEnd rest)

/-- Reads a list from behind its opening bracket. -/
def listTail (item : List Char → Scan Json) (rounds : Nat) (cs : List Char) : Scan (List Json) :=
  match skipSpace cs with
  | [] => .error (.here .endInList [])
  | ']' :: rest => .ok ([], rest)
  | rest => elements item rounds [] rest

/-- Reads an object's members, as they are written, from behind its opening brace. -/
def objectTail (item : List Char → Scan Json) (rounds : Nat) (cs : List Char) :
    Scan (List (String × Json)) :=
  match skipSpace cs with
  | '}' :: rest => .ok ([], rest)
  | rest => memberPairs item rounds .endInObject [] rest

/-- Reads a value that is not nested, from its first character on. -/
def scalar : List Char → Scan Json
  | [] => .error (.here .endInValue [])
  | 'n' :: rest => word .null ['u', 'l', 'l'] rest
  | 't' :: rest => word (.bool true) ['r', 'u', 'e'] rest
  | 'f' :: rest => word (.bool false) ['a', 'l', 's', 'e'] rest
  | '-' :: rest => number true rest
  | '"' :: rest =>
    match readString rest with
    | .ok (s, rest) => .ok (.string s, rest)
    | .error fault => .error fault
  | c :: rest =>
    if c.isDigit then number false (c :: rest) else .error (.ahead .expectedValue (c :: rest))

/-- Reads one value. Up to `nesting` lists and objects may lie inside each other, and each may have
up to `rounds` parts. -/
def value (rounds : Nat) : (nesting : Nat) → List Char → Scan Json
  | 0, cs =>
    match skipSpace cs with
    | '[' :: rest => .error (.ahead .nestingLimit ('[' :: rest))
    | '{' :: rest => .error (.ahead .nestingLimit ('{' :: rest))
    | cs => scalar cs
  | nesting + 1, cs =>
    match skipSpace cs with
    | '[' :: rest =>
      match listTail (value rounds nesting) rounds rest with
      | .ok (items, rest) => .ok (.array items, rest)
      | .error fault => .error fault
    | '{' :: rest =>
      match objectTail (value rounds nesting) rounds rest with
      | .ok (pairs, rest) => .ok (.object (membersOf pairs), rest)
      | .error fault => .error fault
    | cs => scalar cs

/-- Reads a text that holds one value and nothing else. -/
def document (cs : List Char) : Except Fault Json :=
  match value cs.length maxNesting cs with
  | .error fault => .error fault
  | .ok (v, rest) =>
    match skipSpace rest with
    | [] => .ok v
    | rest => .error (.ahead .trailingCharacters rest)

def parse (text : String) : Except ParseError Json :=
  match document text.toList with
  | .ok v => .ok v
  | .error fault => .error (fault.located text.toList)

end JobConsole.Json
