import JobConsole.Settings.Environment
import JobConsole.Text.Alphanumeric
import JobConsole.Text.Blank
import JobConsole.Text.Lines

/-!
# Environment files

A file of assignments `NAME=value` that complete an environment. Values may be quoted, may run over
several physical lines inside quotes, may be followed by comments, and may refer to variables.

* `EnvFile.logicalLines`: the lines of a file, with those joined that belong together;
* `EnvFile.readLine`: the assignment on a line;
* `EnvFile.load`: an environment completed by a file. Variables that are set already keep their
  values, and the first line that is malformed ends the reading. A text that no variable can have
  ends more than that, if it comes to be assigned.
-/

namespace JobConsole.EnvFile

/-- What is open at a place of a line, as far as it decides where the line ends. -/
inductive Standing
  | complete
  | afterBlank
  | escape
  | weak
  | weakEscape
  | strong
  | strongEscape
  deriving DecidableEq, Repr

/-- The standing that a character has of itself. -/
def Standing.opening (c : Char) (otherwise : Standing) : Standing :=
  if c = '\\' then .escape
  else if c = '"' then .weak
  else if c = '\'' then .strong
  else otherwise

/-- The standing after a character; none at the `#` of a comment. -/
def Standing.next : Standing → Char → Option Standing
  | .complete, c =>
    if isBlank c ∧ c ≠ '\n' ∧ c ≠ '\r' then some .afterBlank else some (.opening c .complete)
  | .afterBlank, c => if c = '#' then none else some (.opening c .complete)
  | .escape, _ => some .complete
  | .weak, c => some (if c = '\\' then .weakEscape else if c = '"' then .complete else .weak)
  | .weakEscape, _ => some .weak
  | .strong, c => some (if c = '\\' then .strongEscape else if c = '\'' then .complete else .strong)
  | .strongEscape, _ => some .strong

/-- The standing at the end of a physical line. If a comment begins in it there is none, and the
characters before the comment are given. -/
def scan (standing : Standing) (rev : List Char) : List Char → Except (List Char) Standing
  | [] => .ok standing
  | c :: rest =>
    match standing.next c with
    | none => .error rev.reverse
    | some standing => scan standing (c :: rev) rest

/-- The logical lines of a file, after the text `joined` of a line that is still open. A fault, which
ends the list, stands as `none`. -/
def logicalLines (joined : List Char) (standing : Standing) :
    List (List UInt8) → List (Option (List Char))
  | [] => if standing = .complete then [] else [none]
  | physical :: rest =>
    match Utf8.decode physical with
    | .error _ => [none]
    | .ok cs =>
      let text := joined ++ cs
      if (dropBlanks text).head? = some '#' then some [] :: logicalLines [] .complete rest
      else
        match scan standing [] cs with
        | .error before => some (joined ++ before) :: logicalLines [] .complete rest
        | .ok .complete => some (withoutLineEnd text) :: logicalLines [] .complete rest
        | .ok standing => logicalLines text standing rest

inductive Quote
  | bare
  | weak
  | strong
  deriving DecidableEq, Repr

inductive Phase
  | inside (quote : Quote)
  /-- Behind a backslash. -/
  | escaped (quote : Quote)
  /-- In the name of a variable that is referred to, written `$NAME`; its characters last first. -/
  | name (quote : Quote) (rev : List Char)
  /-- The same, written with braces. -/
  | braced (quote : Quote) (rev : List Char)
  /-- Behind a blank, where only blanks and a comment may follow. -/
  | ended
  /-- In the comment. -/
  | comment
  deriving DecidableEq, Repr

/-- The characters that an escape stands for. -/
def escapeValue? : Char → Option Char
  | '\\' => some '\\'
  | '\'' => some '\''
  | '"' => some '"'
  | '$' => some '$'
  | ' ' => some ' '
  | 'n' => some '\n'
  | _ => none

/-- A character outside of names and escapes; `out` is the value so far, last character first. -/
def stepInside (quote : Quote) (out : List Char) (c : Char) : Phase × List Char :=
  match quote with
  | .strong => if c = '\'' then (.inside .bare, out) else (.inside .strong, c :: out)
  | .weak =>
    if c = '$' then (.name .weak [], out)
    else if c = '"' then (.inside .bare, out)
    else if c = '\\' then (.escaped .weak, out)
    else (.inside .weak, c :: out)
  | .bare =>
    if c = '$' then (.name .bare [], out)
    else if c = '\'' then (.inside .strong, out)
    else if c = '"' then (.inside .weak, out)
    else if c = '\\' then (.escaped .bare, out)
    else if c = ' ' ∨ c = '\t' then (.ended, out)
    else (.inside .bare, c :: out)

/-- The value so far with what a name stands for. -/
def substitute (lookup : String → String) (rev out : List Char) : List Char :=
  (lookup (String.ofList rev.reverse)).toList.reverse ++ out

/-- One character of a value; none where it is malformed. -/
def step (lookup : String → String) : Phase → List Char → Char → Option (Phase × List Char)
  | .comment, out, _ => some (.comment, out)
  | .ended, out, c =>
    if c = ' ' ∨ c = '\t' then some (.ended, out)
    else if c = '#' then some (.comment, out)
    else none
  | .escaped quote, out, c => (escapeValue? c).map fun d => (.inside quote, d :: out)
  | .name quote rev, out, c =>
    if isAlphanumeric c then some (.name quote (c :: rev), out)
    else if c = '{' ∧ rev = [] then some (.braced quote [], out)
    else if c = '$' then some (.name quote [], substitute lookup rev out)
    else some (.inside quote, c :: substitute lookup rev out)
  | .braced quote rev, out, c =>
    if c = '}' then some (.inside quote, substitute lookup rev out)
    else some (.braced quote (c :: rev), out)
  | .inside quote, out, c => some (stepInside quote out c)

/-- The value at the end of its text; none where something is still open. A name that ends there is
replaced, a backslash is dropped. -/
def finish (lookup : String → String) : Phase → List Char → Option (List Char)
  | .inside .bare, out => some out.reverse
  | .escaped .bare, out => some out.reverse
  | .name .bare rev, out => some (substitute lookup rev out).reverse
  | .ended, out => some out.reverse
  | .comment, out => some out.reverse
  | _, _ => none

def readValueFrom (lookup : String → String) (phase : Phase) (out : List Char) :
    List Char → Option (List Char)
  | [] => finish lookup phase out
  | c :: rest =>
    match step lookup phase out c with
    | none => none
    | some (phase, out) => readValueFrom lookup phase out rest

def readValue (lookup : String → String) (cs : List Char) : Option String :=
  (readValueFrom lookup (.inside .bare) [] cs).map String.ofList

def isKeyStart (c : Char) : Bool := c.isAlpha || c == '_'

def isKeyPart (c : Char) : Bool := c.isAlphanum || c == '_' || c == '.'

/-- The key a line starts with, and what follows it and the blanks behind it. -/
def readKey : List Char → Option (String × List Char)
  | [] => none
  | c :: rest =>
    if isKeyStart c then
      some (String.ofList (c :: rest.takeWhile isKeyPart), dropBlanks (rest.dropWhile isKeyPart))
    else none

/-- What follows an equals sign. -/
def behindEquals : List Char → Option (List Char)
  | '=' :: rest => some rest
  | _ => none

/-- The key of an assignment and what follows its equals sign. The word `export` may stand before
the key, or be the key. -/
def readAssigned (cs : List Char) : Option (String × List Char) := do
  let (key, rest) ← readKey cs
  match behindEquals rest with
  | some rest => return (key, rest)
  | none =>
    if key = "export" then
      let (key, rest) ← readKey rest
      return (key, ← behindEquals rest)
    else none

/-- An assignment. The value is absent where nothing but a comment follows the equals sign. -/
structure Assignment where
  key : String
  value : Option String
  deriving DecidableEq, Repr

inductive Line
  | empty
  | assignment (a : Assignment)
  | malformed
  deriving DecidableEq, Repr

def onlyComment (cs : List Char) : Bool := cs.isEmpty || cs.head? == some '#'

def readLine (lookup : String → String) (cs : List Char) : Line :=
  let cs := dropBlanks (dropTrailingBlanks cs)
  if onlyComment cs then .empty
  else
    match readAssigned cs with
    | none => .malformed
    | some (key, rest) =>
      let rest := dropBlanks rest
      if onlyComment rest then .assignment ⟨key, none⟩
      else
        match readValue lookup rest with
        | some value => .assignment ⟨key, some value⟩
        | none => .malformed

/-- The state of loading: the environment so far, and the values read, last first. -/
structure Loading where
  env : Environment
  known : List Assignment

/-- What a name stands for: its text in the environment, else its last value in the file, else
nothing. -/
def Loading.lookup (s : Loading) (name : String) : String :=
  match s.env.text? name with
  | some text => text
  | none => ((s.known.find? (·.key == name)).bind Assignment.value).getD ""

def Loading.assign (s : Loading) (a : Assignment) : Except Unassignable Loading :=
  (s.env.complete a.key (a.value.getD "")).map fun env => ⟨env, a :: s.known⟩

def loadLines (s : Loading) : List (Option (List Char)) → Except Unassignable Loading
  | [] => .ok s
  | none :: _ => .ok s
  | some line :: rest =>
    match readLine s.lookup line with
    | .empty => loadLines s rest
    | .malformed => .ok s
    | .assignment a =>
      match s.assign a with
      | .ok s => loadLines s rest
      | .error u => .error u

/-- The octets of a file without the mark that some programs put in front of UTF-8. -/
def withoutMark : List UInt8 → List UInt8
  | 0xEF :: 0xBB :: 0xBF :: rest => rest
  | bytes => bytes

/-- The environment completed by a file. -/
def load (env : Environment) (file : List UInt8) : Except Unassignable Environment :=
  (loadLines ⟨env, []⟩ (logicalLines [] .complete (splitLines (withoutMark file)))).map Loading.env

end JobConsole.EnvFile
