import JobConsole.Text.Quoted
import JobConsole.Text.Utf8

/-!
# Environments

The variables a program is started with. Their values are octets; only those that are UTF-8 can be
read as text, and a variable whose value is not counts as absent.
-/

namespace JobConsole

structure Environment where
  bindings : List (String × List UInt8)
  deriving Repr

/-- A text that cannot be given to a variable, because it contains the character that ends a value.
The program does not go on when it meets one. -/
structure Unassignable where
  name : String
  text : String
  deriving DecidableEq, Repr

def Unassignable.message (u : Unassignable) : String :=
  "failed to set environment variable `" ++ quoted u.name ++ "` to `" ++ quoted u.text ++
    "`: file name contained an unexpected NUL byte"

namespace Environment

/-- The octets behind others, if those come first. -/
def behind? : List UInt8 → List UInt8 → Option (List UInt8)
  | [], bytes => some bytes
  | _ :: _, [] => none
  | a :: first, b :: bytes => if a = b then behind? first bytes else none

/-- The octets that a name stands for. Variables are kept as `NAME=value` and found by what stands
before an equals sign, so a name with an equals sign in it finds the rest of a value that goes on
like the name. -/
def octets? (env : Environment) (name : String) : Option (List UInt8) :=
  let cs := name.toList
  let value := env.bindings.lookup (String.ofList (cs.takeWhile (· != '=')))
  match cs.dropWhile (· != '=') with
  | [] => value
  | _ :: inside => value.bind (behind? (Utf8.encode (inside ++ ['='])))

theorem octets?_of_not_mem (env : Environment) {name : String} (h : '=' ∉ name.toList) :
    env.octets? name = env.bindings.lookup name := by
  have whole (cs : List Char) (h : '=' ∉ cs) :
      cs.takeWhile (· != '=') = cs ∧ cs.dropWhile (· != '=') = [] := by
    induction cs with
    | nil => exact ⟨rfl, rfl⟩
    | cons c rest ih =>
      rw [List.mem_cons, not_or] at h
      have differs : (c != '=') = true := bne_iff_ne.mpr (Ne.symm h.1)
      simp [differs, ih h.2]
  obtain ⟨before, behind⟩ := whole name.toList h
  simp only [octets?, before, behind, String.ofList_toList]

def text? (env : Environment) (name : String) : Option String := (env.octets? name).bind Utf8.text?

/-- The environment with a variable set to a text, whatever it was before. -/
def set (env : Environment) (name : String) (text : String) : Environment :=
  ⟨(name, Utf8.encode text.toList) :: env.bindings.filter (·.1 != name)⟩

def isAssignable (text : String) : Bool := !text.toList.contains '\x00'

/-- Gives a text to a variable that has none yet. -/
def complete (env : Environment) (name : String) (text : String) :
    Except Unassignable Environment :=
  if (env.text? name).isSome then .ok env
  else if isAssignable text then .ok (env.set name text)
  else .error ⟨name, text⟩

end Environment

end JobConsole
