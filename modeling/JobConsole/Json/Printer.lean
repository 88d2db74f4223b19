import JobConsole.Json.StringText
import JobConsole.Number.Layout

namespace JobConsole.Json

/-- Magnitudes are written plainly from `0.00001` up to sixteen digits before the point. -/
def numberLayout : Layout := ⟨-5, 15⟩

def writeInteger (n : Int) : List Char :=
  if n < 0 then '-' :: Nat.toDigits 10 n.natAbs else Nat.toDigits 10 n.natAbs

def writeFloat (negative : Bool) (x : Magnitude) : List Char :=
  let text := numberLayout.write x.shortest
  if negative then '-' :: text else text

mutual
def write : Json → List Char
  | .null => ['n', 'u', 'l', 'l']
  | .bool true => ['t', 'r', 'u', 'e']
  | .bool false => ['f', 'a', 'l', 's', 'e']
  | .integer n => writeInteger n
  | .float negative x => writeFloat negative x
  | .string s => writeString s
  | .array [] => ['[', ']']
  | .array (v :: items) => '[' :: (write v ++ writeItems items)
  | .object [] => ['{', '}']
  | .object ((key, v) :: members) =>
    '{' :: (writeString key ++ ':' :: (write v ++ writeMembers members))

/-- The elements behind the first one, each with its comma, and the end of their list. -/
def writeItems : List Json → List Char
  | [] => [']']
  | v :: items => ',' :: (write v ++ writeItems items)

/-- The members behind the first one, each with its comma, and the end of their object. -/
def writeMembers : List (String × Json) → List Char
  | [] => ['}']
  | (key, v) :: members => ',' :: (writeString key ++ ':' :: (write v ++ writeMembers members))
end

def render (v : Json) : String := String.ofList (write v)

end JobConsole.Json
