import ContentCapture.Json.Characters
import ContentCapture.Json.Literal

namespace ContentCapture
namespace Json

/-!
# JSON values

A value is what a reply carries and what is written out.  Texts are sequences
of characters, and the members of an object have distinct keys; they keep the
order in which they were given, which is the order they are printed in.
Printing is compact: no space is written between tokens.
-/

/-- A JSON value. -/
inductive Value where
  | null
  | bool (value : Bool)
  | number (literal : Literal)
  | text (value : String)
  | array (elements : List Value)
  | object (members : List (String × Value))

namespace Value

def ofNat (n : Nat) : Value :=
  .number (.ofNat n)

def ofInt (n : Int) : Value :=
  .number (.ofInt n)

/-- A value that may be missing, as null if it is. -/
def ofOption {α : Type} (encode : α → Value) : Option α → Value
  | none => .null
  | some a => encode a

def isNull : Value → Bool
  | .null => true
  | _ => false

/-- The member of that name, if the value is an object that has one. -/
def member? (key : String) : Value → Option Value
  | .object members => members.lookup key
  | _ => none

mutual
/-- The compact spelling of a value. -/
def print : Value → List Char
  | .null => ['n', 'u', 'l', 'l']
  | .bool true => ['t', 'r', 'u', 'e']
  | .bool false => ['f', 'a', 'l', 's', 'e']
  | .number literal => literal.print
  | .text value => printText value
  | .array elements => '[' :: printElements elements ++ [']']
  | .object members => '\x7b' :: printMembers members ++ ['\x7d']

/-- Elements with commas between them. -/
def printElements : List Value → List Char
  | [] => []
  | [element] => print element
  | element :: next :: rest => print element ++ ',' :: printElements (next :: rest)

/-- Members with commas between them. -/
def printMembers : List (String × Value) → List Char
  | [] => []
  | [(key, value)] => printText key ++ ':' :: print value
  | (key, value) :: next :: rest =>
      printText key ++ ':' :: print value ++ ',' :: printMembers (next :: rest)
end

/-- The compact spelling of a value, as a text. -/
def compact (value : Value) : String :=
  String.ofList value.print

end Value
end Json
end ContentCapture
