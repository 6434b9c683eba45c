import ContentCapture.Json.Value

namespace ContentCapture
namespace Json

/-!
# JSON as it is written

Not every part of a JSON text is of interest to its reader, and what is of no
interest is not examined beyond its form: it may hold unpaired surrogates,
numbers that no float can hold, and any depth of nesting.  The type `Written`
is therefore a JSON text with nothing decided yet.  Numbers are literals, texts
are pieces, and an object lists its members with all repetitions.

`Written.ofText?` is the grammar.  `Written.value?` decides everything: it
gives the value denoted, in which the last of several members with one key
wins, and fails where one of the checks that were put off does.
-/

/-- A JSON text with nothing decided yet. -/
inductive Written where
  | null
  | bool (value : Bool)
  | number (literal : Literal)
  | text (pieces : List Piece)
  | array (elements : List Written)
  | object (members : List (List Piece × Written))

namespace Written

/-! ## Grammar -/

/-- The characters that may stand between tokens. -/
def isSpace (c : Char) : Bool :=
  c = ' ' || c = '\n' || c = '\t' || c = '\r'

/-- A text from its first token on. -/
def skipSpace (input : List Char) : List Char :=
  input.dropWhile isSpace

mutual
/-- The JSON text at the front of a text, and what follows it.  The number bounds
the nesting of calls. -/
def read : Nat → List Char → Option (Written × List Char)
  | 0, _ => none
  | fuel + 1, input =>
      match skipSpace input with
      | 'n' :: 'u' :: 'l' :: 'l' :: rest => some (.null, rest)
      | 't' :: 'r' :: 'u' :: 'e' :: rest => some (.bool true, rest)
      | 'f' :: 'a' :: 'l' :: 's' :: 'e' :: rest => some (.bool false, rest)
      | '"' :: rest => (Piece.read rest).map fun (pieces, rest) => (.text pieces, rest)
      | '[' :: rest =>
          match skipSpace rest with
          | ']' :: rest => some (.array [], rest)
          | rest => (readElements fuel rest).map fun (elements, rest) => (.array elements, rest)
      | '\x7b' :: rest =>
          match skipSpace rest with
          | '\x7d' :: rest => some (.object [], rest)
          | rest => (readMembers fuel rest).map fun (members, rest) => (.object members, rest)
      | rest => (Literal.read rest).map fun (literal, rest) => (.number literal, rest)

/-- The elements up to the closing bracket, of which there is at least one. -/
def readElements : Nat → List Char → Option (List Written × List Char)
  | 0, _ => none
  | fuel + 1, input => do
      let (element, rest) ← read fuel input
      match skipSpace rest with
      | ',' :: rest =>
          let (elements, rest) ← readElements fuel rest
          return (element :: elements, rest)
      | ']' :: rest => return ([element], rest)
      | _ => none

/-- The members up to the closing brace, of which there is at least one. -/
def readMembers : Nat → List Char → Option (List (List Piece × Written) × List Char)
  | 0, _ => none
  | fuel + 1, input =>
      match skipSpace input with
      | '"' :: rest => do
          let (key, rest) ← Piece.read rest
          match skipSpace rest with
          | ':' :: rest =>
              let (value, rest) ← read fuel rest
              match skipSpace rest with
              | ',' :: rest =>
                  let (members, rest) ← readMembers fuel rest
                  return ((key, value) :: members, rest)
              | '\x7d' :: rest => return ([(key, value)], rest)
              | _ => none
          | _ => none
      | _ => none
end

/-- The JSON text that a text consists of, apart from the space around it.  No
nesting of calls is deeper than the text is long. -/
def ofText? (input : String) : Option Written := do
  let characters := input.toList
  let (written, rest) ← read (characters.length + 1) characters
  guard (skipSpace rest).isEmpty
  return written

/-! ## Denotation -/

/-- The text that the pieces denote. -/
def text? (pieces : List Piece) : Option String :=
  (Piece.characters? pieces).map String.ofList

/-- A member in front of members with distinct keys.  A later member of the same
key takes precedence. -/
def consMember (key : String) (value : Value) (members : List (String × Value)) :
    List (String × Value) :=
  if (members.lookup key).isSome then members else (key, value) :: members

mutual
/-- The value denoted by a JSON text that nests at most so many levels deep. -/
def value? (levels : Nat) : Written → Option Value
  | .null => some .null
  | .bool value => some (.bool value)
  | .number literal => if literal.isFinite then some (.number literal) else none
  | .text pieces => (text? pieces).map .text
  | .array elements =>
      match levels with
      | 0 => none
      | levels + 1 => (elements? levels elements).map .array
  | .object members =>
      match levels with
      | 0 => none
      | levels + 1 => (members? levels members).map .object

def elements? (levels : Nat) : List Written → Option (List Value)
  | [] => some []
  | element :: rest => do
      let element ← value? levels element
      let rest ← elements? levels rest
      return element :: rest

def members? (levels : Nat) : List (List Piece × Written) → Option (List (String × Value))
  | [] => some []
  | (key, value) :: rest => do
      let key ← text? key
      let value ← value? levels value
      let rest ← members? levels rest
      return consMember key value rest
end

/-- How many levels deep a JSON text may nest to be kept. -/
def nestingLimit : Nat := 127

end Written

/-- The value that a text denotes, if all of it may be kept. -/
def Value.ofText? (text : String) : Option Value := do
  let written ← Written.ofText? text
  written.value? Written.nestingLimit

end Json
end ContentCapture
