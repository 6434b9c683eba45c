import ContentCapture.Json.Written

namespace ContentCapture
namespace Json

/-!
# Reading records from documents

A record can be read from a JSON text directly or from a value that was made of
one before.  The two kinds of document differ: a text still has its repeated
members, its unexamined parts and its spelling, a value has none of these.  What
a record asks of a document is the same for both, and `Document` lists it.

A record is an object whose members are the fields, or an array of the fields in
their order.  In an object no field may be given twice, and members that are no
fields are passed over unexamined, unless the record is closed.  In an array
fields may be missing at the end only, and nothing may follow them.
-/

/-- What can be asked of a document. -/
class Document (D : Type) where
  /-- Whether it is null. -/
  isNull : D → Bool
  /-- The truth value that it is. -/
  bool? : D → Option Bool
  /-- The unsigned integer that it is. -/
  natural? : D → Option Nat
  /-- The integer that it is. -/
  integer? : D → Option Int
  /-- The text that it is. -/
  text? : D → Option String
  /-- The elements of the array that it is. -/
  elements? : D → Option (List D)
  /-- The members of the object that it is. -/
  members? : D → Option (List (String × D))
  /-- Whether it may be kept, unread, as an immediate part of a whole document. -/
  isKeepable : D → Bool

namespace Written

/-- The members of an object with their keys read. -/
def keyed? : List (List Piece × Written) → Option (List (String × Written))
  | [] => some []
  | (key, value) :: rest => do
      let key ← text? key
      let rest ← keyed? rest
      return (key, value) :: rest

end Written

instance : Document Written where
  isNull
    | .null => true
    | _ => false
  bool?
    | .bool value => some value
    | _ => none
  natural?
    | .number literal => literal.natural?
    | _ => none
  integer?
    | .number literal => literal.integer?
    | _ => none
  text?
    | .text pieces => Written.text? pieces
    | _ => none
  elements?
    | .array elements => some elements
    | _ => none
  members?
    | .object members => Written.keyed? members
    | _ => none
  isKeepable written := (written.value? (Written.nestingLimit - 1)).isSome

instance : Document Value where
  isNull := Value.isNull
  bool?
    | .bool value => some value
    | _ => none
  natural?
    | .number literal => literal.natural?
    | _ => none
  integer?
    | .number literal => literal.integer?
    | _ => none
  text?
    | .text value => some value
    | _ => none
  elements?
    | .array elements => some elements
    | _ => none
  members?
    | .object members => some members
    | _ => none
  isKeepable _ := true

/-! ## Scalars -/

namespace Document

variable {D : Type} [Document D]

def word32? (document : D) : Option UInt32 := do
  let value ← natural? document
  if value < UInt32.size then some (UInt32.ofNat value) else none

def word64? (document : D) : Option UInt64 := do
  let value ← natural? document
  if value < UInt64.size then some (UInt64.ofNat value) else none

def signed32? (document : D) : Option Int32 := do
  let value ← integer? document
  if Int32.minValue.toInt ≤ value && value ≤ Int32.maxValue.toInt then some (Int32.ofInt value)
  else none

/-- Null for nothing, and anything else for something. -/
def nullable? {α : Type} (read : D → Option α) (document : D) : Option (Option α) :=
  if isNull document then some none else (read document).map some

/-- An array all of whose elements can be read. -/
def list? {α : Type} (read : D → Option α) (document : D) : Option (List α) := do
  let elements ← elements? document
  elements.mapM read

end Document

/-! ## Records -/

/-- What a document gives for the field of each name. -/
abbrev Fields (D : Type) := String → Option D

namespace Fields

variable {D : Type} [Document D]

/-- Whether no name is the key of more than one member. -/
def unrepeated (names : List String) (members : List (String × D)) : Bool :=
  names.all fun name => (members.filter fun member => member.1 == name).length ≤ 1

/-- The fields that members of these names give. -/
def ofMembers? (names : List String) (members : List (String × D)) : Option (Fields D) :=
  if unrepeated names members then some fun name => members.lookup name else none

/-- The fields that elements in the order of these names give. -/
def ofElements? (names : List String) (elements : List D) : Option (Fields D) :=
  if elements.length ≤ names.length then some fun name => (names.zip elements).lookup name
  else none

/-- The fields of a record, read from an object or an array. -/
def read? (names : List String) (document : D) : Option (Fields D) :=
  match Document.members? document with
  | some members => ofMembers? names members
  | none => (Document.elements? document).bind (ofElements? names)

/-- The fields of a closed record, which has no members but its fields. -/
def readClosed? (names : List String) (document : D) : Option (Fields D) :=
  match Document.members? document with
  | some members =>
      if members.all fun member => names.contains member.1 then ofMembers? names members
      else none
  | none => (Document.elements? document).bind (ofElements? names)

/-- A field that must be there. -/
def required {α : Type} (fields : Fields D) (name : String) (read : D → Option α) : Option α :=
  (fields name).bind read

/-- A field with a value of its own if it is not there. -/
def optional {α : Type} (fields : Fields D) (name : String) (default : α)
    (read : D → Option α) : Option α :=
  match fields name with
  | none => some default
  | some document => read document

end Fields
end Json
end ContentCapture
