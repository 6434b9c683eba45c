import ContentCapture.Json.Document

namespace ContentCapture

/-!
# Wire forms

What crosses the boundary between client and service has a JSON form.  The form
is given once for writing and once for reading, and reading works on every kind
of document.
-/

/-- A type whose values have a JSON form. -/
class WireForm (α : Type) where
  /-- The form of a value. -/
  encode : α → Json.Value
  /-- The value whose form a document is. -/
  decode? : {D : Type} → [Json.Document D] → D → Option α

namespace WireForm

open Json

instance : WireForm Bool where
  encode := .bool
  decode? := Document.bool?

instance : WireForm UInt32 where
  encode value := .ofNat value.toNat
  decode? := Document.word32?

instance : WireForm UInt64 where
  encode value := .ofNat value.toNat
  decode? := Document.word64?

instance : WireForm Int32 where
  encode value := .ofInt value.toInt
  decode? := Document.signed32?

instance : WireForm String where
  encode := .text
  decode? := Document.text?

instance {α : Type} [WireForm α] : WireForm (Option α) where
  encode := .ofOption encode
  decode? := Document.nullable? decode?

instance {α : Type} [WireForm α] : WireForm (List α) where
  encode values := .array (values.map encode)
  decode? := Document.list? decode?

/-- The compact JSON text of a value. -/
def toText {α : Type} [WireForm α] (value : α) : String :=
  (encode value).compact

/-- The value whose form a text is, read from the text directly. -/
def ofText? {α : Type} [WireForm α] (text : String) : Option α := do
  let written ← Written.ofText? text
  decode? written

/-- The value whose form a text is, read from the JSON value that the text
denotes. -/
def ofTextValue? {α : Type} [WireForm α] (text : String) : Option α := do
  let value ← Value.ofText? text
  decode? value

end WireForm
end ContentCapture
