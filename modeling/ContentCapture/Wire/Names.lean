import ContentCapture.Text.Blank
import ContentCapture.Text.Diagnostic
import ContentCapture.Text.Mark
import ContentCapture.Wire.Form

namespace ContentCapture

/-!
# Names

A component of an app is named by a package and a class, a window by an opaque
token, and a piece of content, such as a chat or a document, by a locus id.
-/

/-- The name of a component of an app. -/
structure ComponentName where
  packageName : String
  className : String
  deriving DecidableEq, Repr

namespace ComponentName

/-- A name is valid if neither part of it is blank. -/
def isValid (name : ComponentName) : Bool :=
  !Text.blank name.packageName && !Text.blank name.className

/-- The package and the class in full. -/
def text (name : ComponentName) : String :=
  name.packageName ++ "/" ++ name.className

/-- The short form: a class that is the package followed by a point and more
drops the package. -/
def shortText (name : ComponentName) : String :=
  match Text.behind? name.packageName.toList name.className.toList with
  | some ('.' :: rest) => name.packageName ++ "/" ++ String.ofList ('.' :: rest)
  | _ => name.text

def diagnostic (name : ComponentName) : String :=
  Text.record "ComponentName"
    [("package_name", Text.quote name.packageName), ("class_name", Text.quote name.className)]

def fieldNames : List String := ["packageName", "className"]

instance : WireForm ComponentName where
  encode name :=
    .object [("packageName", .text name.packageName), ("className", .text name.className)]
  decode? document := do
    let fields ← Json.Fields.read? fieldNames document
    let packageName ← fields.required "packageName" WireForm.decode?
    let className ← fields.required "className" WireForm.decode?
    return ⟨packageName, className⟩

end ComponentName

/-- The token of the window that a session is bound to. -/
structure ActivityToken where
  text : String
  deriving DecidableEq, Repr

namespace ActivityToken

def isEmpty (token : ActivityToken) : Bool :=
  token.text.isEmpty

def diagnostic (token : ActivityToken) : String :=
  Text.tagged "ActivityToken" (Text.quote token.text)

instance : WireForm ActivityToken where
  encode token := .text token.text
  decode? document := (WireForm.decode? document).map ActivityToken.mk

end ActivityToken

/-- The name of a piece of content. -/
structure LocusId where
  text : String
  deriving DecidableEq, Repr

namespace LocusId

def diagnostic (id : LocusId) : String :=
  Text.tagged "LocusId" (Text.quote id.text)

instance : WireForm LocusId where
  encode id := .text id.text
  decode? document := (WireForm.decode? document).map LocusId.mk

end LocusId
end ContentCapture
