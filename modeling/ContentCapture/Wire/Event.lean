import ContentCapture.Wire.CaptureFlags
import ContentCapture.Wire.Names

namespace ContentCapture

/-!
# Events and session starts

A session reports that it was started and that it was finished.  On the wire the
kind of an event is told by a tag, and an event carries the fields of its kind
beside its own.  All members of such an object but its own fields are put aside
until the tag is known, so that they are kept rather than passed over, whether
the kind turns out to have a use for them or not.
-/

/-- The number by which a client tells its sessions apart. -/
structure SessionId where
  value : UInt64
  deriving DecidableEq, Repr

namespace SessionId

instance : Inhabited SessionId := ⟨⟨0⟩⟩

def text (id : SessionId) : String :=
  Text.ofNat id.value.toNat

def diagnostic (id : SessionId) : String :=
  Text.tagged "SessionId" id.text

instance : WireForm SessionId where
  encode id := WireForm.encode id.value
  decode? document := (WireForm.decode? document).map SessionId.mk

end SessionId

/-- What happened in a session. -/
inductive EventKind where
  | started (token : ActivityToken) (component : ComponentName)
  | finished
  deriving DecidableEq, Repr

namespace EventKind

/-- The tags of the two kinds. -/
inductive Tag where
  | started
  | finished
  deriving DecidableEq, Repr

namespace Tag

def ofName? (name : String) : Option Tag :=
  if name = "session_started" then some .started
  else if name = "session_finished" then some .finished
  else none

def ofNumber? (number : Nat) : Option Tag :=
  if number = 0 then some .started
  else if number = 1 then some .finished
  else none

end Tag

def tag : EventKind → Tag
  | .started _ _ => .started
  | .finished => .finished

def typeName : EventKind → String
  | .started _ _ => "session_started"
  | .finished => "session_finished"

/-- The members that tell the kind of an event. -/
def members : EventKind → List (String × Json.Value)
  | .started token component =>
      [("type", .text "session_started"), ("token", WireForm.encode token),
       ("component", WireForm.encode component)]
  | .finished => [("type", .text "session_finished")]

variable {D : Type} [Json.Document D]

/-- The kind with that tag whose fields a record gives. -/
def ofFields? (tag : Tag) (fields : Option (Json.Fields D)) : Option EventKind :=
  match tag with
  | .started => do
      let fields ← fields
      let token ← fields.required "token" WireForm.decode?
      let component ← fields.required "component" WireForm.decode?
      return .started token component
  | .finished => some .finished

def fieldNames : List String := ["token", "component"]

/-- The kind that members tell, one of which is the tag.  All of them must be
such as may be kept. -/
def ofMembers? (readTag : D → Option Tag) (members : List (String × D)) : Option EventKind :=
  match members.partition fun member => member.1 == "type" with
  | ([(_, document)], others) => do
      let tag ← readTag document
      guard (others.all fun member => Json.Document.isKeepable member.2)
      ofFields? tag (Json.Fields.ofMembers? fieldNames others)
  | _ => none

/-- The kind that elements tell, the first of which is the tag. -/
def ofElements? (readTag : D → Option Tag) : List D → Option EventKind
  | [] => none
  | document :: others => do
      let tag ← readTag document
      guard (others.all Json.Document.isKeepable)
      guard (tag = .started || others.isEmpty)
      ofFields? tag (Json.Fields.ofElements? fieldNames others)

/-- A tag that is written by its name. -/
def nameTag? (document : D) : Option Tag :=
  (Json.Document.text? document).bind Tag.ofName?

/-- A tag that is written by its name or its number. -/
def nameOrNumberTag? (document : D) : Option Tag :=
  match Json.Document.text? document with
  | some name => Tag.ofName? name
  | none => (Json.Document.natural? document).bind Tag.ofNumber?

instance : WireForm EventKind where
  encode kind := .object kind.members
  decode? document :=
    match Json.Document.members? document with
    | some members => ofMembers? nameTag? members
    | none => (Json.Document.elements? document).bind (ofElements? nameTag?)

end EventKind

/-- An event of a session. -/
structure CaptureEvent where
  session : SessionId
  /-- When it was recorded, in milliseconds of the epoch. -/
  time : UInt64
  kind : EventKind
  deriving DecidableEq, Repr

namespace CaptureEvent

/-- The names of the fields that are not of the kind. -/
def fieldNames : List String := ["session_id", "event_time_ms"]

/-- An event is always an object.  Its tag may be written by its number. -/
instance : WireForm CaptureEvent where
  encode event :=
    .object ([("session_id", WireForm.encode event.session),
      ("event_time_ms", WireForm.encode event.time)] ++ event.kind.members)
  decode? document := do
    let members ← Json.Document.members? document
    let (own, others) := members.partition fun member => fieldNames.contains member.1
    let fields ← Json.Fields.ofMembers? fieldNames own
    let session ← fields.required "session_id" WireForm.decode?
    let time ← fields.required "event_time_ms" WireForm.decode?
    let kind ← EventKind.ofMembers? EventKind.nameOrNumberTag? others
    return ⟨session, time, kind⟩

end CaptureEvent

/-- What the service is told at the start of a session. -/
structure SessionStart where
  session : SessionId
  token : ActivityToken
  component : ComponentName
  flags : CaptureFlags
  deriving DecidableEq, Repr

namespace SessionStart

def fieldNames : List String := ["session_id", "token", "component", "flags"]

instance : WireForm SessionStart where
  encode start :=
    .object [("session_id", WireForm.encode start.session),
      ("token", WireForm.encode start.token),
      ("component", WireForm.encode start.component),
      ("flags", WireForm.encode start.flags)]
  decode? document := do
    let fields ← Json.Fields.read? fieldNames document
    let session ← fields.required "session_id" WireForm.decode?
    let token ← fields.required "token" WireForm.decode?
    let component ← fields.required "component" WireForm.decode?
    let flags ← fields.required "flags" WireForm.decode?
    return ⟨session, token, component, flags⟩

end SessionStart
end ContentCapture
