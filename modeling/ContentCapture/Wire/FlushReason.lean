import ContentCapture.Wire.Form

namespace ContentCapture

/-!
# Flush reasons

Events are sent in batches, and a batch says why it is sent.  A reason has a
number, a name for people, and a name on the wire.  On the wire it may also be
written as an object with that name for its only key and nothing for its value.
-/

/-- Why a batch of events is sent. -/
inductive FlushReason where
  | fullBuffer
  | viewRootEntered
  | sessionStarted
  | sessionFinished
  | idleTimeout
  deriving DecidableEq, Repr

namespace FlushReason

/-- All reasons, in the order of their numbers. -/
def all : List FlushReason :=
  [.fullBuffer, .viewRootEntered, .sessionStarted, .sessionFinished, .idleTimeout]

def code : FlushReason → Int32
  | .fullBuffer => 1
  | .viewRootEntered => 2
  | .sessionStarted => 3
  | .sessionFinished => 4
  | .idleTimeout => 5

def ofCode? (number : Int32) : Option FlushReason :=
  all.find? fun reason => reason.code == number

/-- A reason is found again by its number. -/
theorem ofCode?_code (reason : FlushReason) : ofCode? reason.code = some reason := by
  cases reason <;> decide

/-- The name for people. -/
def text : FlushReason → String
  | .fullBuffer => "FULL"
  | .viewRootEntered => "VIEW_ROOT"
  | .sessionStarted => "STARTED"
  | .sessionFinished => "FINISHED"
  | .idleTimeout => "IDLE"

def diagnostic : FlushReason → String
  | .fullBuffer => "FullBuffer"
  | .viewRootEntered => "ViewRootEntered"
  | .sessionStarted => "SessionStarted"
  | .sessionFinished => "SessionFinished"
  | .idleTimeout => "IdleTimeout"

def wireName : FlushReason → String
  | .fullBuffer => "full_buffer"
  | .viewRootEntered => "view_root_entered"
  | .sessionStarted => "session_started"
  | .sessionFinished => "session_finished"
  | .idleTimeout => "idle_timeout"

def ofWireName? (name : String) : Option FlushReason :=
  all.find? fun reason => reason.wireName == name

/-- A reason is found again by its name on the wire. -/
theorem ofWireName?_wireName (reason : FlushReason) :
    ofWireName? reason.wireName = some reason := by
  cases reason <;> decide

/-- The name that a document gives to a reason. -/
def writtenName? {D : Type} [Json.Document D] (document : D) : Option String :=
  match Json.Document.text? document with
  | some name => some name
  | none =>
      match Json.Document.members? document with
      | some [(name, value)] => if Json.Document.isNull value then some name else none
      | _ => none

instance : WireForm FlushReason where
  encode reason := .text reason.wireName
  decode? document := (writtenName? document).bind ofWireName?

end FlushReason
end ContentCapture
