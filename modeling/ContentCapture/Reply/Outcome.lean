import ContentCapture.Json.Complaint
import ContentCapture.Span
import ContentCapture.Wire.ResultCode
import ContentCapture.Wire.Form

namespace ContentCapture

/-!
# Replies and their outcomes

Requests to the service go one way.  A request that wants an answer carries a
reply channel, and what becomes of the channel is its outcome: a reply, a
failure that the service reports, or nothing, when the service drops the channel
unanswered.  Whoever waits learns of a failure, a dropped channel, or a wait that
took too long, as an error.
-/

/-- What the service replies: a number, and a payload or none. -/
structure Reply where
  code : Int32
  payload : Option Json.Value

/-- What becomes of a reply channel. -/
inductive Outcome where
  | reply (reply : Reply)
  | failed (message : String)
  | abandoned

/-- Why there is no usable reply. -/
inductive ReplyError where
  /-- The wait took as long as this. -/
  | timeout (span : Span)
  /-- The service failed, or dropped the channel. -/
  | remote (message : String)
  /-- The payload is not of the expected type. -/
  | undecodable
  deriving DecidableEq, Repr

namespace ReplyError

def message : ReplyError → String
  | .timeout span => "no reply from capture service within " ++ span.text
  | .remote message => "capture service failed the request: " ++ message
  | .undecodable => "reply payload did not decode"

def isTimeout : ReplyError → Bool
  | .timeout _ => true
  | _ => false

end ReplyError

namespace Outcome

/-- A bare number. -/
def ofCode (code : Int32) : Outcome :=
  .reply ⟨code, none⟩

/-- A payload, with the number for an acknowledgement. -/
def ofPayload (payload : Json.Value) : Outcome :=
  .reply ⟨ResultCode.affirmed.code, some payload⟩

/-- A payload that could not be written, with the complaint about it. -/
def unencodable (complaint : Json.Complaint) : Outcome :=
  .failed ("failed to encode reply: " ++ complaint.message)

/-- What an outcome means to the one who waits for it. -/
def resolve : Outcome → Except ReplyError Reply
  | .reply answer => .ok answer
  | .failed message => .error (.remote message)
  | .abandoned => .error (.remote "reply sink dropped without a result")

end Outcome

namespace Reply

/-- The payload as a value of a type, if there is one.  A null payload counts as
none. -/
def payloadAs (α : Type) [WireForm α] (reply : Reply) : Except ReplyError (Option α) :=
  match reply.payload with
  | none => .ok none
  | some payload =>
      if payload.isNull then .ok none
      else
        match WireForm.decode? payload with
        | some value => .ok (some value)
        | none => .error .undecodable

end Reply

/-- What a service does with a reply channel that it is given. -/
inductive Answer where
  /-- It decides the outcome at once. -/
  | complete (outcome : Outcome)
  /-- It sees to it that the outcome is decided after a while. -/
  | later (delay : Span) (outcome : Outcome)
  /-- It keeps the channel. -/
  | keep

end ContentCapture
