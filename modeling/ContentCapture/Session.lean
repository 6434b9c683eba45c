import ContentCapture.Reply.Exchange
import ContentCapture.Wire.Event
import ContentCapture.Wire.SessionState

namespace ContentCapture

/-!
# Sessions

A session is started for a window, collects events, and is destroyed; it may be
started again under the same id.  From a start that is not disabling until the
next destruction the session is announced: the service has been asked to start
it and has not been told that it is finished.

The answer to that request is looked at only when somebody wants to know whether
the session is disabled.  Until then its channel is kept.  A session that is
disabled stays so until a start that is not disabling.

This module holds what happens to the session itself.  What a session asks of
the service, and when, is the subject of `Deployment.Lifecycle`.
-/

/-- Whether a session was never started, is started, or was destroyed last. -/
inductive Lifecycle where
  | created
  | started
  | destroyed
  deriving DecidableEq, Repr

namespace Lifecycle

def text : Lifecycle → String
  | .created => "created"
  | .started => "started"
  | .destroyed => "destroyed"

end Lifecycle

/-- A session. -/
structure Session where
  id : SessionId
  lifecycle : Lifecycle := .created
  token : Option ActivityToken := none
  component : Option ComponentName := none
  /-- The flags of the last start. -/
  flags : CaptureFlags := .empty
  state : SessionState := .unknown
  /-- The channel for the answer to the last start, while nobody has looked at
  the answer. -/
  startReply : Option ChannelId := none
  announced : Bool := false
  /-- The events that were not sent yet. -/
  buffer : List CaptureEvent := []
  disabled : Bool := false
  deriving DecidableEq, Repr

namespace Session

/-- The state of a session for which no usable answer came. -/
def unanswered : SessionState :=
  SessionState.disabled.merge .internalError

theorem text_unanswered : unanswered.text = "DISABLED|INTERNAL_ERROR (260)" := by
  decide +kernel

theorem isDisabled_unanswered : unanswered.isDisabled = true := by decide

/-- The state of a session whose flags turn capture off.  The app's own wish
comes first. -/
def turnedOff (flags : CaptureFlags) : SessionState :=
  SessionState.disabled.merge (if flags.isDisabledByApp then .byApp else .flagSecure)

/-- The session after an answer to its start was looked at. -/
def informed (session : Session) : Except ReplyError Int32 → Session
  | .ok code =>
      let state : SessionState := ⟨code.toUInt32⟩
      { session with
        startReply := none
        state := state
        disabled := session.disabled || state.isDisabled }
  | .error _ => { session with startReply := none, state := unanswered, disabled := true }

/-- The session after a look at its channel, if it has one. -/
def polled (exchange : Exchange) (session : Session) : Session :=
  match session.startReply with
  | none => session
  | some channel =>
      match exchange.peek channel with
      | none => session
      | some answer => session.informed answer

/-- A second look at the same time finds nothing new. -/
theorem polled_polled (exchange : Exchange) (session : Session) :
    (session.polled exchange).polled exchange = session.polled exchange := by
  cases hreply : session.startReply with
  | none => simp [polled, hreply]
  | some channel =>
      cases hanswer : exchange.peek channel with
      | none => simp [polled, hreply, hanswer]
      | some answer => cases answer <;> simp [polled, informed, hreply, hanswer]

/-- The session at the beginning of a cycle for which the service is asked. -/
def opened (session : Session) (token : ActivityToken) (component : ComponentName)
    (flags : CaptureFlags) (channel : ChannelId) : Session :=
  { session with
    lifecycle := .started
    token := some token
    component := some component
    flags := flags
    state := .unknown
    startReply := some channel
    announced := true
    buffer := []
    disabled := false }

/-- The session at the beginning of a cycle that its flags turn off. -/
def openedOff (session : Session) (token : ActivityToken) (component : ComponentName)
    (flags : CaptureFlags) : Session :=
  { session with
    lifecycle := .started
    token := some token
    component := some component
    flags := flags
    state := turnedOff flags
    startReply := none
    buffer := []
    disabled := true }

def recorded (session : Session) (time : UInt64) (kind : EventKind) : Session :=
  { session with buffer := session.buffer ++ [⟨session.id, time, kind⟩] }

def emptied (session : Session) : Session :=
  { session with buffer := [] }

/-- The session after a vital request of it did not get through. -/
def cutOff (session : Session) : Session :=
  { session with disabled := true }

/-- The session at the end of a cycle. -/
def closed (session : Session) : Session :=
  { session with
    lifecycle := .destroyed
    startReply := none
    announced := false
    buffer := [] }

/-- The session after it was destroyed without being started. -/
def retired (session : Session) : Session :=
  { session with lifecycle := .destroyed }

/-- What a report says of the session, line by line. -/
def report (session : Session) : List String :=
  ["id: " ++ session.id.text,
   "lifecycle: " ++ session.lifecycle.text,
   "state: " ++ session.state.text,
   "disabled: " ++ Text.ofBool session.disabled,
   "flags: " ++ session.flags.text,
   "token: " ++ (session.token.map ActivityToken.text).getD "null",
   "component: " ++ (session.component.map ComponentName.shortText).getD "null",
   "buffered events: " ++ Text.ofNat session.buffer.length] ++
  if session.startReply.isSome then ["waiting for service state"] else []

end Session
end ContentCapture
