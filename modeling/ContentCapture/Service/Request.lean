import ContentCapture.Reply.Channel
import ContentCapture.Wire.Event
import ContentCapture.Wire.FlushReason
import ContentCapture.Wire.RemovalRequest

namespace ContentCapture

/-!
# Requests to the service

A service is asked seven things.  Four of them want an answer and carry a reply
channel for it.
-/

/-- What a service can be asked. -/
inductive Method where
  | serviceComponentName
  | featureEnabled
  | setFeatureEnabled
  | removeUserData
  | startSession
  | finishSession
  | sendEvents
  deriving DecidableEq, Repr

namespace Method

def name : Method → String
  | .serviceComponentName => "getServiceComponentName"
  | .featureEnabled => "isFeatureEnabled"
  | .setFeatureEnabled => "setFeatureEnabled"
  | .removeUserData => "removeUserData"
  | .startSession => "startSession"
  | .finishSession => "finishSession"
  | .sendEvents => "sendEvents"

end Method

/-- A request, with its reply channel if it wants an answer. -/
inductive Request where
  /-- Asks for the component that the service runs in. -/
  | serviceComponentName (channel : ChannelId)
  /-- Asks whether the feature is on. -/
  | featureEnabled (channel : ChannelId)
  /-- Asks for the feature to be turned on or off. -/
  | setFeatureEnabled (enabled : Bool) (channel : ChannelId)
  /-- Asks for captured data to be removed. -/
  | removeUserData (removal : RemovalRequest)
  /-- Starts a session, and asks for its state. -/
  | startSession (start : SessionStart) (channel : ChannelId)
  /-- Finishes a session. -/
  | finishSession (session : SessionId)
  /-- Delivers events of a session. -/
  | sendEvents (session : SessionId) (events : List CaptureEvent) (reason : FlushReason)
  deriving DecidableEq, Repr

namespace Request

def method : Request → Method
  | .serviceComponentName _ => .serviceComponentName
  | .featureEnabled _ => .featureEnabled
  | .setFeatureEnabled _ _ => .setFeatureEnabled
  | .removeUserData _ => .removeUserData
  | .startSession _ _ => .startSession
  | .finishSession _ => .finishSession
  | .sendEvents _ _ _ => .sendEvents

/-- The reply channel of a request that wants an answer. -/
def channel? : Request → Option ChannelId
  | .serviceComponentName channel => some channel
  | .featureEnabled channel => some channel
  | .setFeatureEnabled _ channel => some channel
  | .startSession _ channel => some channel
  | .removeUserData _ => none
  | .finishSession _ => none
  | .sendEvents _ _ _ => none

/-- An answer for the reply channel of a request, if it has one. -/
def answered (request : Request) (answer : Answer) : List (ChannelId × Answer) :=
  request.channel?.toList.map fun channel => (channel, answer)

/-- Whether a session is disabled when this request of it does not get through.
The end of a session need not get through. -/
def isVital : Request → Bool
  | .startSession _ _ => true
  | .sendEvents _ _ _ => true
  | _ => false

theorem isVital_iff (request : Request) :
    request.isVital = true ↔
      request.method = .startSession ∨ request.method = .sendEvents := by
  cases request <;> simp [isVital, method]

end Request

/-- A request and the package of the client that sent it. -/
structure Envelope where
  caller : String
  request : Request
  deriving DecidableEq, Repr

end ContentCapture
