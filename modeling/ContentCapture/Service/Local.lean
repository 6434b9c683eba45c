import ContentCapture.Service.Basic
import ContentCapture.Wire.SessionState

namespace ContentCapture

/-!
# The local service

The local service queues requests and works them off in a loop.  It owns the
feature toggle, which only its own package may read or turn, remembers every
session that was started, and records the events and the removal requests that
reach it.

Each request is answered when it is worked off, unless the service is
unresponsive: then the reply channels are parked and nothing comes of them.
When the loop stops, everything it holds is dropped, the requests still queued
as well as the parked channels, and from then on the service is unreachable.
-/

/-- The behaviour of a local service. -/
structure LocalConfiguration where
  component : ComponentName := ⟨"com.example.capture", "com.example.capture.CaptureService"⟩
  /-- Whether the feature is on at first. -/
  featureEnabled : Bool := true
  /-- The packages that are not captured. -/
  disabledPackages : List String := []
  /-- The kill switch: if it is off, no client may connect. -/
  explicitlyEnabled : Option Bool := none
  /-- Whether reply channels are parked instead of being answered. -/
  unresponsive : Bool := false

namespace LocalConfiguration

def fieldNames : List String :=
  ["component", "feature_enabled", "disabled_packages", "service_explicitly_enabled",
   "unresponsive"]

/-- Every field may be missing.  Any other member is passed over. -/
instance : WireForm LocalConfiguration where
  encode configuration :=
    .object [("component", WireForm.encode configuration.component),
      ("feature_enabled", .bool configuration.featureEnabled),
      ("disabled_packages", WireForm.encode configuration.disabledPackages),
      ("service_explicitly_enabled", WireForm.encode configuration.explicitlyEnabled),
      ("unresponsive", .bool configuration.unresponsive)]
  decode? document := do
    let standard : LocalConfiguration := {}
    let fields ← Json.Fields.read? fieldNames document
    let component ← fields.optional "component" standard.component WireForm.decode?
    let featureEnabled ←
      fields.optional "feature_enabled" standard.featureEnabled WireForm.decode?
    let disabledPackages ←
      fields.optional "disabled_packages" standard.disabledPackages WireForm.decode?
    let explicitlyEnabled ←
      fields.optional "service_explicitly_enabled" standard.explicitlyEnabled WireForm.decode?
    let unresponsive ← fields.optional "unresponsive" standard.unresponsive WireForm.decode?
    return { component, featureEnabled, disabledPackages, explicitlyEnabled, unresponsive }

/-- The disabled packages as a set, in ascending order. -/
def packageSet (configuration : LocalConfiguration) : List String :=
  (configuration.disabledPackages.eraseDups).mergeSort fun first second => !(second < first)

end LocalConfiguration

/-- What the service knows about a session. -/
structure SessionRecord where
  caller : String
  start : SessionStart
  state : SessionState
  finished : Bool
  deriving DecidableEq, Repr

/-- Events that reached the service together. -/
structure EventBatch where
  session : SessionId
  reason : FlushReason
  events : List CaptureEvent
  deriving DecidableEq, Repr

namespace SessionRecord

/-- The records with another one, which takes the place of that of the same
session.  The order is that of the session ids. -/
def insert (record : SessionRecord) : List SessionRecord → List SessionRecord
  | [] => [record]
  | other :: rest =>
      if record.start.session.value < other.start.session.value then record :: other :: rest
      else if record.start.session = other.start.session then record :: rest
      else other :: insert record rest

def find? (session : SessionId) (records : List SessionRecord) : Option SessionRecord :=
  records.find? fun record => record.start.session == session

/-- The records with that of a session marked as finished. -/
def finish (session : SessionId) (records : List SessionRecord) : List SessionRecord :=
  records.map fun record =>
    if record.start.session = session then { record with finished := true } else record

end SessionRecord

/-- A local service. -/
structure LocalService where
  configuration : LocalConfiguration
  featureEnabled : Bool
  /-- The sessions that were started, in the order of their ids. -/
  sessions : List SessionRecord := []
  batches : List EventBatch := []
  removals : List (String × RemovalRequest) := []
  /-- The channels that are never answered. -/
  parked : List ChannelId := []
  /-- The requests that wait to be worked off, the next one first. -/
  inbox : List Envelope := []
  running : Bool := true

namespace LocalService

/-- A running service of that behaviour. -/
def new (configuration : LocalConfiguration) : LocalService :=
  { configuration := configuration, featureEnabled := configuration.featureEnabled }

/-- The name of the service in messages. -/
def endpoint (service : LocalService) : String :=
  service.configuration.component.shortText

def isOwner (service : LocalService) (caller : String) : Bool :=
  caller == service.configuration.component.packageName

/-- Whether a client may connect, and if not, why. -/
def connect (service : LocalService) : Except Unreachable Unit :=
  if service.configuration.explicitlyEnabled = some false then
    .error ⟨service.endpoint ++ " disabled by service_explicitly_enabled"⟩
  else if !service.running then .error ⟨service.endpoint ++ " is not running"⟩
  else .ok ()

def identity (service : LocalService) (caller : String) : String :=
  "ChannelServiceClient(endpoint=" ++ service.endpoint ++ ", caller=" ++ caller ++ ")"

/-- Queues a request, or drops it if the loop has stopped. -/
def receive (service : LocalService) (envelope : Envelope) : Reception LocalService :=
  if service.running then { service := { service with inbox := service.inbox ++ [envelope] } }
  else
    { service := service
      answers := envelope.request.answered (.complete .abandoned)
      result := .error
        ⟨service.endpoint ++ " closed while sending " ++ envelope.request.method.name⟩ }

instance : Service LocalService where
  receive := receive
  identity := identity

/-! ## Working requests off -/

/-- The answer to the question for the feature. -/
def featureAnswer (service : LocalService) (caller : String) : ResultCode :=
  if service.isOwner caller then .ofBool service.featureEnabled else .notService

/-- The state that a session is in when it is started. -/
def stateOf (service : LocalService) (caller : String) (start : SessionStart) : SessionState :=
  if (SessionRecord.find? start.session service.sessions).any fun record => !record.finished then
    SessionState.disabled.merge .duplicatedId
  else if start.flags.isDisabledByApp then SessionState.disabled.merge .byApp
  else if start.flags.isDisabledByFlagSecure then SessionState.disabled.merge .flagSecure
  else if !service.featureEnabled || service.configuration.disabledPackages.contains caller then
    SessionState.disabled.merge .noService
  else .active

/-- What a request changes, and the outcome for its reply channel. -/
def handle (service : LocalService) (envelope : Envelope) : LocalService × Option Outcome :=
  let caller := envelope.caller
  match envelope.request with
  | .serviceComponentName _ =>
      let component :=
        if service.featureEnabled then some service.configuration.component else none
      (service, some (.ofPayload (WireForm.encode component)))
  | .featureEnabled _ => (service, some (.ofCode (service.featureAnswer caller).code))
  | .setFeatureEnabled enabled _ =>
      if service.isOwner caller then
        ({ service with featureEnabled := enabled }, some (.ofCode ResultCode.affirmed.code))
      else (service, some (.ofCode ResultCode.notService.code))
  | .removeUserData removal =>
      ({ service with removals := service.removals ++ [(caller, removal)] }, none)
  | .startSession start _ =>
      let state := service.stateOf caller start
      ({ service with
          sessions := SessionRecord.insert ⟨caller, start, state, false⟩ service.sessions },
        some (.ofCode state.bits.toInt32))
  | .finishSession session =>
      ({ service with sessions := SessionRecord.finish session service.sessions }, none)
  | .sendEvents session events reason =>
      ({ service with batches := service.batches ++ [⟨session, reason, events⟩] }, none)

/-- Works one request off: what it changes, and the channel it decides with its
outcome.  An unresponsive service parks the channel instead. -/
def workOff (service : LocalService) (envelope : Envelope) :
    LocalService × Option (ChannelId × Outcome) :=
  let (service, outcome) := service.handle envelope
  match envelope.request.channel?, outcome with
  | some channel, some outcome =>
      if service.configuration.unresponsive then
        ({ service with parked := service.parked ++ [channel] }, none)
      else (service, some (channel, outcome))
  | _, _ => (service, none)

/-- The channels that are dropped when the loop stops. -/
def held (service : LocalService) : List ChannelId :=
  service.inbox.filterMap (fun envelope => envelope.request.channel?) ++ service.parked

/-- The service after its loop has stopped. -/
def stopped (service : LocalService) : LocalService :=
  { service with inbox := [], parked := [], running := false }

def session? (service : LocalService) (session : SessionId) : Option SessionRecord :=
  SessionRecord.find? session service.sessions

end LocalService
end ContentCapture
