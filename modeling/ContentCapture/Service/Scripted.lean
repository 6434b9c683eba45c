import ContentCapture.Service.Basic

namespace ContentCapture

/-!
# Scripted services

A scripted service has a cue for every method, and takes every request as its
cue says.  Channels that it is told to keep are parked in the order of arrival
until they are completed from outside.
-/

/-- What to do with the reply channel of a request, if it has one, and the reason
for being unreachable afterwards, if so. -/
structure Cue where
  answer : Answer
  unreachable : Option String := none

/-- A scripted service. -/
structure ScriptedService where
  script : Method → Cue
  /-- The parked channels; a place is emptied when its channel is completed. -/
  parked : List (Option ChannelId) := []

namespace ScriptedService

/-- The component that is named unless the script says otherwise. -/
def component : ComponentName :=
  ⟨"com.example.capture", "com.example.capture.CaptureService"⟩

/-- The cues that are followed unless the script says otherwise: the feature is
on, and every session is active. -/
def standardCue : Method → Cue
  | .serviceComponentName => ⟨.complete (.ofPayload (WireForm.encode component)), none⟩
  | .featureEnabled => ⟨.complete (.ofCode 1), none⟩
  | .setFeatureEnabled => ⟨.complete (.ofCode 1), none⟩
  | .startSession => ⟨.complete (.ofCode 2), none⟩
  | .removeUserData => ⟨.complete .abandoned, none⟩
  | .finishSession => ⟨.complete .abandoned, none⟩
  | .sendEvents => ⟨.complete .abandoned, none⟩

def standard : ScriptedService :=
  { script := standardCue }

def cued (service : ScriptedService) (method : Method) (cue : Cue) : ScriptedService :=
  { service with script := fun other => if other = method then cue else service.script other }

/-- The channels that a request adds to the parked ones. -/
def parks (answer : Answer) (request : Request) : List (Option ChannelId) :=
  match answer, request.channel? with
  | .keep, some channel => [some channel]
  | _, _ => []

/-- The parked channel at an index, and the service without it. -/
def release? (service : ScriptedService) (index : Nat) : Option (ChannelId × ScriptedService) := do
  let channel ← (service.parked[index]?).join
  return (channel, { service with parked := service.parked.set index none })

def parkedCount (service : ScriptedService) : Nat :=
  (service.parked.filter Option.isSome).length

instance : Service ScriptedService where
  receive service envelope :=
    let cue := service.script envelope.request.method
    { service := { service with parked := service.parked ++ parks cue.answer envelope.request }
      answers := envelope.request.answered cue.answer
      result :=
        match cue.unreachable with
        | none => .ok ()
        | some reason => .error ⟨reason⟩ }
  identity _ _ := "ScriptedService"

end ScriptedService
end ContentCapture
