import ContentCapture.Service.Scripted
import ContentCapture.Deployment.Questions

namespace ContentCapture
namespace Deployment

/-!
# Deployments around a scripted service

A scripted service does nothing on its own.  Its script may be changed between
the steps of the deployment, and a channel that it has parked may be answered at
any time, or be parked again.
-/

/-- Changes what the service does on a method. -/
def cue (deployment : Deployment ScriptedService) (method : Method) (cue : Cue) :
    Deployment ScriptedService :=
  { deployment with service := deployment.service.cued method cue }

/-- Answers a parked channel, if there is one at the index. -/
def answerParked? (deployment : Deployment ScriptedService) (index : Nat) (answer : Answer) :
    Option (Deployment ScriptedService) := do
  let (channel, service) ← deployment.service.release? index
  let service : ScriptedService :=
    match answer with
    | .keep => { service with parked := service.parked ++ [some channel] }
    | _ => service
  return Deployment.answer { deployment with service := service } channel answer

def addScriptedManager (deployment : Deployment ScriptedService) (context : CaptureContext)
    (timeout : Span) (dispatcher : Nat) : Deployment ScriptedService :=
  deployment.addManager
    { context := context, caller := context.packageName, timeout := timeout,
      dispatcher := dispatcher }

end Deployment
end ContentCapture
