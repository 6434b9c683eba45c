import ContentCapture.Service.Local
import ContentCapture.Deployment.Questions

namespace ContentCapture
namespace Deployment

/-!
# Deployments around a local service

The loop of a local service takes atomic steps of its own: it works off the next
request, or it stops.  A deployment settles when the dispatchers have no more
jobs and the service has no more requests.  The requests that are queued already
come before those that jobs add, because a job adds its request at the end.
-/

/-- Lets the service work off its next request. -/
def serve (deployment : Deployment LocalService) : Deployment LocalService :=
  match deployment.service.inbox with
  | [] => deployment
  | envelope :: rest =>
      let (service, decided) := { deployment.service with inbox := rest }.workOff envelope
      let deployment := { deployment with service := service }
      match decided with
      | none => deployment
      | some (channel, outcome) => deployment.complete channel outcome

/-- Lets the service work off all the requests that it holds. -/
def serveAll (deployment : Deployment LocalService) : Deployment LocalService :=
  (List.range deployment.service.inbox.length).foldl
    (fun deployment _ => deployment.serve) deployment

/-- Lets dispatchers and service come to rest. -/
def settle (deployment : Deployment LocalService) : Deployment LocalService :=
  deployment.workThroughAll.serveAll

/-- Stops the loop of the service, and drops what it holds. -/
def stop (deployment : Deployment LocalService) : Deployment LocalService :=
  let held := deployment.service.held
  let deployment := { deployment with service := deployment.service.stopped }
  held.foldl (fun deployment channel => deployment.complete channel .abandoned) deployment

/-- Stops the loop of the service once it has come to rest. -/
def shutDown (deployment : Deployment LocalService) : Deployment LocalService :=
  deployment.settle.stop

/-- Makes a manager whose connection has its own package for the caller. -/
def connectManager (deployment : Deployment LocalService) (context : CaptureContext)
    (timeout : Span) (dispatcher : Nat) : Except Unreachable Unit × Deployment LocalService :=
  match deployment.service.connect with
  | .error failure => (.error failure, deployment)
  | .ok () =>
      (.ok (), deployment.addManager
        { context := context, caller := context.packageName, timeout := timeout,
          dispatcher := dispatcher })

end Deployment
end ContentCapture
