import ContentCapture.Deployment.Lifecycle

namespace ContentCapture
namespace Deployment

/-!
# What a manager does

Operations on a manager are atomic steps of the deployment.  Those that need the
session make it if it is not there; those that merely look at it do not.  An
operation on a manager that does not exist changes nothing.

A look at whether the session is disabled looks at the answer to its start
first, so observing is a step too.
-/

variable {σ : Type} [Service σ]

/-- Makes the session of a manager if it has none. -/
def ensureSession (deployment : Deployment σ) (owner : Nat) : Deployment σ :=
  match deployment.managers[owner]? with
  | none => deployment
  | some manager =>
      match manager.session with
      | some _ => deployment
      | none =>
          let made := deployment.updateManager owner fun manager =>
            { manager with session := some { id := deployment.nextSession } }
          { made with nextSession := ⟨deployment.nextSession.value + 1⟩ }

/-- What is wrong with the arguments of a start. -/
def startFault? (token : ActivityToken) (component : ComponentName) : Option ArgumentFault :=
  if token.isEmpty then some .emptyToken
  else if !component.isValid then some (.invalidComponent component)
  else none

/-- Tells a manager that its window is there.  The flags are merged into those
of the manager, and the session is started with the result. -/
def onStart (deployment : Deployment σ) (owner : Nat) (token : ActivityToken)
    (component : ComponentName) (flags : CaptureFlags) : Except Failure Unit × Deployment σ :=
  match startFault? token component with
  | some fault => (.error (.invalidArgument fault), deployment)
  | none =>
      let deployment := deployment.updateManager owner fun manager =>
        { manager with flags := manager.flags.merge flags }
      let merged := ((deployment.managers[owner]?).map Manager.flags).getD flags
      (.ok (), (deployment.ensureSession owner).startSession owner token component merged)

/-- Tells a manager that its window is gone. -/
def onStop (deployment : Deployment σ) (owner : Nat) : Deployment σ :=
  (deployment.ensureSession owner).destroySession owner

def flush (deployment : Deployment σ) (owner : Nat) (reason : FlushReason) : Deployment σ :=
  (deployment.ensureSession owner).flushSession owner reason

/-- Tells a manager whether the app wants capture.  The session learns of it at
its next start. -/
def setEnabled (deployment : Deployment σ) (owner : Nat) (enabled : Bool) : Deployment σ :=
  deployment.updateManager owner fun manager => manager.wanting enabled

def removeUserData (deployment : Deployment σ) (owner : Nat) (removal : RemovalRequest) :
    Except Failure Unit × Deployment σ :=
  if removal.isEmpty then (.error (.invalidArgument .nothingToRemove), deployment)
  else
    match deployment.managers[owner]? with
    | none => (.ok (), deployment)
    | some manager =>
        match deployment.ask (some owner) ⟨manager.caller, .removeUserData removal⟩ with
        | (.ok (), deployment) => (.ok (), deployment)
        | (.error failure, deployment) => (.error (.unreachable failure), deployment)

/-! ## Observers -/

def isEnabled (deployment : Deployment σ) (owner : Nat) : Bool × Deployment σ :=
  let deployment := deployment.poll owner
  (((deployment.managers[owner]?).map Manager.isEnabled).getD true, deployment)

/-- The session of a manager after a look at the answer to its start. -/
def observeSession (deployment : Deployment σ) (owner : Nat) : Option Session × Deployment σ :=
  let deployment := deployment.poll owner
  (deployment.session? owner, deployment)

def report (deployment : Deployment σ) (owner : Nat) : List String × Deployment σ :=
  let deployment := deployment.poll owner
  let lines := (deployment.managers[owner]?).map fun manager =>
    manager.report (Service.identity deployment.service manager.caller)
  (lines.getD [], deployment)

def sessionReport (deployment : Deployment σ) (owner : Nat) : List String × Deployment σ :=
  let (session, deployment) := deployment.observeSession owner
  ((session.map Session.report).getD [], deployment)

def managerDiagnostic (deployment : Deployment σ) (owner : Nat) : Option String :=
  (deployment.managers[owner]?).map fun manager =>
    manager.diagnostic
      (((deployment.dispatchers[manager.dispatcher]?).map Dispatcher.diagnostic).getD "")

end Deployment
end ContentCapture
