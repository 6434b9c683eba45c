import ContentCapture.Deployment.Basic

namespace ContentCapture
namespace Deployment

/-!
# What a session does

The operations of a session are atomic steps of the deployment.  A session asks
nothing of the service itself: it posts jobs to the dispatcher of its manager.
With an immediate dispatcher a job is run within the operation that posts it, so
that what the job has done is seen by the rest of the operation.

A start that is not disabling posts the request to start, records that it was
started, and sends that event.  The destruction of a started session records
that it was finished and sends that event, unless the session is disabled, and
posts the request to finish, if the session is announced.
-/

variable {σ : Type} [Service σ]

def postRequest (deployment : Deployment σ) (owner : Nat) (request : Request) : Deployment σ :=
  match deployment.managers[owner]? with
  | none => deployment
  | some manager => deployment.post manager.dispatcher ⟨owner, manager.caller, request⟩

/-- Sends the events in the buffer of a session, or drops them if the session is
disabled. -/
def sendBuffer (deployment : Deployment σ) (owner : Nat) (reason : FlushReason) : Deployment σ :=
  let deployment := deployment.poll owner
  match deployment.session? owner with
  | none => deployment
  | some session =>
      let emptied := deployment.updateSession owner Session.emptied
      if session.disabled then emptied
      else if session.buffer.isEmpty then deployment
      else emptied.postRequest owner (.sendEvents session.id session.buffer reason)

/-- Records an event of a session and sends its buffer. -/
def sendEvent (deployment : Deployment σ) (owner : Nat) (kind : EventKind) (reason : FlushReason) :
    Deployment σ :=
  let recorded := deployment.updateSession owner fun session =>
    session.recorded deployment.exchange.now.milliseconds kind
  recorded.sendBuffer owner reason

/-- Opens a cycle of a session for which the service is asked. -/
def announce (deployment : Deployment σ) (owner : Nat) (manager : Manager) (session : Session)
    (token : ActivityToken) (component : ComponentName) (flags : CaptureFlags) : Deployment σ :=
  let (channel, deployment) := deployment.newChannel manager.timeout
  let deployment := deployment.updateSession owner fun session =>
    session.opened token component flags channel
  let deployment := deployment.postRequest owner
    (.startSession ⟨session.id, token, component, flags⟩ channel)
  deployment.sendEvent owner (.started token component) .sessionStarted

/-- Starts the session of a manager.  A session that is started is left alone. -/
def startSession (deployment : Deployment σ) (owner : Nat) (token : ActivityToken)
    (component : ComponentName) (flags : CaptureFlags) : Deployment σ :=
  match deployment.managers[owner]? with
  | none => deployment
  | some manager =>
      match manager.session with
      | none => deployment
      | some session =>
          if session.lifecycle = .started then deployment
          else if flags.isDisabling then
            deployment.updateSession owner fun session => session.openedOff token component flags
          else deployment.announce owner manager session token component flags

/-- Sends the events of a session that is started. -/
def flushSession (deployment : Deployment σ) (owner : Nat) (reason : FlushReason) :
    Deployment σ :=
  match deployment.session? owner with
  | none => deployment
  | some session =>
      if session.lifecycle = .started then deployment.sendBuffer owner reason else deployment

/-- Ends the cycle of a session that is started. -/
def closeSession (deployment : Deployment σ) (owner : Nat) (session : Session) : Deployment σ :=
  let deployment := deployment.poll owner
  let deployment :=
    if (deployment.session? owner).any fun session => !session.disabled then
      deployment.sendEvent owner .finished .sessionFinished
    else deployment
  let deployment :=
    if session.announced then deployment.postRequest owner (.finishSession session.id)
    else deployment
  deployment.updateSession owner Session.closed

def destroySession (deployment : Deployment σ) (owner : Nat) : Deployment σ :=
  match deployment.session? owner with
  | none => deployment
  | some session =>
      if session.lifecycle = .started then deployment.closeSession owner session
      else deployment.updateSession owner Session.retired

end Deployment
end ContentCapture
