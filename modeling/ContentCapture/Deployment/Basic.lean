import ContentCapture.Dispatch.Dispatcher
import ContentCapture.Manager
import ContentCapture.Service.Basic

namespace ContentCapture

/-!
# Deployments

A deployment holds everything that managers share and act on: the service, the
exchange with the reply channels and the time, the dispatchers with their jobs,
and the managers themselves.
It changes in atomic steps.  An operation on a manager is one step, a dispatcher
running its next job is another, and what a service does on its own is a third.
How the steps are interleaved is not decided here.

The journal lists, oldest first, which requests were posted to a dispatcher and
which requests the service was asked, with the result of asking.
-/

/-- A request to be made on behalf of a manager. -/
structure Job where
  /-- The index of the manager. -/
  owner : Nat
  /-- The package that the service takes the manager for. -/
  caller : String
  request : Request
  deriving DecidableEq, Repr

/-- Something that concerns the service. -/
inductive Entry where
  /-- A job was handed to a dispatcher, whether or not it is ever run. -/
  | posted (job : Job)
  /-- The service was asked, on behalf of the manager with that index if any. -/
  | asked (owner : Option Nat) (envelope : Envelope) (result : Except Unreachable Unit)

/-- The managers, what they share, and what has happened so far. -/
structure Deployment (σ : Type) where
  service : σ
  exchange : Exchange := {}
  dispatchers : List (Dispatcher Job) := []
  managers : List Manager := []
  /-- The id of the next session. -/
  nextSession : SessionId := ⟨1⟩
  journal : List Entry := []

namespace Deployment

variable {σ : Type}

/-- The deployment with one more line in the journal. -/
def noted (deployment : Deployment σ) (entry : Entry) : Deployment σ :=
  { deployment with journal := deployment.journal ++ [entry] }

/-! ## Reply channels -/

def newChannel (deployment : Deployment σ) (timeout : Span) : ChannelId × Deployment σ :=
  let (channel, exchange) := deployment.exchange.newChannel timeout
  (channel, { deployment with exchange := exchange })

/-- Does to a reply channel what a service does with it. -/
def answer (deployment : Deployment σ) (channel : ChannelId) (answer : Answer) : Deployment σ :=
  { deployment with exchange := deployment.exchange.answer channel answer }

def complete (deployment : Deployment σ) (channel : ChannelId) (outcome : Outcome) :
    Deployment σ :=
  deployment.answer channel (.complete outcome)

/-- Does to several reply channels, one after another, what a service does with
them. -/
def answerAll (deployment : Deployment σ) (answers : List (ChannelId × Answer)) : Deployment σ :=
  { deployment with exchange := deployment.exchange.answerAll answers }

def await (deployment : Deployment σ) (channel : ChannelId) : Deployment σ :=
  { deployment with exchange := deployment.exchange.await channel }

/-- Drops a request, and its reply channel with it. -/
def discard (deployment : Deployment σ) (request : Request) : Deployment σ :=
  deployment.answerAll (request.answered (.complete .abandoned))

/-! ## Managers and sessions -/

def updateManager (deployment : Deployment σ) (owner : Nat) (change : Manager → Manager) :
    Deployment σ :=
  { deployment with managers := deployment.managers.modify owner change }

def updateSession (deployment : Deployment σ) (owner : Nat) (change : Session → Session) :
    Deployment σ :=
  deployment.updateManager owner fun manager => manager.withSession change

def session? (deployment : Deployment σ) (owner : Nat) : Option Session :=
  (deployment.managers[owner]?).bind Manager.session

/-- Looks at the answer to the start of a session. -/
def poll (deployment : Deployment σ) (owner : Nat) : Deployment σ :=
  deployment.updateSession owner fun session => session.polled deployment.exchange

def addManager (deployment : Deployment σ) (manager : Manager) : Deployment σ :=
  { deployment with managers := deployment.managers ++ [manager] }

/-! ## Requests and jobs -/

variable [Service σ]

/-- Asks the service, on behalf of a manager if one is given. -/
def ask (deployment : Deployment σ) (owner : Option Nat) (envelope : Envelope) :
    Except Unreachable Unit × Deployment σ :=
  let reception := Service.receive deployment.service envelope
  let deployment := { deployment with service := reception.service }
  let deployment := deployment.answerAll reception.answers
  (reception.result, deployment.noted (.asked owner envelope reception.result))

/-- Runs a job.  A session whose vital request does not get through is disabled. -/
def run (deployment : Deployment σ) (job : Job) : Deployment σ :=
  match deployment.ask (some job.owner) ⟨job.caller, job.request⟩ with
  | (.ok (), deployment) => deployment
  | (.error _, deployment) =>
      if job.request.isVital then deployment.updateSession job.owner Session.cutOff else deployment

def post (deployment : Deployment σ) (dispatcher : Nat) (job : Job) : Deployment σ :=
  let deployment := deployment.noted (.posted job)
  match deployment.dispatchers[dispatcher]? with
  | none => deployment.discard job.request
  | some queue =>
      match queue.mode with
      | .immediate => deployment.run job
      | .queued =>
          { deployment with
            dispatchers := deployment.dispatchers.set dispatcher (queue.push job) }
      | .stopped => deployment.discard job.request

/-- Lets a dispatcher run its next job. -/
def work (deployment : Deployment σ) (dispatcher : Nat) : Deployment σ :=
  match (deployment.dispatchers[dispatcher]?).bind Dispatcher.pop? with
  | none => deployment
  | some (job, queue) =>
      run { deployment with dispatchers := deployment.dispatchers.set dispatcher queue } job

def pending (deployment : Deployment σ) (dispatcher : Nat) : Nat :=
  ((deployment.dispatchers[dispatcher]?).map fun queue => queue.jobs.length).getD 0

/-- Lets a dispatcher run all the jobs that it holds. -/
def workThrough (deployment : Deployment σ) (dispatcher : Nat) : Deployment σ :=
  (List.range (deployment.pending dispatcher)).foldl
    (fun deployment _ => deployment.work dispatcher) deployment

/-- Lets every dispatcher run all the jobs that it holds.  Jobs post no jobs. -/
def workThroughAll (deployment : Deployment σ) : Deployment σ :=
  (List.range deployment.dispatchers.length).foldl workThrough deployment

end Deployment
end ContentCapture
