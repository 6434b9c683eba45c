import ContentCapture.Deployment.Operations

namespace ContentCapture
namespace Deployment

/-!
# Blocking questions

A question to the service has two halves: a request with a reply channel of its
own is made, and the channel is waited for.  What happens in the deployment
meanwhile is not the question's business.  It is the argument `meanwhile` of the
questions here, so that the halves can be put together with any progress between
them.  It takes no time; only the rest of the wait does.

If the request cannot be made the question fails at once, whatever became of its
channel.  Otherwise the outcome of the channel decides.
-/

variable {σ : Type} [Service σ]

/-- Makes a request with a reply channel of its own. -/
def issue (deployment : Deployment σ) (owner : Nat) (manager : Manager)
    (request : ChannelId → Request) : Except Failure ChannelId × Deployment σ :=
  let (channel, deployment) := deployment.newChannel manager.timeout
  match deployment.ask (some owner) ⟨manager.caller, request channel⟩ with
  | (.ok (), deployment) => (.ok channel, deployment)
  | (.error failure, deployment) => (.error (.unreachable failure), deployment)

/-- The meaning of a number in a reply as an answer. -/
def verdict (code : Int32) : Except Failure Bool :=
  match ResultCode.ofCode code with
  | .affirmed => .ok true
  | .denied => .ok false
  | .notService => .error .notService
  | .unknown code => .error (.invalidResult code)

/-- The answer that a reply channel gives in the end. -/
def answerOf (deployment : Deployment σ) (channel : ChannelId) : Except Failure Bool :=
  match deployment.exchange.channel? channel with
  | none => .error (.timeout ⟨0⟩)
  | some channel => (channel.concludeCode.mapError Failure.ofReplyError).bind verdict

/-- The payload that a reply channel gives in the end. -/
def payloadOf (deployment : Deployment σ) (channel : ChannelId) :
    Except Failure (Option ComponentName) :=
  match deployment.exchange.channel? channel with
  | none => .error (.timeout ⟨0⟩)
  | some channel => (channel.concludePayload ComponentName).mapError Failure.ofReplyError

/-- Makes a request, waits, and reads the reply channel. -/
def inquire {α : Type} (deployment : Deployment σ) (owner : Nat) (manager : Manager)
    (request : ChannelId → Request) (meanwhile : Deployment σ → Deployment σ)
    (read : Deployment σ → ChannelId → Except Failure α) :
    Except Failure α × Deployment σ :=
  match deployment.issue owner manager request with
  | (.error failure, deployment) => (.error failure, deployment)
  | (.ok channel, deployment) =>
      let deployment := (meanwhile deployment).await channel
      (read deployment channel, deployment)

def isFeatureEnabled (deployment : Deployment σ) (owner : Nat)
    (meanwhile : Deployment σ → Deployment σ) : Except Failure Bool × Deployment σ :=
  match deployment.managers[owner]? with
  | none => (.ok false, deployment)
  | some manager => deployment.inquire owner manager .featureEnabled meanwhile answerOf

/-- Asks for the feature to be turned on or off for the user.  The answer says
whether the service acknowledges it. -/
def setFeatureEnabled (deployment : Deployment σ) (owner : Nat) (enabled : Bool)
    (meanwhile : Deployment σ → Deployment σ) : Except Failure Bool × Deployment σ :=
  match deployment.managers[owner]? with
  | none => (.ok false, deployment)
  | some manager => deployment.inquire owner manager (.setFeatureEnabled enabled) meanwhile answerOf

/-- Asks for the component of the service.  A manager for which capture is off
does not ask. -/
def serviceComponentName (deployment : Deployment σ) (owner : Nat)
    (meanwhile : Deployment σ → Deployment σ) :
    Except Failure (Option ComponentName) × Deployment σ :=
  let (enabled, deployment) := deployment.isEnabled owner
  match deployment.managers[owner]? with
  | none => (.ok none, deployment)
  | some manager =>
      if enabled then deployment.inquire owner manager .serviceComponentName meanwhile payloadOf
      else (.ok none, deployment)

end Deployment
end ContentCapture
