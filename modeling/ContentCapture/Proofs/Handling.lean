import ContentCapture.Proofs.Delivery

namespace ContentCapture

/-!
# Reply channels in hand

Between two events every reply channel that was made lies somewhere: with a request
that waits in a queue, or with the service.  Within an event one channel at a time
is in hand.  It was just made, or has just been taken from a queue together with
its request, and it is handed on in the next step.

What is true of a service and of its channels is best seen one such step at a time.
-/

namespace Deployment

variable {σ : Type}

/-- What the service was asked, the first request first. -/
def asked (deployment : Deployment σ) : List Envelope :=
  deployment.journal.filterMap fun
    | .asked _ envelope _ => some envelope
    | .posted _ => none

/-- Whether the service could always be reached. -/
def AlwaysReached (deployment : Deployment σ) : Prop :=
  ∀ entry ∈ deployment.journal, ∀ asker envelope failure,
    entry ≠ .asked asker envelope (.error failure)

/-- The journal of the second deployment is that of the first one, perhaps with
another job that was posted. -/
def OnlyPosted (first second : Deployment σ) : Prop :=
  second.journal = first.journal ∨ ∃ job, second.journal = first.journal ++ [.posted job]

theorem OnlyPosted.asked {first second : Deployment σ} (only : OnlyPosted first second) :
    second.asked = first.asked := by
  rcases only with same | ⟨job, same⟩ <;> simp [Deployment.asked, same]

theorem OnlyPosted.alwaysReached {first second : Deployment σ} (only : OnlyPosted first second)
    (reached : first.AlwaysReached) : second.AlwaysReached := by
  rcases only with same | ⟨job, same⟩
  · rw [AlwaysReached, same]
    exact reached
  · rw [AlwaysReached, same]
    intro entry member
    rcases List.mem_append.mp member with member | member
    · exact reached entry member
    · rw [List.mem_singleton.mp member]
      simp

/-- Nobody is severed from a service that could always be reached. -/
theorem AlwaysReached.isSevered {deployment : Deployment σ} (reached : deployment.AlwaysReached)
    (owner : Nat) : deployment.isSevered owner = false := by
  by_contra severed
  rcases exists_of_isSevered (eq_true_of_ne_false severed) with ⟨envelope, failure, inJournal, -⟩
  exact reached _ inJournal (some owner) envelope failure rfl

variable [Service σ]

/-- One step of an event, between deployments with the channels in hand. -/
inductive Handling : List ChannelId → Deployment σ → List ChannelId → Deployment σ → Prop
  /-- Nothing is done to the service, its channels or the queues. -/
  | quiet (hand : List ChannelId) {first second : Deployment σ}
      (service : second.service = first.service) (exchange : second.exchange = first.exchange)
      (dispatchers : second.dispatchers = first.dispatchers)
      (journal : OnlyPosted first second) : Handling hand first hand second
  | channel (deployment : Deployment σ) (timeout : Span) :
      Handling [] deployment [(deployment.newChannel timeout).1] (deployment.newChannel timeout).2
  | ask (deployment : Deployment σ) (asker : Option Nat) (envelope : Envelope) :
      Handling envelope.request.channel?.toList deployment [] (deployment.ask asker envelope).2
  | discard (deployment : Deployment σ) (request : Request) :
      Handling request.channel?.toList deployment [] (deployment.discard request)
  | enqueue (deployment : Deployment σ) {dispatcher : Nat} {queue : Dispatcher Job}
      (hqueue : deployment.dispatchers[dispatcher]? = some queue) (job : Job) :
      Handling job.request.channel?.toList deployment []
        (deployment.withDispatcher dispatcher (queue.push job))
  | take (deployment : Deployment σ) {dispatcher : Nat} {queue rest : Dispatcher Job} {job : Job}
      (hqueue : deployment.dispatchers[dispatcher]? = some queue)
      (popped : queue.pop? = some (job, rest)) :
      Handling [] deployment job.request.channel?.toList
        (deployment.withDispatcher dispatcher rest)

theorem Handling.precedes {hand after : List ChannelId} {first second : Deployment σ}
    (step : Handling hand first after second) : first.exchange.Precedes second.exchange := by
  cases step with
  | quiet _ service exchange dispatchers journal =>
      rw [exchange]
      exact .refl _
  | channel _ timeout => exact Exchange.precedes_newChannel _ timeout
  | ask _ asker envelope => exact precedes_ask first asker envelope
  | discard _ request => exact Exchange.precedes_answerAll _ _
  | enqueue hqueue job => exact .refl _
  | take hqueue popped => exact .refl _

/-- Any number of such steps. -/
inductive Handled (hand : List ChannelId) (first : Deployment σ) :
    List ChannelId → Deployment σ → Prop
  | refl : Handled hand first hand first
  | tail {between after : List ChannelId} {second third : Deployment σ}
      (before : Handled hand first between second) (step : Handling between second after third) :
      Handled hand first after third

namespace Handled

variable {hand between after : List ChannelId} {first second third : Deployment σ}

theorem single (step : Handling hand first after second) : Handled hand first after second :=
  .tail .refl step

theorem trans (before : Handled hand first between second)
    (later : Handled between second after third) : Handled hand first after third := by
  induction later with
  | refl => exact before
  | tail _ step inductionHypothesis => exact .tail inductionHypothesis step

/-- What every step keeps. -/
theorem keeps {property : List ChannelId → Deployment σ → Prop}
    (chain : Handled hand first after second)
    (step : ∀ {hand first after second}, Handling hand first after second →
      property hand first → property after second)
    (holds : property hand first) : property after second := by
  induction chain with
  | refl => exact holds
  | tail _ last inductionHypothesis => exact step last inductionHypothesis

end Handled

/-! ## Events as such steps -/

theorem handled_run (deployment : Deployment σ) (job : Job) :
    Handled job.request.channel?.toList deployment [] (deployment.run job) := by
  have asked : Handled job.request.channel?.toList deployment []
      (deployment.ask (some job.owner) ⟨job.caller, job.request⟩).2 :=
    .single (.ask deployment (some job.owner) ⟨job.caller, job.request⟩)
  rw [run_eq]
  split
  · exact asked.tail (.quiet [] rfl rfl rfl (.inl rfl))
  · exact asked

theorem handled_post (deployment : Deployment σ) (dispatcher : Nat) (job : Job) :
    Handled job.request.channel?.toList deployment [] (deployment.post dispatcher job) := by
  have noted : Handled job.request.channel?.toList deployment job.request.channel?.toList
      (deployment.noted (.posted job)) := .single (.quiet _ rfl rfl rfl (.inr ⟨job, rfl⟩))
  simp only [post]
  split
  · exact noted.tail (.discard _ job.request)
  · next queue hqueue =>
      split
      · exact noted.trans (handled_run _ job)
      · exact noted.tail (.enqueue _ hqueue job)
      · exact noted.tail (.discard _ job.request)

theorem handled_work (deployment : Deployment σ) (dispatcher : Nat) :
    Handled [] deployment [] (deployment.work dispatcher) := by
  unfold work
  split
  · exact .refl
  · next job rest hpopped =>
      rcases Option.bind_eq_some_iff.mp hpopped with ⟨queue, hqueue, popped⟩
      exact (Handled.single (.take deployment hqueue popped)).trans (handled_run _ job)

theorem handled_postRequest {deployment : Deployment σ} {owner : Nat} {session : Session}
    (hsession : deployment.session? owner = some session) (request : Request) :
    Handled request.channel?.toList deployment [] (deployment.postRequest owner request) := by
  rcases manager_of_session? hsession with ⟨manager, hmanager, -⟩
  rw [postRequest, hmanager]
  exact handled_post deployment manager.dispatcher ⟨owner, manager.caller, request⟩

/-- An operation on a manager makes its channels and hands them on. -/
theorem Elementary.handled {owner : Nat} {first second : Deployment σ}
    (step : Elementary owner first second) : Handled [] first [] second := by
  cases step with
  | join manager fresh => exact .single (.quiet [] rfl rfl rfl (.inl rfl))
  | make hmanager fresh =>
      exact .single (.quiet [] (service_ensureSession first owner)
        (exchange_ensureSession first owner) (dispatchers_ensureSession first owner)
        (.inl (journal_ensureSession first owner)))
  | mark change => exact .single (.quiet [] rfl rfl rfl (.inl rfl))
  | revise change same => exact .single (.quiet [] rfl rfl rfl (.inl rfl))
  | @began manager session hmanager hsession token component flags =>
      have there : first.session? owner = some session :=
        (session?_of_manager hmanager).trans hsession
      have inHand : Handled [] first [(first.newChannel manager.timeout).1]
          (first.opening owner manager token component flags) :=
        (Handled.single (.channel first manager.timeout)).tail (.quiet _ rfl rfl rfl (.inl rfl))
      have posted := handled_postRequest (session?_opening there manager token component flags)
        (.startSession ⟨session.id, token, component, flags⟩ (first.newChannel manager.timeout).1)
      exact inHand.trans posted
  | @post session request hsession hrequest silent =>
      have posted := handled_postRequest hsession request
      rw [silent] at posted
      exact posted
  | put question =>
      cases hmanager : first.managers[owner]? with
      | none =>
          rw [put_eq_self hmanager]
          exact .refl
      | some manager =>
          rw [put_eq hmanager]
          have asked := Handling.ask (first.newChannel manager.timeout).2 (some owner)
            ⟨manager.caller, question.request (first.newChannel manager.timeout).1⟩
          have carried : (question.request (first.newChannel manager.timeout).1).channel?.toList =
              [(first.newChannel manager.timeout).1] := by cases question <;> rfl
          rw [carried] at asked
          exact (Handled.single (.channel first manager.timeout)).tail asked
  | @remove manager removal hmanager =>
      exact .single (.ask first (some owner) ⟨manager.caller, .removeUserData removal⟩)

/-- What every such step keeps, and what also the service on its own and the time
keep, is kept by an event. -/
theorem after_keeps_handling [Autonomous σ] {property : List ChannelId → Deployment σ → Prop}
    (step : ∀ {hand first after second}, Handling hand first after second →
      property hand first → property after second)
    (acted : ∀ deployment act, property [] deployment → property [] (deployment.acted act))
    (elapse : ∀ (deployment : Deployment σ) now, property [] deployment →
      property [] { deployment with exchange := deployment.exchange.reached now })
    {deployment : Deployment σ} (event : Event σ) (holds : property [] deployment) :
    property [] (deployment.after event) :=
  after_keeps (fun _ _ _ elementary => elementary.handled.keeps step)
    (fun deployment dispatcher => (deployment.handled_work dispatcher).keeps step) acted elapse
    event holds

end Deployment
end ContentCapture
