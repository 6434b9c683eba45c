import ContentCapture.Proofs.Handling

namespace ContentCapture

/-!
# What has happened stays

A manager keeps its caller, its dispatcher and the id of its session, a dispatcher
keeps its mode, lines are added to the journal at its end only, and an outcome that
was decided is final.  One deployment precedes another if all that is so between
them.

Whoever knows this of the end of a run knows it of every point of the run.
-/

namespace Deployment

variable {σ : Type}

/-- The second deployment may have come out of the first one. -/
structure Precedes (first second : Deployment σ) : Prop where
  extension : Extends first second
  modes : ∀ dispatcher, second.mode? dispatcher = first.mode? dispatcher
  journal : first.journal <+: second.journal
  exchange : first.exchange.Precedes second.exchange

namespace Precedes

variable {first second third : Deployment σ}

theorem refl (deployment : Deployment σ) : deployment.Precedes deployment :=
  ⟨.refl deployment, fun _ => rfl, List.prefix_refl _, .refl _⟩

theorem trans (earlier : first.Precedes second) (later : second.Precedes third) :
    first.Precedes third where
  extension := earlier.extension.trans later.extension
  modes dispatcher := (later.modes dispatcher).trans (earlier.modes dispatcher)
  journal := earlier.journal.trans later.journal
  exchange := earlier.exchange.trans later.exchange

/-- The dispatcher of a manager took jobs all along. -/
theorem isLive (precedes : first.Precedes second) (dispatcher : Nat) :
    second.isLive dispatcher = first.isLive dispatcher :=
  congrArg (Option.any Dispatcher.Mode.isLive) (precedes.modes dispatcher)

/-- What the session of a manager posts comes after what it has posted. -/
theorem posts (precedes : first.Precedes second) (owner : Nat) :
    first.posts owner <+: second.posts owner := by
  rcases precedes.journal with ⟨rest, hrest⟩
  exact ⟨rest.filterMap (Entry.posted? owner), by simp [Deployment.posts, ← hrest]⟩

end Precedes

variable [Service σ]

/-! ## Steps -/

theorem extends_post (deployment : Deployment σ) (dispatcher : Nat) (job : Job) :
    Extends deployment (deployment.post dispatcher job) := by
  have noted : Extends deployment (deployment.noted (.posted job)) := .of_eq rfl
  simp only [post]
  split
  · exact noted.trans (.of_eq rfl)
  · split
    · exact noted.trans (extends_run _ job)
    · exact noted.trans (.of_eq rfl)
    · exact noted.trans (.of_eq rfl)

theorem extends_postRequest (deployment : Deployment σ) (owner : Nat) (request : Request) :
    Extends deployment (deployment.postRequest owner request) := by
  unfold postRequest
  split
  · exact .refl deployment
  · exact deployment.extends_post _ _

theorem Elementary.extension {owner : Nat} {first second : Deployment σ}
    (step : Elementary owner first second) : Extends first second := by
  cases step with
  | join manager fresh => exact extends_addManager first manager
  | make hmanager fresh => exact extends_ensureSession first owner
  | mark change => exact extends_mark first owner change
  | revise change same => exact extends_updateSession first owner same
  | @began manager _ hmanager hsession token component flags =>
      have opened := first.extends_opening owner manager token component flags
      rw [began_eq]
      exact opened.trans (extends_postRequest _ owner _)
  | post hsession hrequest silent => exact first.extends_postRequest owner _
  | put question =>
      cases hmanager : first.managers[owner]? with
      | none =>
          rw [put_eq_self hmanager]
          exact .refl first
      | some manager =>
          rw [put_eq hmanager]
          exact .of_eq rfl
  | remove removal hmanager => exact .of_eq rfl

/-- Whatever is done to the service, its channels and the queues, outcomes, modes
and lines of the journal stay. -/
theorem Handling.advances {hand after : List ChannelId} {first second : Deployment σ}
    (step : Handling hand first after second) :
    (∀ dispatcher, second.mode? dispatcher = first.mode? dispatcher) ∧
      first.journal <+: second.journal ∧ first.exchange.Precedes second.exchange := by
  have outcomes := step.precedes
  cases step with
  | quiet _ service exchange dispatchers journal =>
      refine ⟨fun dispatcher => by simp [mode?, dispatchers], ?_, outcomes⟩
      rcases journal with same | ⟨job, same⟩ <;> simp [same]
  | channel _ timeout => exact ⟨fun _ => rfl, List.prefix_refl _, outcomes⟩
  | ask _ asker envelope => exact ⟨fun _ => rfl, List.prefix_append _ _, outcomes⟩
  | discard _ request => exact ⟨fun _ => rfl, List.prefix_refl _, outcomes⟩
  | enqueue _ hqueue job =>
      exact ⟨mode?_withDispatcher hqueue rfl, List.prefix_refl _, outcomes⟩
  | take _ hqueue popped =>
      exact ⟨mode?_withDispatcher hqueue (Dispatcher.of_pop? popped).2, List.prefix_refl _,
        outcomes⟩

theorem Handled.advances {hand after : List ChannelId} {first second : Deployment σ}
    (chain : Handled hand first after second) :
    (∀ dispatcher, second.mode? dispatcher = first.mode? dispatcher) ∧
      first.journal <+: second.journal ∧ first.exchange.Precedes second.exchange := by
  induction chain with
  | refl => exact ⟨fun _ => rfl, List.prefix_refl _, .refl _⟩
  | tail _ step inductionHypothesis =>
      rcases inductionHypothesis with ⟨modes, journal, exchange⟩
      rcases step.advances with ⟨sameModes, lines, outcomes⟩
      exact ⟨fun dispatcher => (sameModes dispatcher).trans (modes dispatcher),
        journal.trans lines, exchange.trans outcomes⟩

theorem Handled.precedes {hand after : List ChannelId} {first second : Deployment σ}
    (chain : Handled hand first after second) (extension : Extends first second) :
    first.Precedes second :=
  ⟨extension, chain.advances.1, chain.advances.2.1, chain.advances.2.2⟩

theorem Elementary.precedes {owner : Nat} {first second : Deployment σ}
    (step : Elementary owner first second) : first.Precedes second :=
  step.handled.precedes step.extension

theorem Chain.precedes {owner : Nat} {first second : Deployment σ}
    (chain : Chain owner first second) : first.Precedes second :=
  chain.keeps (fun _ _ step before => before.trans step.precedes) (.refl first)

theorem precedes_work (deployment : Deployment σ) (dispatcher : Nat) :
    deployment.Precedes (deployment.work dispatcher) := by
  apply (deployment.handled_work dispatcher).precedes
  unfold work
  split
  · exact .refl deployment
  · next job queue _ =>
      have popped : Extends deployment
          { deployment with dispatchers := deployment.dispatchers.set dispatcher queue } :=
        .of_eq rfl
      exact popped.trans (extends_run _ job)

/-! ## Runs -/

variable [Autonomous σ]

theorem precedes_after (deployment : Deployment σ) (event : Event σ) :
    deployment.Precedes (deployment.after event) := by
  cases event with
  | operation operation =>
      rcases deployment.exists_chain_perform operation with ⟨owner, chain⟩
      exact chain.precedes
  | work dispatcher => exact deployment.precedes_work dispatcher
  | act act =>
      exact ⟨.of_eq rfl, fun _ => rfl, List.prefix_refl _, Exchange.precedes_answerAll _ _⟩
  | elapse now =>
      exact ⟨.of_eq rfl, fun _ => rfl, List.prefix_refl _, Exchange.precedes_reached _ now⟩

theorem precedes_follow (deployment : Deployment σ) (events : List (Event σ)) :
    deployment.Precedes (deployment.follow events) := by
  have after : ∀ (between : Deployment σ) (event : Event σ), deployment.Precedes between →
      deployment.Precedes (between.after event) :=
    fun between event before => before.trans (between.precedes_after event)
  exact follow_keeps after (.refl deployment) events

/-- Every point of a run precedes its end. -/
theorem precedes_of_prefix (deployment : Deployment σ) {events more : List (Event σ)}
    (h : events <+: more) : (deployment.follow events).Precedes (deployment.follow more) := by
  rcases h with ⟨rest, rfl⟩
  rw [follow_append]
  exact precedes_follow _ rest

end Deployment
end ContentCapture
