import ContentCapture.Proofs.Outlines
import ContentCapture.Proofs.Outspoken

namespace ContentCapture

/-!
# Schedules do not matter to a service that refuses nothing

Two runs with the same operations may differ in everything else: in when the dispatchers
run their jobs, in what the service does on its own, and in how much time passes.  As
long as the service refuses nothing, none of that has an influence on what is posted.

With one dispatcher for all, what was asked and what waits is what was posted, in the
order of posting.  Once nothing waits, the service was therefore asked the same,
whether the dispatcher runs its jobs at once or lets them wait.
-/

/-! ## Runs with the same operations -/

def Event.operation? {σ : Type} [Autonomous σ] : Event σ → Option Operation
  | .operation performed => some performed
  | _ => none

def operations {σ : Type} [Autonomous σ] (events : List (Event σ)) : List Operation :=
  events.filterMap Event.operation?

section

variable {σ : Type} [Autonomous σ]

theorem operations_concat (events : List (Event σ)) (event : Event σ) :
    operations (events ++ [event]) = operations events ++ event.operation?.toList := by
  rw [operations, List.filterMap_append]
  cases hoperation : event.operation? <;> simp [operations, hoperation]

/-- Two runs with the same operations come about step by step: one of them takes a step
that is no operation, or both take the same one. -/
theorem operations_induction {property : List (Event σ) → List (Event σ) → Prop}
    (start : property [] [])
    (left : ∀ first second event, event.operation? = none → property first second →
      property (first ++ [event]) second)
    (right : ∀ first second event, event.operation? = none → property first second →
      property first (second ++ [event]))
    (both : ∀ first second operation, property first second →
      property (first ++ [.operation operation]) (second ++ [.operation operation]))
    {first second : List (Event σ)} (same : operations first = operations second) :
    property first second := by
  induction first using List.reverseRecOn generalizing second with
  | nil =>
      induction second using List.reverseRecOn with
      | nil => exact start
      | append_singleton second event inductionHypothesis =>
          rw [operations_concat] at same
          rcases List.append_eq_nil_iff.mp same.symm with ⟨none, silent⟩
          exact right [] second event (Option.toList_eq_nil_iff.mp silent)
            (inductionHypothesis none.symm)
  | append_singleton first event outer =>
      cases hevent : event.operation? with
      | none =>
          rw [operations_concat, hevent, Option.toList_none, List.append_nil] at same
          exact left first second event hevent (outer same)
      | some operation =>
          have whole : event = .operation operation := by
            cases event <;> cases hevent
            rfl
          subst whole
          induction second using List.reverseRecOn with
          | nil => simp [operations, hevent] at same
          | append_singleton second last inner =>
              cases hlast : last.operation? with
              | none =>
                  rw [operations_concat second, hlast, Option.toList_none, List.append_nil] at same
                  exact right _ second last hlast (inner same)
              | some twin =>
                  have wholeTwin : last = .operation twin := by
                    cases last <;> cases hlast
                    rfl
                  subst wholeTwin
                  rw [operations_concat, operations_concat] at same
                  rcases List.append_inj' same rfl with ⟨before, now⟩
                  cases now
                  exact both first second operation (outer before)

end

namespace Deployment

variable {σ : Type}

/-! ## All that was posted -/

/-- What was posted by all sessions, the first request first. -/
def posted (deployment : Deployment σ) : List Request :=
  deployment.journal.filterMap fun
    | .posted job => some job.request
    | .asked _ _ _ => none

/-- What the service was asked on behalf of sessions, the first request first. -/
def calls (deployment : Deployment σ) : List Request :=
  deployment.journal.filterMap fun
    | .posted _ => none
    | .asked _ envelope _ =>
        if envelope.request.session?.isSome then some envelope.request else none

theorem posted_noted_posted (deployment : Deployment σ) (job : Job) :
    (deployment.noted (.posted job)).posted = deployment.posted ++ [job.request] := by
  simp [posted, noted, List.filterMap_append]

variable [Service σ]

theorem posted_ask (deployment : Deployment σ) (asker : Option Nat) (envelope : Envelope) :
    (deployment.ask asker envelope).2.posted = deployment.posted := by
  simp [posted, journal_ask]

theorem posted_run (deployment : Deployment σ) (job : Job) :
    (deployment.run job).posted = deployment.posted := by
  simp [posted, journal_run, runLine]

theorem posted_post (deployment : Deployment σ) (dispatcher : Nat) (job : Job) :
    (deployment.post dispatcher job).posted = deployment.posted ++ [job.request] := by
  have noted := deployment.posted_noted_posted job
  simp only [post]
  split
  · exact noted
  · split
    · exact (posted_run _ job).trans noted
    · exact noted
    · exact noted

/-- What a manager adds to all that was posted is what it adds for its own session. -/
theorem exists_posted_postRequest (deployment : Deployment σ) (owner : Nat) (request : Request) :
    ∃ requests, (deployment.postRequest owner request).posted = deployment.posted ++ requests ∧
      (deployment.postRequest owner request).posts owner = deployment.posts owner ++ requests := by
  unfold postRequest
  split
  · exact ⟨[], by simp⟩
  · next manager _ =>
      let job : Job := ⟨owner, manager.caller, request⟩
      refine ⟨[request], deployment.posted_post manager.dispatcher job, ?_⟩
      rw [(sequel_post deployment owner manager.dispatcher job).posts, posts_posted,
        List.append_nil]
      simp [Job.request?, job]

theorem Elementary.exists_posted {owner : Nat} {first second : Deployment σ}
    (step : Elementary owner first second) :
    ∃ requests, second.posted = first.posted ++ requests ∧
      second.posts owner = first.posts owner ++ requests := by
  have unchanged : second.journal = first.journal →
      ∃ requests, second.posted = first.posted ++ requests ∧
        second.posts owner = first.posts owner ++ requests :=
    fun same => ⟨[], by simp [posted, same], by simp [posts, same]⟩
  cases step with
  | join manager fresh => exact unchanged rfl
  | make hmanager fresh => exact unchanged (journal_ensureSession first owner)
  | mark change => exact unchanged rfl
  | revise change same => exact unchanged rfl
  | @began manager session hmanager hsession token component flags =>
      rw [began_eq]
      exact exists_posted_postRequest (first.opening owner manager token component flags) owner _
  | post hsession hrequest silent => exact first.exists_posted_postRequest owner _
  | put question =>
      refine ⟨[], ?_, (sequel_put first owner owner question).posts⟩
      cases hmanager : first.managers[owner]? with
      | none => simp [put_eq_self hmanager]
      | some manager =>
          rw [put_eq hmanager, List.append_nil]
          exact posted_ask _ _ _
  | remove removal hmanager => exact ⟨[], by simp [posted_ask], by simp [posts_ask]⟩

theorem Chain.exists_posted {owner : Nat} {first second : Deployment σ}
    (chain : Chain owner first second) :
    ∃ requests, second.posted = first.posted ++ requests ∧
      second.posts owner = first.posts owner ++ requests := by
  induction chain with
  | refl => exact ⟨[], by simp⟩
  | tail _ step inductionHypothesis =>
      rcases inductionHypothesis with ⟨earlier, posted, posts⟩
      rcases step.exists_posted with ⟨later, morePosted, morePosts⟩
      exact ⟨earlier ++ later, by rw [morePosted, posted, List.append_assoc],
        by rw [morePosts, posts, List.append_assoc]⟩

variable [Autonomous σ]

/-- Steps that are no operations post nothing, change no outline, and begin and end no
cycle. -/
theorem posted_after_of_silent (deployment : Deployment σ) {event : Event σ}
    (silent : event.operation? = none) :
    (deployment.after event).posted = deployment.posted ∧
      (deployment.after event).outline = deployment.outline := by
  cases event with
  | operation operation => cases silent
  | work dispatcher =>
      refine ⟨?_, deployment.outline_work dispatcher⟩
      change (deployment.work dispatcher).posted = deployment.posted
      unfold work
      split
      · rfl
      · exact posted_run _ _
  | act act => exact ⟨rfl, rfl⟩
  | elapse now => exact ⟨rfl, rfl⟩

omit [Service σ] in
theorem recount_of_silent (deployment : Deployment σ) (owner : Nat) (cycles : List Cycle)
    {event : Event σ} (silent : event.operation? = none) :
    deployment.recount owner cycles event = cycles := by
  cases event with
  | operation operation => cases silent
  | _ => rfl

/-! ## Two runs -/

/-- Outspoken sessions with the same cycles have said the same. -/
theorem map_bare_posts {first second : Deployment σ} {events more : List (Event σ)}
    (freshFirst : first.Fresh) (freshSecond : second.Fresh)
    (outline : (first.follow events).outline = (second.follow more).outline) (owner : Nat)
    (cycles : first.cycles owner events = second.cycles owner more)
    (obligingFirst : (first.follow events).Obliging)
    (obligingSecond : (second.follow more).Obliging) :
    ((first.follow events).posts owner).map Request.bare =
      ((second.follow more).posts owner).map Request.bare := by
  have ids := map_id_congr outline owner
  cases hsession : (first.follow events).session? owner with
  | none =>
      rw [hsession, Option.map_none, eq_comm, Option.map_eq_none_iff] at ids
      rw [((delivery_follow freshFirst events).silent hsession 0).1,
        ((delivery_follow freshSecond more).silent ids 0).1]
  | some session =>
      rw [hsession, Option.map_some, eq_comm, Option.map_eq_some_iff] at ids
      rcases ids with ⟨twin, htwin, same⟩
      rw [obligingFirst.outspoken freshFirst owner session hsession,
        obligingSecond.outspoken freshSecond owner twin htwin, cycles, same]

/-- Two runs in which the same was said. -/
structure Alike (first second : Deployment σ) (events more : List (Event σ)) : Prop where
  outline : (first.follow events).outline = (second.follow more).outline
  cycles : ∀ owner, first.cycles owner events = second.cycles owner more
  posted : (first.follow events).posted.map Request.bare =
    (second.follow more).posted.map Request.bare

namespace Alike

variable {first second : Deployment σ} {events more : List (Event σ)}

theorem symm (alike : Alike first second events more) : Alike second first more events :=
  ⟨alike.outline.symm, fun owner => (alike.cycles owner).symm, alike.posted.symm⟩

theorem left (alike : Alike first second events more) {event : Event σ}
    (silent : event.operation? = none) : Alike first second (events ++ [event]) more where
  outline := by
    rw [follow_concat, ((first.follow events).posted_after_of_silent silent).2]
    exact alike.outline
  cycles owner := by
    rw [cycles_concat, (first.follow events).recount_of_silent owner _ silent]
    exact alike.cycles owner
  posted := by
    rw [follow_concat, ((first.follow events).posted_after_of_silent silent).1]
    exact alike.posted

theorem recounted_congr (alike : Alike first second events more) (owner : Nat)
    (freshFirst : first.Fresh) (freshSecond : second.Fresh)
    (obligingFirst : (first.follow events).Obliging)
    (obligingSecond : (second.follow more).Obliging) (operation : Operation) :
    (first.follow events).recounted owner (first.cycles owner events) operation =
      (second.follow more).recounted owner (second.cycles owner more) operation := by
  have accountedFirst := accounted_follow freshFirst events owner
  have accountedSecond := accounted_follow freshSecond more owner
  simp only [recounted, opening?_congr alike.outline owner operation]
  rw [obligingFirst.map_endedBy accountedFirst, obligingSecond.map_endedBy accountedSecond,
    alike.cycles]

/-- Both runs take the same operation. -/
theorem both (alike : Alike first second events more) (freshFirst : first.Fresh)
    (freshSecond : second.Fresh) (operation : Operation)
    (obligingFirst : (first.follow (events ++ [.operation operation])).Obliging)
    (obligingSecond : (second.follow (more ++ [.operation operation])).Obliging) :
    Alike first second (events ++ [.operation operation]) (more ++ [.operation operation]) := by
  have beforeFirst := obligingFirst.before
    (first.precedes_of_prefix (List.prefix_append events [.operation operation]))
  have beforeSecond := obligingSecond.before
    (second.precedes_of_prefix (List.prefix_append more [.operation operation]))
  have outline : (first.follow (events ++ [.operation operation])).outline =
      (second.follow (more ++ [.operation operation])).outline := by
    rw [follow_concat, follow_concat]
    change ((first.follow events).perform operation).outline =
      ((second.follow more).perform operation).outline
    rw [outline_perform, outline_perform, alike.outline]
  have cycles : ∀ owner, first.cycles owner (events ++ [.operation operation]) =
      second.cycles owner (more ++ [.operation operation]) := by
    intro owner
    rw [cycles_concat, cycles_concat]
    exact alike.recounted_congr owner freshFirst freshSecond beforeFirst beforeSecond operation
  have onlyWho : ∀ who ∈ operation.owner?, who = operation.owner?.getD 0 := by
    intro who hwho
    rw [hwho]
    rfl
  let who := operation.owner?.getD 0
  have before := map_bare_posts freshFirst freshSecond alike.outline who (alike.cycles who)
    beforeFirst beforeSecond
  have now := map_bare_posts freshFirst freshSecond outline who (cycles who) obligingFirst
    obligingSecond
  rcases ((first.follow events).chain_perform operation onlyWho).exists_posted with
    ⟨requests, posted, posts⟩
  rcases ((second.follow more).chain_perform operation onlyWho).exists_posted with
    ⟨twins, postedTwins, postsTwins⟩
  refine ⟨outline, cycles, ?_⟩
  rw [follow_concat, follow_concat] at now ⊢
  change (((first.follow events).perform operation).posts who).map Request.bare =
    (((second.follow more).perform operation).posts who).map Request.bare at now
  change ((first.follow events).perform operation).posted.map Request.bare =
    ((second.follow more).perform operation).posted.map Request.bare
  rw [posts, postsTwins, List.map_append, List.map_append, before,
    List.append_cancel_left_eq] at now
  rw [posted, postedTwins, List.map_append, List.map_append, alike.posted, now]

end Alike

/-- Around a service that refuses nothing, runs with the same operations say the same. -/
theorem alike_follow {first second : Deployment σ} (freshFirst : first.Fresh)
    (freshSecond : second.Fresh) (outline : first.outline = second.outline)
    {events more : List (Event σ)} (same : operations events = operations more)
    (obligingFirst : (first.follow events).Obliging)
    (obligingSecond : (second.follow more).Obliging) : Alike first second events more := by
  let property : List (Event σ) → List (Event σ) → Prop := fun events more =>
    (first.follow events).Obliging → (second.follow more).Obliging →
      Alike first second events more
  have kept : property events more := by
    apply operations_induction _ _ _ _ same
    · intro _ _
      refine ⟨outline, fun _ => rfl, ?_⟩
      simp [posted, freshFirst.journal, freshSecond.journal]
    · intro events more event silent inductionHypothesis obligingFirst obligingSecond
      have before := obligingFirst.before
        (first.precedes_of_prefix (List.prefix_append events [event]))
      exact (inductionHypothesis before obligingSecond).left silent
    · intro events more event silent inductionHypothesis obligingFirst obligingSecond
      have before := obligingSecond.before
        (second.precedes_of_prefix (List.prefix_append more [event]))
      exact ((inductionHypothesis obligingFirst before).symm.left silent).symm
    · intro events more operation inductionHypothesis obligingFirst obligingSecond
      have beforeFirst := obligingFirst.before
        (first.precedes_of_prefix (List.prefix_append events [.operation operation]))
      have beforeSecond := obligingSecond.before
        (second.precedes_of_prefix (List.prefix_append more [.operation operation]))
      exact (inductionHypothesis beforeFirst beforeSecond).both freshFirst freshSecond operation
        obligingFirst obligingSecond
  exact kept obligingFirst obligingSecond

/-! ## One dispatcher for all -/

/-- All managers have the same dispatcher, and it takes jobs. -/
structure Shared (deployment : Deployment σ) (dispatcher : Nat) : Prop where
  managers : ∀ (owner : Nat) (manager : Manager), deployment.managers[owner]? = some manager →
    manager.dispatcher = dispatcher
  live : deployment.isLive dispatcher = true

omit [Service σ] [Autonomous σ] in
theorem Shared.before {first second : Deployment σ} {dispatcher : Nat}
    (shared : second.Shared dispatcher) (precedes : first.Precedes second) :
    first.Shared dispatcher where
  managers owner manager hmanager := by
    rcases precedes.extension owner manager hmanager with ⟨later, hlater, -, same, -⟩
    exact same.symm.trans (shared.managers owner later hlater)
  live := (precedes.isLive dispatcher).symm.trans shared.live

omit [Service σ] [Autonomous σ] in
theorem Shared.updateSession {deployment : Deployment σ} {dispatcher : Nat}
    (shared : deployment.Shared dispatcher) (owner : Nat) (change : Session → Session) :
    (deployment.updateSession owner change).Shared dispatcher where
  managers index manager hmanager := by
    rw [Deployment.updateSession, updateManager, List.getElem?_modify, Option.map_eq_map,
      Option.map_eq_some_iff] at hmanager
    rcases hmanager with ⟨former, hformer, rfl⟩
    split <;> exact shared.managers index former hformer
  live := shared.live

/-- What was asked and what waits is what was posted, in the order of posting. -/
def Lined (deployment : Deployment σ) (dispatcher : Nat) : Prop :=
  deployment.calls ++ (deployment.queue dispatcher).map Job.request = deployment.posted

omit [Autonomous σ] in
theorem calls_run (deployment : Deployment σ) {job : Job} (named : job.request.session?.isSome) :
    (deployment.run job).calls = deployment.calls ++ [job.request] := by
  simp [calls, journal_run, runLine, List.filterMap_append, named]

omit [Autonomous σ] in
theorem Lined.postRequest {deployment : Deployment σ} {dispatcher owner : Nat}
    (lined : deployment.Lined dispatcher) (shared : deployment.Shared dispatcher)
    (delivery : Delivery [] deployment) {request : Request} (named : request.session?.isSome) :
    (deployment.postRequest owner request).Lined dispatcher := by
  unfold Deployment.postRequest
  cases hmanager : deployment.managers[owner]? with
  | none => exact lined
  | some manager =>
      let job : Job := ⟨owner, manager.caller, request⟩
      have home := shared.managers owner manager hmanager
      have live := shared.live
      unfold Lined at lined ⊢
      rw [posted_post, ← lined]
      cases hqueue : deployment.dispatchers[dispatcher]? with
      | none => simp [isLive, mode?, hqueue] at live
      | some queue =>
          have jobs := queue_of_getElem? hqueue
          rw [isLive, mode?_of_getElem? hqueue] at live
          have calls : (deployment.noted (.posted job)).calls = deployment.calls := by
            simp [Deployment.calls, Deployment.noted]
          cases mode : queue.mode with
          | immediate =>
              have empty : deployment.queue dispatcher = [] := by
                refine List.eq_nil_iff_forall_not_mem.mpr fun waiting member => ?_
                have queued := (delivery.queued dispatcher waiting member).1
                simp [mode?, hqueue, mode] at queued
              have ran : deployment.post manager.dispatcher job =
                  (deployment.noted (.posted job)).run job := by
                simp [post, Deployment.noted, home, hqueue, mode]
              have still : ((deployment.noted (.posted job)).run job).queue dispatcher = [] := by
                rw [Deployment.queue, dispatchers_run]
                exact empty
              simp only
              rw [ran, calls_run _ named, calls, still, empty]
              simp [job]
          | queued =>
              have waits : deployment.post manager.dispatcher job =
                  (deployment.noted (.posted job)).withDispatcher dispatcher (queue.push job) := by
                simp [post, Deployment.noted, home, hqueue, mode, withDispatcher]
              have hnoted :
                  (deployment.noted (.posted job)).dispatchers[dispatcher]? = some queue := hqueue
              simp only
              rw [waits, queue_withDispatcher hnoted, if_pos rfl, jobs]
              change (deployment.noted (.posted job)).calls ++ _ = _
              rw [calls]
              simp [Dispatcher.push, job]
          | stopped => simp [mode, Dispatcher.Mode.isLive] at live

omit [Autonomous σ] in
theorem Lined.elementary {first second : Deployment σ} {dispatcher owner : Nat}
    (lined : first.Lined dispatcher) (shared : first.Shared dispatcher)
    (delivery : Delivery [] first) (step : Elementary owner first second) :
    second.Lined dispatcher := by
  have keep : second.queue dispatcher = first.queue dispatcher →
      second.calls = first.calls → second.posted = first.posted → second.Lined dispatcher := by
    intro queue calls posted
    rw [Lined, queue, calls, posted]
    exact lined
  have unasked : ∀ (before : Deployment σ) (asker : Option Nat) (envelope : Envelope),
      envelope.request.session? = none → (before.ask asker envelope).2.calls = before.calls := by
    intro before asker envelope unnamed
    simp [calls, journal_ask, List.filterMap_append, unnamed]
  cases step with
  | join manager fresh => exact keep rfl rfl rfl
  | make hmanager fresh =>
      refine keep ?_ ?_ ?_
      · rw [queue, dispatchers_ensureSession, ← queue]
      · rw [calls, journal_ensureSession, ← calls]
      · rw [posted, journal_ensureSession, ← posted]
  | mark change => exact keep rfl rfl rfl
  | revise change same => exact keep rfl rfl rfl
  | @began manager session hmanager hsession token component flags =>
      have there : first.session? owner = some session :=
        (session?_of_manager hmanager).trans hsession
      have extension := first.extends_opening owner manager token component flags
      have opened : (first.opening owner manager token component flags).Lined dispatcher := lined
      have channel : (first.newChannel manager.timeout).2.Shared dispatcher :=
        ⟨shared.managers, shared.live⟩
      rw [began_eq]
      exact opened.postRequest (channel.updateSession owner _) (delivery.extend extension rfl rfl)
        rfl
  | post hsession hrequest silent =>
      exact lined.postRequest shared delivery (by simp [hrequest])
  | put question =>
      cases hmanager : first.managers[owner]? with
      | none =>
          rw [put_eq_self hmanager]
          exact lined
      | some manager =>
          rw [put_eq hmanager] at keep ⊢
          refine keep rfl (unasked _ _ _ ?_) (posted_ask _ _ _)
          cases question <;> rfl
  | remove removal hmanager =>
      exact keep rfl (unasked _ _ _ rfl) (posted_ask _ _ _)

omit [Autonomous σ] in
theorem Lined.work {deployment : Deployment σ} {dispatcher : Nat}
    (lined : deployment.Lined dispatcher) (shared : deployment.Shared dispatcher)
    (delivery : Delivery [] deployment) (worker : Nat) :
    (deployment.work worker).Lined dispatcher := by
  unfold Deployment.work
  split
  · exact lined
  · next job rest hpopped =>
      rcases Option.bind_eq_some_iff.mp hpopped with ⟨former, hformer, popped⟩
      have jobs : deployment.queue worker = job :: rest.jobs :=
        (queue_of_getElem? hformer).trans (Dispatcher.of_pop? popped).1
      rcases delivery.queued worker job (by simp [jobs]) with ⟨-, signed, home⟩
      rcases signed with ⟨manager, session, hmanager, -, -, hrequest⟩
      have same : worker = dispatcher :=
        (home manager hmanager).symm.trans (shared.managers job.owner manager hmanager)
      subst same
      let taken := deployment.withDispatcher worker rest
      have still : (taken.run job).queue worker = rest.jobs := by
        rw [queue, dispatchers_run, ← queue, queue_withDispatcher hformer, if_pos rfl]
      have named : job.request.session?.isSome := by simp [hrequest]
      change (taken.run job).calls ++ ((taken.run job).queue worker).map Job.request =
        (taken.run job).posted
      rw [calls_run taken named, still, posted_run]
      change deployment.calls ++ [job.request] ++ _ = deployment.posted
      rw [← lined, jobs, List.append_assoc]
      rfl

/-- With one dispatcher for all no request overtakes another one. -/
theorem lined_follow {deployment : Deployment σ} (fresh : deployment.Fresh)
    {events : List (Event σ)} {dispatcher : Nat}
    (shared : (deployment.follow events).Shared dispatcher) :
    (deployment.follow events).Lined dispatcher := by
  let property : Deployment σ → Prop := fun between =>
    Delivery [] between ∧ (between.Shared dispatcher → between.Lined dispatcher)
  have step : ∀ (between : Deployment σ) (event : Event σ), property between →
      property (between.after event) := by
    intro between event holds
    refine after_keeps ?_ ?_ ?_ ?_ event holds
    · intro owner first second step holds
      refine ⟨holds.1.elementary step, fun shared => ?_⟩
      have before := shared.before step.precedes
      exact (holds.2 before).elementary before holds.1 step
    · intro between worker holds
      refine ⟨holds.1.work worker, fun shared => ?_⟩
      have before := shared.before (between.precedes_work worker)
      exact (holds.2 before).work before holds.1 worker
    · exact fun between act holds => ⟨holds.1.extend (.of_eq rfl) rfl rfl,
        fun shared => holds.2 ⟨shared.managers, shared.live⟩⟩
    · exact fun between now holds => ⟨holds.1.extend (.of_eq rfl) rfl rfl,
        fun shared => holds.2 ⟨shared.managers, shared.live⟩⟩
  have start : property deployment := by
    refine ⟨fresh.delivery, fun _ => ?_⟩
    have empty : deployment.queue dispatcher = [] := by
      cases hqueue : deployment.dispatchers[dispatcher]? with
      | none => simp [queue, hqueue]
      | some found =>
          rw [queue_of_getElem? hqueue, fresh.jobs found (List.mem_of_getElem? hqueue)]
    simp [Lined, calls, posted, empty, fresh.journal]
  exact (follow_keeps step start events).2 shared

omit [Service σ] [Autonomous σ] in
theorem Lined.calls_eq {deployment : Deployment σ} {dispatcher : Nat}
    (lined : deployment.Lined dispatcher) (drained : deployment.queue dispatcher = []) :
    deployment.calls = deployment.posted := by
  rw [← lined, drained, List.map_nil, List.append_nil]

/-! ## A queue and an immediate dispatcher -/

/-- The deployment with one dispatcher only, which has nothing to do. -/
def servedBy (deployment : Deployment σ) (mode : Dispatcher.Mode) : Deployment σ :=
  { deployment with dispatchers := [{ mode := mode }] }

omit [Service σ] [Autonomous σ] in
theorem Fresh.servedBy {deployment : Deployment σ} (fresh : deployment.Fresh)
    (mode : Dispatcher.Mode) : (deployment.servedBy mode).Fresh :=
  ⟨fresh.sessions, by simp [Deployment.servedBy], fresh.channels, fresh.journal⟩

/-- In a run whose managers all have the one dispatcher they share it. -/
theorem shared_servedBy {deployment : Deployment σ} {mode : Dispatcher.Mode}
    (live : mode.isLive = true) {events : List (Event σ)}
    (only : ∀ manager ∈ ((deployment.servedBy mode).follow events).managers,
      manager.dispatcher = 0) : ((deployment.servedBy mode).follow events).Shared 0 where
  managers _ manager hmanager := only manager (List.mem_of_getElem? hmanager)
  live := by
    rw [((deployment.servedBy mode).precedes_follow events).isLive 0]
    exact live

/-- Around a service that refuses nothing, all that managers with one dispatcher ask of it is
the same for a queue that has been worked off as for an immediate dispatcher, whatever the
schedule. -/
theorem calls_of_drained {deployment : Deployment σ} (fresh : deployment.Fresh)
    {events more : List (Event σ)} (same : operations events = operations more)
    (shared : ∀ manager ∈ ((deployment.servedBy .queued).follow events).managers,
      manager.dispatcher = 0)
    (healthy : ((deployment.servedBy .queued).follow events).Obliging)
    (healthyToo : ((deployment.servedBy .immediate).follow more).Obliging)
    (drained : ((deployment.servedBy .queued).follow events).queue 0 = []) :
    ((deployment.servedBy .queued).follow events).calls.map Request.bare =
      ((deployment.servedBy .immediate).follow more).calls.map Request.bare := by
  have freshQueue := fresh.servedBy .queued
  have freshToo := fresh.servedBy .immediate
  have alike : Alike (deployment.servedBy .queued) (deployment.servedBy .immediate) events more :=
    alike_follow freshQueue freshToo rfl same healthy healthyToo
  have onlyToo : ∀ manager ∈ ((deployment.servedBy .immediate).follow more).managers,
      manager.dispatcher = 0 := by
    intro manager member
    have outlined : manager.outline ∈
        ((deployment.servedBy .immediate).follow more).outline.managers :=
      List.mem_map_of_mem member
    rw [← alike.outline] at outlined
    rcases List.mem_map.mp outlined with ⟨twin, inQueued, houtline⟩
    have home : twin.dispatcher = manager.dispatcher := congrArg ManagerOutline.dispatcher houtline
    exact home.symm.trans (shared twin inQueued)
  have sharedQueue := shared_servedBy rfl shared
  have sharedToo := shared_servedBy rfl onlyToo
  have drainedToo : ((deployment.servedBy .immediate).follow more).queue 0 = [] := by
    refine List.eq_nil_iff_forall_not_mem.mpr fun job member => ?_
    have queued := ((delivery_follow freshToo more).queued 0 job member).1
    rw [((deployment.servedBy .immediate).precedes_follow more).modes 0] at queued
    cases queued
  rw [(lined_follow freshQueue sharedQueue).calls_eq drained,
    (lined_follow freshToo sharedToo).calls_eq drainedToo, alike.posted]

/-- Two managers at a service that keeps the starts to itself for a while.  One of them is
restarted before its dispatcher has come to anything. -/
def leisurely : List (Event ScriptedService) :=
  [.act (ScriptedAct.cue .startSession ⟨.keep, none⟩),
    .operation (.join ⟨"com.example.notes", 0⟩ "com.example.notes" ⟨0⟩ 0),
    .operation (.join ⟨"com.example.mail", 0⟩ "com.example.mail" ⟨0⟩ 0),
    .operation (.onStart 0 ⟨"a"⟩ ⟨"p", "A"⟩ .empty), .operation (.onStop 0),
    .operation (.onStart 1 ⟨"b"⟩ ⟨"q", "B"⟩ .empty), .work 0,
    .operation (.onStart 0 ⟨"c"⟩ ⟨"p", "C"⟩ .empty), .work 0, .work 0, .work 0, .work 0, .work 0,
    .act (ScriptedAct.answer 1 (.complete (.ofCode 2))), .work 0, .work 0]

/-- The same for an impatient service that answers at once. -/
def impatient : List (Event ScriptedService) :=
  [.operation (.join ⟨"com.example.notes", 0⟩ "com.example.notes" ⟨0⟩ 0),
    .operation (.join ⟨"com.example.mail", 0⟩ "com.example.mail" ⟨0⟩ 0),
    .operation (.onStart 0 ⟨"a"⟩ ⟨"p", "A"⟩ .empty), .operation (.onStop 0),
    .operation (.onStart 1 ⟨"b"⟩ ⟨"q", "B"⟩ .empty),
    .operation (.onStart 0 ⟨"c"⟩ ⟨"p", "C"⟩ .empty)]

theorem calls_of_drained_leisurely :
    let before : Deployment ScriptedService := { service := .standard }
    ((before.servedBy .queued).follow leisurely).calls.length = 8 ∧
      ((before.servedBy .queued).follow leisurely).calls.map Request.bare =
        ((before.servedBy .immediate).follow impatient).calls.map Request.bare := by
  intro before
  have fresh : before.Fresh := ⟨by simp [before], by simp [before], rfl, rfl⟩
  have shared : ∀ manager ∈ ((before.servedBy .queued).follow leisurely).managers,
      manager.dispatcher = 0 := by decide +kernel
  have healthy : ((before.servedBy .queued).follow leisurely).Obliging := by decide +kernel
  have healthyToo : ((before.servedBy .immediate).follow impatient).Obliging := by decide +kernel
  exact ⟨by decide +kernel,
    calls_of_drained fresh rfl shared healthy healthyToo (by decide +kernel)⟩

end Deployment
end ContentCapture
