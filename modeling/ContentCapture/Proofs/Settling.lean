import ContentCapture.Proofs.Register
import Mathlib.Data.List.Basic
import Mathlib.Logic.Function.Iterate

namespace ContentCapture

/-!
# Coming to rest

Work is done by the dispatchers, which pass jobs on, and by the loop of the service, which works
requests off.  Where there is one dispatcher, and the service runs, the order does not matter: a
job adds its request behind the others, and the next request is the same before and after.  A
deployment therefore comes to rest in one way only, however the work is interleaved.
-/

namespace LocalService

/-- The service with one more request behind the others. -/
def joinedBy (service : LocalService) (envelope : Envelope) : LocalService :=
  { service with inbox := service.inbox ++ [envelope] }

/-- What a service makes of a request does not depend on what waits. -/
theorem workOff_joinedBy (service : LocalService) (last envelope : Envelope) :
    (service.joinedBy last).workOff envelope =
      ((service.workOff envelope).1.joinedBy last, (service.workOff envelope).2) := by
  have behind : (service.joinedBy last).handle envelope =
      ((service.handle envelope).1.holding (service.inbox ++ [last]) service.parked service.running,
        (service.handle envelope).2) := service.handle_holding envelope _ _ _
  have inbox := service.inbox_handle envelope
  have running := service.running_handle envelope
  have alike : (service.joinedBy last).configuration = service.configuration := rfl
  simp only [workOff_eq, decides, parks, behind, alike]
  simp only [joinedBy, holding, inbox, running]

end LocalService

namespace Deployment

/-! ## Work -/

/-- An event in which work is done, if there is any. -/
inductive IsWork : Event LocalService → Prop
  | job (dispatcher : Nat) : IsWork (.work dispatcher)
  | request : IsWork (.act LocalAct.serve)

/-- No work is left. -/
structure AtRest (deployment : Deployment LocalService) : Prop where
  jobs : ∀ dispatcher ∈ deployment.dispatchers, dispatcher.jobs = []
  inbox : deployment.service.inbox = []

/-- Work that is done until none is left makes one deployment of another. -/
def ComesToRest (deployment later : Deployment LocalService) : Prop :=
  ∃ events, (∀ event ∈ events, IsWork event) ∧ deployment.follow events = later ∧ later.AtRest

/-- There is one dispatcher, and the service takes what it passes on. -/
structure Tandem (deployment : Deployment LocalService) : Prop where
  dispatchers : ∃ queue, deployment.dispatchers = [queue]
  running : deployment.service.running = true

/-- The deployment after the service has taken a request, and a single dispatcher has become
another. -/
def joinedBy (deployment : Deployment LocalService) (queue : Dispatcher Job) (owner : Nat)
    (envelope : Envelope) : Deployment LocalService :=
  { deployment with
    dispatchers := [queue]
    service := deployment.service.joinedBy envelope
    journal := deployment.journal ++ [.asked (some owner) envelope (.ok ())] }

variable {deployment : Deployment LocalService} {mode : Dispatcher.Mode} {job : Job}
  {jobs : List Job}

theorem work_eq_joinedBy (queue : deployment.dispatchers = [⟨mode, job :: jobs⟩])
    (running : deployment.service.running = true) :
    deployment.work 0 = deployment.joinedBy ⟨mode, jobs⟩ job.owner ⟨job.caller, job.request⟩ := by
  simp [work, queue, Dispatcher.pop?, run, ask_eq, LocalService.receive_eq, running, noted,
    joinedBy, LocalService.joinedBy]

theorem work_eq_self {dispatcher : Nat}
    (idle : (deployment.dispatchers[dispatcher]?).bind Dispatcher.pop? = none) :
    deployment.work dispatcher = deployment := by
  rw [work, idle]

/-- A request that is added behind the next one makes no difference to that. -/
theorem serve_joinedBy (waiting : deployment.service.inbox ≠ []) (queue : Dispatcher Job)
    (owner : Nat) (last : Envelope) :
    (deployment.joinedBy queue owner last).serve = deployment.serve.joinedBy queue owner last := by
  rcases List.exists_cons_of_ne_nil waiting with ⟨envelope, requests, inbox⟩
  have longer : (deployment.joinedBy queue owner last).service.inbox =
      envelope :: (requests ++ [last]) := by
    rw [joinedBy, LocalService.joinedBy, inbox, List.cons_append]
  have behind := LocalService.workOff_joinedBy { deployment.service with inbox := requests } last
    envelope
  have same : { (deployment.joinedBy queue owner last).service with inbox := requests ++ [last] } =
      { deployment.service with inbox := requests }.joinedBy last := rfl
  simp only [serve, longer, inbox, same, behind]
  cases ({ deployment.service with inbox := requests }.workOff envelope).2 <;> rfl

/-- Where there is one dispatcher, either it has a job or nothing is done. -/
theorem Tandem.work (tandem : deployment.Tandem) (dispatcher : Nat) :
    deployment.work dispatcher = deployment ∨
      dispatcher = 0 ∧ ∃ mode job jobs, deployment.dispatchers = [⟨mode, job :: jobs⟩] := by
  rcases tandem.dispatchers with ⟨⟨mode, jobs⟩, queue⟩
  cases dispatcher with
  | succ index => exact .inl (work_eq_self (by simp [queue]))
  | zero =>
      cases jobs with
      | nil => exact .inl (work_eq_self (by simp [queue, Dispatcher.pop?]))
      | cons job jobs => exact .inr ⟨rfl, mode, job, jobs, queue⟩

theorem dispatchers_serve (deployment : Deployment LocalService) :
    deployment.serve.dispatchers = deployment.dispatchers := by
  cases inbox : deployment.service.inbox with
  | nil => rw [serve_eq_self inbox]
  | cons envelope requests => rw [serve_eq inbox]

theorem running_serve (deployment : Deployment LocalService) :
    deployment.serve.service.running = deployment.service.running := by
  cases inbox : deployment.service.inbox with
  | nil => rw [serve_eq_self inbox]
  | cons envelope requests =>
      rw [serve_eq inbox]
      exact LocalService.running_handle _ envelope

theorem Tandem.after (tandem : deployment.Tandem) {event : Event LocalService}
    (work : IsWork event) : (deployment.after event).Tandem := by
  cases work with
  | job dispatcher =>
      change (deployment.work dispatcher).Tandem
      rcases tandem.work dispatcher with same | ⟨rfl, mode, job, jobs, queue⟩
      · rwa [same]
      · rw [work_eq_joinedBy queue tandem.running]
        exact ⟨⟨_, rfl⟩, tandem.running⟩
  | request =>
      change (deployment.acted LocalAct.serve).Tandem
      rw [acted_serve]
      exact ⟨deployment.dispatchers_serve ▸ tandem.dispatchers,
        deployment.running_serve.trans tandem.running⟩

/-- The next job and the next request do not get in each other's way. -/
theorem work_serve (queue : deployment.dispatchers = [⟨mode, job :: jobs⟩])
    (running : deployment.service.running = true) (waiting : deployment.service.inbox ≠ []) :
    deployment.serve.work 0 = (deployment.work 0).serve := by
  rw [work_eq_joinedBy (deployment.dispatchers_serve.trans queue)
      (deployment.running_serve.trans running), work_eq_joinedBy queue running,
    serve_joinedBy waiting]

/-! ## Settling -/

/-- The work of a single dispatcher is that of all of them. -/
theorem workThroughAll_eq_iterate (queue : deployment.dispatchers = [⟨mode, jobs⟩]) :
    deployment.workThroughAll = (·.work 0)^[jobs.length] deployment := by
  have pending : deployment.pending 0 = jobs.length := by simp [Deployment.pending, queue]
  have single : deployment.workThroughAll = deployment.workThrough 0 := by
    rw [workThroughAll, queue]
    rfl
  rw [single, workThrough, pending, List.foldl_const, List.length_range]

theorem serveAll_eq_iterate (deployment : Deployment LocalService) :
    deployment.serveAll = serve^[deployment.service.inbox.length] deployment := by
  rw [serveAll, List.foldl_const, List.length_range]

/-- What a dispatcher has done is not done again. -/
theorem workThroughAll_work (queue : deployment.dispatchers = [⟨mode, job :: jobs⟩])
    (running : deployment.service.running = true) :
    (deployment.work 0).workThroughAll = deployment.workThroughAll := by
  have later : (deployment.work 0).dispatchers = [⟨mode, jobs⟩] := by
    rw [work_eq_joinedBy queue running]
    rfl
  rw [workThroughAll_eq_iterate later, workThroughAll_eq_iterate queue, List.length_cons,
    Function.iterate_succ_apply]

theorem workThroughAll_eq_self (queue : deployment.dispatchers = [⟨mode, []⟩]) :
    deployment.workThroughAll = deployment := by
  rw [workThroughAll_eq_iterate queue]
  rfl

/-- The service may get ahead of a dispatcher by a request that waits. -/
theorem workThroughAll_serve (queue : deployment.dispatchers = [⟨mode, jobs⟩])
    (running : deployment.service.running = true) (waiting : deployment.service.inbox ≠ []) :
    deployment.serve.workThroughAll = deployment.workThroughAll.serve ∧
      deployment.workThroughAll.service.inbox ≠ [] := by
  induction jobs generalizing deployment with
  | nil =>
      rw [workThroughAll_eq_self queue,
        workThroughAll_eq_self (deployment.dispatchers_serve.trans queue)]
      exact ⟨rfl, waiting⟩
  | cons job jobs inductionHypothesis =>
      have worked := work_eq_joinedBy queue running
      rw [← workThroughAll_work queue running,
        ← workThroughAll_work (deployment.dispatchers_serve.trans queue)
          (deployment.running_serve.trans running),
        work_serve queue running waiting]
      apply inductionHypothesis
      · rw [worked, joinedBy]
      · rw [worked]
        exact running
      · rw [worked, joinedBy, LocalService.joinedBy]
        simp

/-- The work that is done before a deployment settles changes nothing about how it does. -/
theorem Tandem.settle_after (tandem : deployment.Tandem) {event : Event LocalService}
    (work : IsWork event) : (deployment.after event).settle = deployment.settle := by
  cases work with
  | job dispatcher =>
      change (deployment.work dispatcher).settle = _
      rcases tandem.work dispatcher with same | ⟨rfl, mode, job, jobs, queue⟩
      · rw [same]
      · rw [settle, workThroughAll_work queue tandem.running, settle]
  | request =>
      change (deployment.acted LocalAct.serve).settle = _
      rw [acted_serve]
      by_cases inbox : deployment.service.inbox = []
      · rw [serve_eq_self inbox]
      · -- The request may as well be worked off after the jobs: it is still the next one then.
        rcases tandem.dispatchers with ⟨⟨mode, jobs⟩, queue⟩
        rcases workThroughAll_serve queue tandem.running inbox with ⟨ahead, still⟩
        rcases List.exists_cons_of_ne_nil still with ⟨envelope, requests, waits⟩
        have rest : deployment.workThroughAll.serve.service.inbox = requests := by
          rw [serve_eq waits]
          exact LocalService.inbox_handle _ envelope
        rw [settle, ahead, settle, serveAll_eq_iterate, serveAll_eq_iterate, rest, waits,
          List.length_cons, Function.iterate_succ_apply]

theorem AtRest.settle_eq_self (rest : deployment.AtRest) (tandem : deployment.Tandem) :
    deployment.settle = deployment := by
  rcases tandem.dispatchers with ⟨⟨mode, jobs⟩, queue⟩
  have idle : jobs = [] := rest.jobs _ (by rw [queue]; exact List.mem_singleton_self _)
  subst idle
  rw [settle, workThroughAll_eq_self queue, serveAll_eq_iterate, rest.inbox]
  rfl

/-- However the work is interleaved, a deployment comes to rest as it settles. -/
theorem ComesToRest.eq_settle {later : Deployment LocalService}
    (rests : deployment.ComesToRest later) (tandem : deployment.Tandem) :
    later = deployment.settle := by
  rcases rests with ⟨events, works, rfl, rest⟩
  induction events generalizing deployment with
  | nil => exact (rest.settle_eq_self tandem).symm
  | cons event events inductionHypothesis =>
      have work : IsWork event := works event List.mem_cons_self
      rw [← tandem.settle_after work]
      exact inductionHypothesis (tandem.after work)
        (fun other member => works other (List.mem_cons_of_mem event member)) rest

theorem ComesToRest.cons {later : Deployment LocalService} {event : Event LocalService}
    (work : IsWork event) (rests : (deployment.after event).ComesToRest later) :
    deployment.ComesToRest later := by
  rcases rests with ⟨events, works, same, rest⟩
  refine ⟨event :: events, ?_, same, rest⟩
  rintro other (_ | ⟨_, member⟩)
  · exact work
  · exact works other member

/-- The work of the service comes to an end, -/
theorem exists_comesToRest_of_idle (queue : deployment.dispatchers = [⟨mode, []⟩])
    {requests : List Envelope} (inbox : deployment.service.inbox = requests) :
    ∃ later, deployment.ComesToRest later := by
  induction requests generalizing deployment with
  | nil => exact ⟨deployment, [], by simp, rfl, ⟨by simp [queue], inbox⟩⟩
  | cons envelope requests inductionHypothesis =>
      have rest : deployment.serve.service.inbox = requests := by
        rw [serve_eq inbox]
        exact LocalService.inbox_handle _ envelope
      rcases inductionHypothesis (deployment.dispatchers_serve.trans queue) rest with
        ⟨later, rests⟩
      rw [← acted_serve] at rests
      exact ⟨later, rests.cons .request⟩

/-- and so does that of a dispatcher before it. -/
theorem exists_comesToRest (queue : deployment.dispatchers = [⟨mode, jobs⟩])
    (running : deployment.service.running = true) : ∃ later, deployment.ComesToRest later := by
  induction jobs generalizing deployment with
  | nil => exact exists_comesToRest_of_idle queue rfl
  | cons job jobs inductionHypothesis =>
      have worked := work_eq_joinedBy queue running
      have still : (deployment.work 0).dispatchers = [⟨mode, jobs⟩] := by rw [worked, joinedBy]
      rcases inductionHypothesis still (by rw [worked]; exact running) with ⟨later, rests⟩
      exact ⟨later, rests.cons (.job 0)⟩

/-- So a deployment comes to rest, namely as it settles. -/
theorem Tandem.comesToRest_settle (tandem : deployment.Tandem) :
    deployment.ComesToRest deployment.settle := by
  rcases tandem.dispatchers with ⟨⟨mode, jobs⟩, queue⟩
  rcases exists_comesToRest queue tandem.running with ⟨later, rests⟩
  exact rests.eq_settle tandem ▸ rests

end Deployment
end ContentCapture
