import ContentCapture.Proofs.Clients
import ContentCapture.Proofs.Lockstep
import ContentCapture.Proofs.Outstanding
import Mathlib.Data.List.Basic

namespace ContentCapture

/-!
# When the service has stopped

A service that has stopped is what it was then, for good.  It takes no connections, and
whoever asks it something is told at once that it cannot be reached.  It answers nobody
late either: whatever was undecided when it stopped, or is made afterwards, still waits with
a job at a dispatcher, or was dropped.

A session that is started then finds out.  Its start is made like any other one, with a new
channel, and is posted.  As soon as the job was run the channel was dropped, and the next look
at the session says so.
-/

namespace Exchange

variable {exchange : Exchange}

/-- Nothing comes of a channel but the failure of having been dropped. -/
def IsDropped (exchange : Exchange) (id : ChannelId) : Prop :=
  ∃ channel, exchange.channel? id = some channel ∧
    channel.conclude = .error (.remote "reply sink dropped without a result")

/-- It is found there, and is what its receiver goes away with. -/
theorem isDropped_iff_peek {id : ChannelId} :
    exchange.IsDropped id ↔
      exchange.peek id = some (.error (.remote "reply sink dropped without a result")) := by
  cases there : exchange.channel? id with
  | none => simp [IsDropped, peek, there]
  | some channel =>
      cases houtcome : channel.outcome with
      | none => simp [IsDropped, peek, there, Channel.peek, Channel.conclude, houtcome]
      | some outcome =>
          cases hresolve : outcome.resolve <;>
            simp [IsDropped, peek, there, Channel.peek, Channel.conclude, houtcome, hresolve,
              Except.map]

theorem IsDropped.precedes {later : Exchange} {id : ChannelId} (dropped : exchange.IsDropped id)
    (h : exchange.Precedes later) : later.IsDropped id :=
  isDropped_iff_peek.mpr (h id _ (isDropped_iff_peek.mp dropped))

theorem made_of_isUndecided {id : ChannelId} (undecided : exchange.isUndecided id = true) :
    id < exchange.channels.length := by
  by_contra beyond
  have absent := List.getElem?_eq_none (Nat.le_of_not_lt beyond)
  simp [isUndecided, channel?, absent] at undecided

/-- The decisions that matter are those whose outcome is there. -/
theorem Records.settled {decisions : List (ChannelId × Outcome)}
    (records : exchange.Records decisions) :
    exchange.Records (decisions.filter fun decided => (exchange.peek decided.1).isSome) := by
  intro id channel there
  refine ⟨(records id channel there).1, fun outcome houtcome => ?_⟩
  rcases (records id channel there).2 outcome houtcome with abandoned | decided
  · exact .inl abandoned
  · refine .inr (List.mem_filter.mpr ⟨decided, ?_⟩)
    simp [peek, there, Channel.peek, houtcome]

end Exchange

namespace LocalService

/-- What a stopped service has its clients told. -/
def refusal (service : LocalService) (method : Method) : Unreachable :=
  ⟨service.endpoint ++ " closed while sending " ++ method.name⟩

/-- Nobody may connect. -/
theorem exists_connect_stopped (service : LocalService) :
    ∃ failure, service.stopped.connect = .error failure := by
  unfold connect
  split
  · exact ⟨_, rfl⟩
  · exact ⟨_, rfl⟩

theorem receive_stopped (service : LocalService) (envelope : Envelope) :
    Service.receive service.stopped envelope =
      { service := service.stopped
        answers := envelope.request.answered (.complete .abandoned)
        result := .error (service.stopped.refusal envelope.request.method) } := rfl

end LocalService

namespace Deployment

/-! ## Nothing is decided any more -/

/-- The service has stopped, and is what it was then.  It has decided no channel that was
undecided before. -/
structure Silenced (former : Exchange) (last : LocalService)
    (deployment : Deployment LocalService) : Prop where
  service : deployment.service = last.stopped
  outcomes : ∃ decisions, deployment.exchange.Records decisions ∧
    ∀ decided ∈ decisions, (former.peek decided.1).isSome = true

theorem Sound.silenced {deployment : Deployment LocalService} (sound : Sound deployment)
    {last : LocalService} (stopped : deployment.service = last.stopped) :
    Silenced deployment.exchange last deployment := by
  rcases sound.placed.recorded with ⟨decisions, records⟩
  exact ⟨stopped, _, records.settled, fun _ member => (List.mem_filter.mp member).2⟩

/-- So it is when the loop stops. -/
theorem Sound.silenced_stop {deployment : Deployment LocalService} (sound : Sound deployment) :
    Silenced deployment.exchange deployment.service deployment.stop := by
  rcases sound.placed.recorded with ⟨decisions, records⟩
  have after := records.settled.abandonAll deployment.service.held
  rw [← exchange_stop] at after
  exact ⟨by rw [← acted_stop]; rfl, _, after, fun _ member => (List.mem_filter.mp member).2⟩

/-- A channel that the service holds is undecided, and waits with no job. -/
theorem Balanced.of_mem_held {deployment : Deployment LocalService}
    (balanced : Balanced [] deployment) {id : ChannelId} (member : id ∈ deployment.service.held) :
    deployment.exchange.isUndecided id = true ∧ id ∉ deployment.queued := by
  have place := balanced id
  have counted := List.count_pos_iff.mpr member
  have most := Bool.toNat_le (deployment.exchange.isUndecided id)
  rw [List.count_nil] at place
  have undecided : (deployment.exchange.isUndecided id).toNat = 1 := by omega
  have unqueued : deployment.queued.count id = 0 := by omega
  exact ⟨Bool.toNat_eq_one.mp undecided, List.count_eq_zero.mp unqueued⟩

namespace Silenced

variable {former : Exchange} {last : LocalService} {deployment : Deployment LocalService}

theorem handling {hand after : List ChannelId} {second : Deployment LocalService}
    (silenced : Silenced former last deployment) (step : Handling hand deployment after second) :
    Silenced former last second := by
  rcases silenced.outcomes with ⟨decisions, records, known⟩
  refine ⟨?_, decisions, step.records records, known⟩
  cases step with
  | quiet _ service exchange dispatchers journal => exact service.trans silenced.service
  | ask _ asker envelope =>
      rw [service_ask, silenced.service, LocalService.receive_stopped]
  | _ => exact silenced.service

theorem undergo (silenced : Silenced former last deployment) (occurrence : Occurrence) :
    Silenced former last (deployment.undergo occurrence) := by
  have step : ∀ {hand after : List ChannelId} {first second : Deployment LocalService},
      Handling hand first after second → Silenced former last first → Silenced former last second :=
    fun step before => before.handling step
  refine undergo_keeps_handling step ?_ ?_ ?_ ?_ occurrence silenced
  · intro deployment before
    have empty : deployment.service.inbox = [] := by rw [before.service]; rfl
    rwa [serve_eq_self empty]
  · intro deployment before
    have empty : deployment.service.held = [] := by rw [before.service]; rfl
    rw [stop, empty, before.service]
    exact ⟨rfl, before.outcomes⟩
  · intro deployment now before
    rcases before.outcomes with ⟨decisions, records, known⟩
    exact ⟨before.service, decisions, records.reached now, known⟩
  · exact fun _ _ before => ⟨before.service, before.outcomes⟩

theorem traverse (silenced : Silenced former last deployment) (occurrences : List Occurrence) :
    Silenced former last (deployment.traverse occurrences) :=
  traverse_keeps (fun _ occurrence before => before.undergo occurrence) silenced occurrences

/-- What was undecided waits with a job, or was dropped. -/
theorem queued_or_dropped (silenced : Silenced former last deployment)
    (balanced : Balanced [] deployment) {id : ChannelId} (undecided : former.peek id = none)
    (made : id < deployment.exchange.channels.length) :
    id ∈ deployment.queued ∨ deployment.exchange.IsDropped id := by
  cases found : deployment.exchange.peek id with
  | none =>
      have place := balanced id
      have unheld : deployment.service.held = [] := by rw [silenced.service]; rfl
      rw [Exchange.isUndecided_eq made, found, unheld, List.count_nil] at place
      have once : deployment.queued.count id = 1 := by simpa using place
      exact .inl (List.count_pos_iff.mp (once ▸ Nat.one_pos))
  | some answer =>
      rcases silenced.outcomes with ⟨decisions, records, known⟩
      rcases Exchange.peek_eq_some_iff.mp found with ⟨channel, outcome, there, houtcome, rfl⟩
      rcases (records id channel there).2 outcome houtcome with rfl | decided
      · exact .inr (Exchange.isDropped_iff_peek.mpr found)
      · have before := known _ decided
        simp [undecided] at before

end Silenced

/-- What the service holds when its loop stops is dropped. -/
theorem Sound.isDropped_of_held {deployment : Deployment LocalService} (sound : Sound deployment)
    {id : ChannelId} (member : id ∈ deployment.service.held) :
    deployment.stop.exchange.IsDropped id := by
  rcases sound.placed.balanced.of_mem_held member with ⟨undecided, unqueued⟩
  have made := Exchange.made_of_isUndecided undecided
  have silent : deployment.exchange.peek id = none := by
    rwa [Exchange.isUndecided_eq made, Option.isNone_iff_eq_none] at undecided
  have there : id < deployment.stop.exchange.channels.length := by
    rwa [exchange_stop, Exchange.length_answerAll]
  have same : deployment.stop.queued = deployment.queued := by
    rw [← acted_stop]
    rfl
  rcases sound.silenced_stop.queued_or_dropped sound.placed.balanced.stop silent there with
    waits | dropped
  · exact absurd (same ▸ waits) unqueued
  · exact dropped

/-! ## What managers and clients are told -/

/-- What a manager is told that asks a stopped service. -/
def refused (deployment : Deployment LocalService) (method : Method) : Failure :=
  .unreachable (deployment.service.refusal method)

/-- No question of a manager is answered, and no demand of it met. -/
structure Unreached (deployment : Deployment LocalService) (owner : Nat) : Prop where
  isFeatureEnabled : ∀ meanwhile, (deployment.isFeatureEnabled owner meanwhile).1 =
    .error (deployment.refused .featureEnabled)
  setFeatureEnabled : ∀ enabled meanwhile,
    (deployment.setFeatureEnabled owner enabled meanwhile).1 =
      .error (deployment.refused .setFeatureEnabled)
  removeUserData : ∀ removal, removal.isEmpty = false →
    (deployment.removeUserData owner removal).1 = .error (deployment.refused .removeUserData)
  serviceComponentName : ∀ meanwhile, (deployment.isEnabled owner).1 = true →
    (deployment.serviceComponentName owner meanwhile).1 =
      .error (deployment.refused .serviceComponentName)

section

variable {deployment : Deployment LocalService} {last : LocalService}
  (stopped : deployment.service = last.stopped)

include stopped

theorem ask_of_stopped (asker : Option Nat) (envelope : Envelope) :
    (deployment.ask asker envelope).1 =
      .error (deployment.service.refusal envelope.request.method) := by
  rw [ask_eq, stopped, LocalService.receive_stopped]

theorem called_of_stopped (caller : String) (timeout : Span) (request : Request) :
    (deployment.called caller timeout request).1 =
      .error (deployment.service.refusal request.method) := by
  have same : (deployment.equipped timeout request).service = deployment.service := by
    unfold equipped
    split <;> rfl
  have asked := ask_of_stopped (same.trans stopped) none
    ⟨caller, request.through (deployment.newChannel timeout).1⟩
  rwa [same, Request.method_through] at asked

/-- A question fails as soon as it is asked. -/
theorem inquire_of_stopped {α : Type} (owner : Nat) (manager : Manager)
    {request : ChannelId → Request} {method : Method}
    (asks : ∀ channel, (request channel).method = method)
    (meanwhile : Deployment LocalService → Deployment LocalService)
    (read : Deployment LocalService → ChannelId → Except Failure α) :
    (deployment.inquire owner manager request meanwhile read).1 =
      .error (deployment.refused method) := by
  have opened : (deployment.newChannel manager.timeout).2.service = last.stopped := stopped
  have asked := ask_of_stopped opened (some owner)
    ⟨manager.caller, request (deployment.newChannel manager.timeout).1⟩
  rw [asks] at asked
  have failed : (deployment.issue owner manager request).1 =
      .error (deployment.refused method) := by
    rw [issue_eq]
    simp only [asked]
    rfl
  rw [inquire]
  split
  · next failure issued hissued =>
      rw [hissued] at failed
      exact congrArg Except.error (Except.error.inj failed)
  · next channel issued hissued =>
      rw [hissued] at failed
      cases failed

theorem unreached_of_stopped {owner : Nat} {manager : Manager}
    (hmanager : deployment.managers[owner]? = some manager) : deployment.Unreached owner where
  isFeatureEnabled := by
    intro meanwhile
    simp only [isFeatureEnabled, hmanager]
    exact inquire_of_stopped stopped owner manager (fun _ => rfl) meanwhile answerOf
  setFeatureEnabled := by
    intro enabled meanwhile
    simp only [setFeatureEnabled, hmanager]
    exact inquire_of_stopped stopped owner manager (fun _ => rfl) meanwhile answerOf
  removeUserData := by
    intro removal names
    rw [removeUserData_eq names hmanager]
    simp only [ask_of_stopped stopped]
    rfl
  serviceComponentName := by
    intro meanwhile enabled
    have looked : (deployment.isEnabled owner).2.managers[owner]? =
        some (manager.withSession fun session => session.polled deployment.exchange) := by
      simp [isEnabled, poll, updateSession, updateManager, hmanager]
    have same : (deployment.isEnabled owner).2.service = last.stopped := stopped
    simp only [serviceComponentName, looked, enabled, if_true]
    exact inquire_of_stopped same owner _ (fun _ => rfl) meanwhile payloadOf

end

/-! ## Starts that come later -/

section

variable {σ : Type}

/-- The channels of the starts that the session of a manager has posted. -/
def startChannels (deployment : Deployment σ) (owner : Nat) : List ChannelId :=
  (deployment.posts owner).filterMap Request.startChannel?

/-- The starts that the session of a manager has posted in between have channels that were
made in between. -/
structure Grows (owner : Nat) (first second : Deployment σ) : Prop where
  length : first.exchange.channels.length ≤ second.exchange.channels.length
  starts : ∃ more, second.startChannels owner = first.startChannels owner ++ more ∧
    ∀ channel ∈ more, first.exchange.channels.length ≤ channel

namespace Grows

variable {owner : Nat} {first second third : Deployment σ}

theorem of_posts (length : first.exchange.channels.length ≤ second.exchange.channels.length)
    (posts : second.posts owner = first.posts owner) : Grows owner first second :=
  ⟨length, [], by rw [startChannels, posts, List.append_nil, startChannels], by simp⟩

theorem refl (owner : Nat) (deployment : Deployment σ) : Grows owner deployment deployment :=
  .of_posts (Nat.le_refl _) rfl

theorem trans (earlier : Grows owner first second) (later : Grows owner second third) :
    Grows owner first third := by
  rcases earlier.starts with ⟨former, hformer, newer⟩
  rcases later.starts with ⟨latter, hlatter, newest⟩
  refine ⟨Nat.le_trans earlier.length later.length, former ++ latter, ?_, ?_⟩
  · rw [hlatter, hformer, List.append_assoc]
  · intro channel member
    rcases List.mem_append.mp member with member | member
    · exact newer channel member
    · exact Nat.le_trans earlier.length (newest channel member)

/-- If there are more starts, the last one is new. -/
theorem le_of_getLast? (grows : Grows owner first second)
    (more : (first.startChannels owner).length < (second.startChannels owner).length)
    {channel : ChannelId} (last : (second.startChannels owner).getLast? = some channel) :
    first.exchange.channels.length ≤ channel := by
  rcases grows.starts with ⟨new, hnew, newer⟩
  have some : new ≠ [] := by
    rintro rfl
    rw [hnew, List.append_nil] at more
    exact Nat.lt_irrefl _ more
  rw [hnew, List.getLast?_append_of_ne_nil _ some] at last
  exact newer channel (List.mem_of_getLast? last)

end Grows

variable [Service σ]

/-- Of all the steps of an operation only the beginning of a cycle posts a start. -/
theorem Elementary.grows {who : Nat} {first second : Deployment σ}
    (step : Elementary who first second) (owner : Nat) : Grows owner first second := by
  have length := step.handled.length_le
  by_cases own : who = owner
  · subst own
    cases step with
    | join manager fresh => exact .of_posts length rfl
    | make hmanager fresh =>
        exact .of_posts length (by rw [posts, journal_ensureSession, posts])
    | mark change => exact .of_posts length rfl
    | revise change same => exact .of_posts length rfl
    | @began manager session hmanager hsession token component flags =>
        obtain ⟨_, -, -, posts⟩ := exists_began hmanager hsession token component flags
        refine ⟨length, [(first.newChannel manager.timeout).1], ?_, ?_⟩
        · rw [startChannels, posts, List.filterMap_append]
          rfl
        · intro channel member
          exact Nat.le_of_eq (List.mem_singleton.mp member).symm
    | @post session request hsession hrequest silent =>
        have notStart : request.start? = none ∧ request.startChannel? = none := by
          cases request <;> simp_all [Request.start?, Request.startChannel?, Request.channel?]
        refine ⟨length, [], ?_, by simp⟩
        rw [startChannels, (sequel_postRequest hsession notStart.1).posts, List.filterMap_append]
        simp [startChannels, notStart.2]
    | put question =>
        exact .of_posts length (by simpa using (sequel_put first who who question).posts)
    | remove removal hmanager => exact .of_posts length (posts_ask first who _ _)
  · exact .of_posts length (by simpa using (step.sequel own).posts)

end

theorem grows_undergo (deployment : Deployment LocalService) (occurrence : Occurrence)
    (owner : Nat) : Grows owner deployment (deployment.undergo occurrence) := by
  cases occurrence with
  | event event =>
      have elementary : ∀ (who : Nat) (first second : Deployment LocalService),
          Elementary who first second → Grows owner deployment first →
            Grows owner deployment second :=
        fun _ _ _ step before => before.trans (step.grows owner)
      refine after_keeps elementary ?_ ?_ ?_ event (.refl _ _)
      · intro between dispatcher before
        exact before.trans (.of_posts (between.handled_work dispatcher).length_le
          (by simpa using (sequel_work between owner dispatcher).posts))
      · intro between act before
        exact before.trans (.of_posts (Nat.le_of_eq (Exchange.length_answerAll _ _).symm) rfl)
      · intro between now before
        exact before.trans (.of_posts (by simp [Exchange.reached]) rfl)
  | call caller timeout request =>
      obtain ⟨-, -, journal⟩ := deployment.called_fields caller timeout request
      obtain ⟨asked, handled, same⟩ := deployment.exists_handled_called caller timeout request
      refine .of_posts ?_ ?_
      · rw [undergo, same]
        exact handled.length_le
      · rw [undergo, posts, journal, posts]

theorem grows_traverse (deployment : Deployment LocalService) (occurrences : List Occurrence)
    (owner : Nat) : Grows owner deployment (deployment.traverse occurrences) := by
  have step : ∀ (between : Deployment LocalService) (occurrence : Occurrence),
      Grows owner deployment between → Grows owner deployment (between.undergo occurrence) :=
    fun between occurrence before => before.trans (grows_undergo between occurrence owner)
  exact traverse_keeps step (.refl owner deployment) occurrences

/-- A session that is started begins no cycle. -/
theorem opening?_eq_none {σ : Type} {deployment : Deployment σ} {owner : Nat} {session : Session}
    (hsession : deployment.session? owner = some session) (started : session.lifecycle = .started)
    (operation : Operation) : deployment.opening? owner operation = none := by
  rcases manager_of_session? hsession with ⟨manager, hmanager, there⟩
  cases operation with
  | onStart who token component flags => simp [opening?, hmanager, there, started]
  | startSession who token component flags => simp [opening?, hsession, started]
  | _ => rfl

end Deployment

/-- Whether a step does not destroy the session of a manager. -/
def Occurrence.spares (owner : Nat) : Occurrence → Bool
  | .event (.operation operation) => !Deployment.destroys owner operation
  | _ => true

namespace Deployment

/-- A cycle that is not over and is not destroyed stays the last one. -/
theorem Accounted.tally_eq {deployment : Deployment LocalService} {owner : Nat}
    {cycles : List Cycle} (accounted : Accounted deployment owner cycles) {cycle : Cycle}
    (last : cycles.getLast? = some cycle) (lasting : cycle.isOver = false)
    {occurrence : Occurrence} (spared : occurrence.spares owner = true) :
    deployment.tally owner cycles occurrence = cycles := by
  cases hsession : deployment.session? owner with
  | none => simp [accounted.absent hsession] at last
  | some session =>
      have started := (accounted.present session hsession).standing.started_iff.mpr
        ⟨cycle, last, lasting⟩
      cases occurrence with
      | call caller timeout request => rfl
      | event event =>
          cases event with
          | operation operation =>
              have undestroyed : destroys owner operation = false := by
                simpa [Occurrence.spares] using spared
              simp [tally, recount, recounted, opening?_eq_none hsession started, undestroyed]
          | _ => rfl

/-- A cycle that has begun lasts while its session is not destroyed. -/
theorem accounted_traverse_of_spares {deployment : Deployment LocalService}
    (sound : Sound deployment) {owner : Nat} {cycles : List Cycle}
    (accounted : Accounted deployment owner cycles) {cycle : Cycle}
    (last : cycles.getLast? = some cycle) (lasting : cycle.isOver = false)
    (rest : List Occurrence) (spared : ∀ occurrence ∈ rest, occurrence.spares owner = true) :
    Accounted (deployment.traverse rest) owner cycles := by
  induction rest using List.reverseRecOn with
  | nil => exact accounted
  | append_singleton rest occurrence inductionHypothesis =>
      have before := inductionHypothesis fun other member =>
        spared other (List.mem_append_left _ member)
      have after := before.undergo (sound.traverse rest).delivery occurrence
      rw [before.tally_eq last lasting (spared occurrence (by simp))] at after
      rwa [traverse_concat]

/-- A look at the answer to a start that was dropped. -/
theorem isUnanswered_of_isDropped {deployment : Deployment LocalService} {owner : Nat}
    {cycles : List Cycle} (accounted : Accounted deployment owner cycles) {session : Session}
    (hsession : deployment.session? owner = some session) {channel : ChannelId}
    (informed : session.Informed deployment.exchange channel)
    (dropped : deployment.exchange.IsDropped channel) : deployment.IsUnanswered owner := by
  have found := Exchange.isDropped_iff_peek.mp dropped
  have state : (session.polled deployment.exchange).state = Session.unanswered := by
    rw [informed.state_polled, found]
    rfl
  apply isUnanswered_of_session? hsession (informed.startReply_polled found) state
  rw [informed.law_polled (accounted.present session hsession).law, state,
    Session.isDisabled_unanswered]
  rfl

/-- Whether the last start that the session of a manager has posted still waits at a
dispatcher. -/
def startWaits (deployment : Deployment LocalService) (owner : Nat) : Bool :=
  deployment.dispatchers.any fun dispatcher => dispatcher.jobs.any fun job =>
    job.owner = owner && job.request.startChannel?.isSome &&
      job.request.startChannel? = (deployment.startChannels owner).getLast?

theorem startWaits_of_mem_queue {deployment : Deployment LocalService} {owner dispatcher : Nat}
    {job : Job} (member : job ∈ deployment.queue dispatcher) (own : job.owner = owner)
    {channel : ChannelId} (carried : job.request.startChannel? = some channel)
    (last : (deployment.startChannels owner).getLast? = some channel) :
    deployment.startWaits owner = true := by
  cases hdispatcher : deployment.dispatchers[dispatcher]? with
  | none => simp [queue, hdispatcher] at member
  | some found =>
      rw [queue_of_getElem? hdispatcher] at member
      refine List.any_eq_true.mpr ⟨found, List.mem_of_getElem? hdispatcher, ?_⟩
      exact List.any_eq_true.mpr ⟨job, member, by simp [own, carried, last]⟩

/-- When the service has stopped and a session is started, it finds out as soon as its start
does not wait any more. -/
theorem isUnanswered_of_opening {deployment : Deployment LocalService} (sound : Sound deployment)
    {last : LocalService} (stopped : deployment.service = last.stopped) {owner : Nat}
    {cycles : List Cycle} (accounted : Accounted deployment owner cycles) {operation : Operation}
    {cycle : Cycle} (opening : deployment.opening? owner operation = some cycle)
    (announced : cycle.isAnnounced = true) (rest : List Occurrence)
    (spared : ∀ occurrence ∈ rest, occurrence.spares owner = true) :
    let later := (deployment.perform operation).traverse rest
    later.startWaits owner = false → later.IsUnanswered owner := by
  intro later unwaiting
  have lasting : cycle.isOver = false := by simp [Cycle.isOver, ending_of_opening? opening]
  have latest : (cycles ++ [cycle]).getLast? = some cycle := List.getLast?_concat
  have begun : Accounted (deployment.perform operation) owner (cycles ++ [cycle]) := by
    have after := accounted.after sound.delivery (.operation operation)
    rwa [recount, recounted, opening] at after
  have opened : Sound (deployment.perform operation) :=
    sound.undergo (.event (.operation operation))
  have sound' : Sound later := opened.traverse rest
  have accounted' : Accounted later owner (cycles ++ [cycle]) :=
    accounted_traverse_of_spares opened begun latest lasting rest spared
  have grows : Grows owner deployment later :=
    (grows_undergo deployment (.event (.operation operation)) owner).trans
      (grows_traverse (deployment.perform operation) rest owner)
  have more : (deployment.startChannels owner).length < (later.startChannels owner).length := by
    rw [startChannels, startChannels, Request.length_startChannel?, Request.length_startChannel?,
      accounted.length_starts sound.delivery, accounted'.length_starts sound'.delivery]
    simp [announced]
  cases hsession : later.session? owner with
  | none => exact absurd (accounted'.absent hsession) (by simp)
  | some session =>
      rcases (accounted'.present session hsession).standing.exists_informed latest announced
        lasting with ⟨channel, newest, informed⟩
      rcases List.mem_filterMap.mp (List.mem_of_getLast? newest) with ⟨request, posted, carried⟩
      rcases Request.exists_of_startChannel? carried with ⟨start, rfl⟩
      cases carried
      have unmade : deployment.exchange.peek channel = none := by
        have absent := List.getElem?_eq_none (grows.le_of_getLast? more newest)
        simp [Exchange.peek, Exchange.channel?, absent]
      have silenced : Silenced deployment.exchange last later :=
        ((sound.silenced stopped).undergo (.event (.operation operation))).traverse rest
      rcases silenced.queued_or_dropped sound'.placed.balanced unmade
        (sound'.numbered.channel_lt_of_posts posted) with waits | dropped
      · rcases exists_of_mem_queued waits with ⟨dispatcher, job, member, held⟩
        rcases start_of_mem_queue sound'.delivery sound'.numbered posted member held with
          ⟨own, same⟩
        have waiting := startWaits_of_mem_queue member own (by rw [same]; rfl) newest
        exact absurd (waiting.symm.trans unwaiting) (by simp)
      · exact isUnanswered_of_isDropped accounted' hsession informed dropped

/-- Whatever managers and clients do at a new service, and wherever its loop stops, from then on
the service is what it was when it stopped, but for what it held.  Nobody may connect to it, and
whoever asks it something is told that it cannot be reached.  What it held was dropped, and so
is everything else that was undecided then, once no job waits with it.  A session that is started
for an announced cycle finds, as long as it is not destroyed and unless its start still waits,
that no usable answer came. -/
theorem silent_of_stopped {deployment : Deployment LocalService} (fresh : deployment.Fresh)
    {configuration : LocalConfiguration} (made : deployment.service = .new configuration)
    (before after : List Occurrence) :
    let stopping := deployment.traverse before
    let now := stopping.stop.traverse after
    now.service = { stopping.service with inbox := [], parked := [], running := false } ∧
    (∃ failure, now.service.connect = .error failure ∧ ∀ context timeout dispatcher,
      now.connectManager context timeout dispatcher = (.error failure, now)) ∧
    (∀ caller timeout request,
      (now.called caller timeout request).1 = .error (now.service.refusal request.method)) ∧
    (∀ owner manager, now.managers[owner]? = some manager → now.Unreached owner) ∧
    (∀ method, (now.refused method).isFatal = true) ∧
    (∀ channel ∈ stopping.service.held, now.exchange.IsDropped channel) ∧
    (∀ channel, stopping.exchange.peek channel = none →
      channel < now.exchange.channels.length →
        channel ∈ now.queued ∨ now.exchange.IsDropped channel) ∧
    ∀ owner operation cycle rest, now.opening? owner operation = some cycle →
      cycle.isAnnounced = true → (∀ occurrence ∈ rest, Occurrence.spares owner occurrence = true) →
        let later := (now.perform operation).traverse rest
        later.startWaits owner = false → later.IsUnanswered owner := by
  intro stopping now
  have sound : Sound stopping := (fresh.sound made).traverse before
  have whole : deployment.traverse (before ++ .event (.act LocalAct.stop) :: after) = now :=
    deployment.traverse_stop before after
  have sound' : Sound now := whole ▸ (fresh.sound made).traverse _
  have silenced : Silenced stopping.exchange stopping.service now :=
    sound.silenced_stop.traverse after
  have stopped := silenced.service
  refine ⟨stopped, ?_, called_of_stopped stopped, ?_, fun _ => rfl, ?_, ?_, ?_⟩
  · rcases stopping.service.exists_connect_stopped with ⟨failure, refused⟩
    rw [← stopped] at refused
    exact ⟨failure, refused, fun _ _ _ => by rw [connectManager, refused]⟩
  · exact fun owner manager hmanager => unreached_of_stopped stopped hmanager
  · intro channel member
    exact (sound.isDropped_of_held member).precedes (precedes_traverse _ after).exchange
  · exact fun channel => silenced.queued_or_dropped sound'.placed.balanced
  · intro owner operation cycle rest opening announced spared
    have accounted : ∃ cycles, Accounted now owner cycles :=
      whole ▸ exists_accounted_traverse fresh made _ owner
    rcases accounted with ⟨cycles, accounted⟩
    exact isUnanswered_of_opening sound' stopped accounted opening announced rest spared

/-- A client and a manager ask a service that does not answer. -/
def unheardQuestions : List Occurrence :=
  [.call "com.example.other" ⟨5⟩ (.featureEnabled 0), .event (.act LocalAct.serve),
    .event (.operation (.ask 0 .featureEnabled))]

/-- The client asks again. -/
def anotherQuestion : List Occurrence :=
  [.call "com.example.other" ⟨5⟩ (.serviceComponentName 0)]

theorem silent_of_stopped_unheardQuestions :
    let stopping := (solitary (.new { unresponsive := true })).traverse unheardQuestions
    let now := stopping.stop.traverse anotherQuestion
    let started := now.perform (.onStart 0 ⟨"a"⟩ ⟨"p", "A"⟩ .empty)
    stopping.service.held = [1, 0] ∧ now.exchange.IsDropped 0 ∧ now.exchange.IsDropped 1 ∧
      (now.isFeatureEnabled 0 id).1 = .error (now.refused .featureEnabled) ∧
      (started.traverse [.event (.work 0)]).IsUnanswered 0 := by
  intro stopping now started
  have held : stopping.service.held = [1, 0] := by decide +kernel
  have opening : now.opening? 0 (.onStart 0 ⟨"a"⟩ ⟨"p", "A"⟩ .empty) =
      some ⟨⟨"a"⟩, ⟨"p", "A"⟩, .empty, none⟩ := by decide +kernel
  obtain ⟨-, -, -, unreached, -, dropped, -, unanswered⟩ :=
    silent_of_stopped (fresh_solitary (.new { unresponsive := true })) rfl unheardQuestions
      anotherQuestion
  have there : now.managers[0]?.isSome = true := by decide +kernel
  rcases Option.isSome_iff_exists.mp there with ⟨manager, hmanager⟩
  refine ⟨held, dropped 0 (held ▸ by simp), dropped 1 (held ▸ by simp),
    (unreached 0 manager hmanager).isFeatureEnabled id, ?_⟩
  exact unanswered 0 _ _ [.event (.work 0)] opening (by decide +kernel) (by decide +kernel)
    (by decide +kernel)

end Deployment
end ContentCapture
