import ContentCapture.Proofs.Accounts
import ContentCapture.Proofs.Numbering
import ContentCapture.Proofs.RoundTrip
import ContentCapture.Proofs.Sequences
import ContentCapture.Proofs.Sinks
import ContentCapture.Proofs.Succession

namespace ContentCapture

/-!
# The feature toggle is a register

The requests to a local service have one order, which is that in which it was asked,
and it works them off in that order.  The toggle is a register in it: it holds what the
owner of the service has written last.  A question about it is answered by what the
register holds at the place of the question, however much later the answer is looked
at, and by nothing else.  The only other thing that can come of a question is that the
service does not get to it in time.
-/

/-- What a request makes of the feature, if it comes from that package and turns the
feature on or off. -/
def Envelope.turn? (package : String) (envelope : Envelope) : Option Bool :=
  match envelope.request with
  | .setFeatureEnabled enabled _ => if envelope.caller = package then some enabled else none
  | _ => none

/-- What the register holds after some requests: what the owner has written last, or else
what it held at first. -/
def register (configuration : LocalConfiguration) (handled : List Envelope) : Bool :=
  ((handled.filterMap (Envelope.turn? configuration.component.packageName)).getLast?).getD
    configuration.featureEnabled

theorem register_concat (configuration : LocalConfiguration) (handled : List Envelope)
    (envelope : Envelope) :
    register configuration (handled ++ [envelope]) =
      (envelope.turn? configuration.component.packageName).getD
        (register configuration handled) := by
  rw [register, List.filterMap_append, List.filterMap_cons]
  cases envelope.turn? configuration.component.packageName with
  | none => simp [register]
  | some enabled => simp

namespace LocalService

theorem featureEnabled_handle (service : LocalService) (envelope : Envelope) :
    (service.handle envelope).1.featureEnabled =
      (envelope.turn? service.configuration.component.packageName).getD service.featureEnabled := by
  rcases envelope with ⟨caller, request⟩
  cases request with
  | setFeatureEnabled enabled channel =>
      by_cases owner : caller = service.configuration.component.packageName
      · simp [handle, isOwner, Envelope.turn?, owner]
      · simp [handle, isOwner, Envelope.turn?, owner]
  | _ => rfl

/-- The toggle of a service is the register. -/
theorem featureEnabled_past (configuration : LocalConfiguration) (handled : List Envelope) :
    (past configuration handled).featureEnabled = register configuration handled := by
  induction handled using List.reverseRecOn with
  | nil => rfl
  | append_singleton handled envelope inductionHypothesis =>
      rw [past_concat, workOff_eq, register_concat, ← inductionHypothesis]
      change (handle _ _).1.featureEnabled = _
      rw [featureEnabled_handle, configuration_past]

/-- No request is answered by a failure or by dropping its channel. -/
theorem exists_reply_of_handle {service : LocalService} {envelope : Envelope} {outcome : Outcome}
    (answered : (service.handle envelope).2 = some outcome) : ∃ reply, outcome = .reply reply := by
  rcases envelope with ⟨caller, request⟩
  cases request with
  | serviceComponentName channel => exact ⟨_, (Option.some.inj answered).symm⟩
  | featureEnabled channel => exact ⟨_, (Option.some.inj answered).symm⟩
  | startSession start channel => exact ⟨_, (Option.some.inj answered).symm⟩
  | setFeatureEnabled enabled channel =>
      cases owner : service.isOwner caller <;> simp only [handle, owner] at answered <;>
        exact ⟨_, (Option.some.inj answered).symm⟩
  | removeUserData removal => cases answered
  | finishSession session => cases answered
  | sendEvents session events reason => cases answered

theorem receive_eq {service : LocalService} (running : service.running = true)
    (envelope : Envelope) :
    Service.receive service envelope =
      { service := { service with inbox := service.inbox ++ [envelope] } } := by
  simp [Service.receive, receive, running]

theorem handle_of_stranger {service : LocalService} {caller : String} (enabled : Bool)
    (channel : ChannelId) (stranger : caller ≠ service.configuration.component.packageName) :
    service.handle ⟨caller, .setFeatureEnabled enabled channel⟩ =
      (service, some (.ofCode ResultCode.notService.code)) := by
  simp [handle, isOwner, stranger]

end LocalService

/-! ## What the answers say -/

/-- The answer to a question that only the owner of the service may ask. -/
def ownersAnswer (configuration : LocalConfiguration) (caller : String) (answer : Bool) :
    Except Failure Bool :=
  if caller = configuration.component.packageName then .ok answer else .error .notService

/-- The answer to the question for the component of the service. -/
def componentAnswer (configuration : LocalConfiguration) (enabled : Bool) :
    Except Failure (Option ComponentName) :=
  .ok (if enabled then some configuration.component else none)

/-! ## Places in the order of requests -/

namespace Deployment

section

variable {σ : Type}

/-- The channel of a request that names no session. -/
def ownChannel? (envelope : Envelope) : Option ChannelId :=
  if envelope.request.session?.isSome then none else envelope.request.channel?

/-- No channel is asked about twice, but for those of sessions. -/
theorem Numbered.nodup_asked {deployment : Deployment σ} (numbered : Numbered deployment) :
    (deployment.asked.filterMap ownChannel?).Nodup := by
  rw [asked, List.filterMap_filterMap]
  apply numbered.nodup_of_introduced
  intro entry channel carried
  cases entry with
  | posted job => cases carried
  | asked asker envelope result =>
      cases named : envelope.request.session? with
      | none => simpa [ownChannel?, Entry.introduced?, named] using carried
      | some session => simp [ownChannel?, named] at carried

theorem Precedes.asked {first second : Deployment σ} (precedes : first.Precedes second) :
    first.asked <+: second.asked :=
  precedes.journal.filterMap _

end

/-! ## How far the service gets -/

/-- Whether an event is that the service works off its next request. -/
def isServe : Event LocalService → Bool
  | .act LocalAct.serve => true
  | _ => false

/-- How often the service gets to work off a request. -/
def serves (events : List (Event LocalService)) : Nat :=
  events.countP isServe

variable {configuration : LocalConfiguration} {handled : List Envelope}
  {first : Deployment LocalService}

theorem Ledger.after (ledger : Ledger configuration handled [] first)
    {event : Event LocalService} (other : ∀ act, event ≠ .act act) :
    Ledger configuration handled [] (first.after event) := by
  cases event with
  | operation operation =>
      rcases first.exists_chain_perform operation with ⟨owner, chain⟩
      exact chain.keeps (fun _ _ step ledger => step.handled.keeps Ledger.handling ledger) ledger
  | work dispatcher => exact (first.handled_work dispatcher).keeps Ledger.handling ledger
  | act act => exact absurd rfl (other act)
  | elapse now => exact ledger.elapse now

/-- A service that is not stopped works requests off as often as it gets to it, or until it
has come through those that wait. -/
theorem Ledger.follow (ledger : Ledger configuration handled [] first)
    (running : first.service.running = true) {events : List (Event LocalService)}
    (unstopped : .act LocalAct.stop ∉ events) :
    ∃ more, Ledger configuration (handled ++ more) [] (first.follow events) ∧
      (serves events ≤ more.length ∨ first.service.inbox.length ≤ more.length) := by
  induction events using List.reverseRecOn with
  | nil => exact ⟨[], by simpa using ledger, .inl (Nat.zero_le _)⟩
  | append_singleton events event inductionHypothesis =>
      have before : .act LocalAct.stop ∉ events := fun member =>
        unstopped (List.mem_append_left [event] member)
      rcases inductionHypothesis before with ⟨more, later, far⟩
      have counted : serves (events ++ [event]) = serves events + serves [event] :=
        List.countP_append
      rw [follow_concat, counted]
      by_cases other : ∀ act, event ≠ .act act
      · have silent : serves [event] = 0 := by
          cases event with
          | act act => exact absurd rfl (other act)
          | _ => rfl
        exact ⟨more, later.after other, by rwa [silent]⟩
      · rcases not_forall_not.mp other with ⟨act, rfl⟩
        cases act with
        | stop => exact absurd (by simp) unstopped
        | serve =>
            change ∃ more, Ledger configuration _ [] ((first.follow events).acted .serve) ∧
              (serves events + 1 ≤ _ ∨ _)
            rw [acted_serve]
            cases hinbox : (first.follow events).service.inbox with
            | nil =>
                rw [serve_eq_self hinbox]
                have through := (precedes_follow first events).asked
                rw [(ledger.history.running running).1,
                  (later.history.running (running_follow running before)).1, hinbox,
                  List.append_nil, List.prefix_append_right_inj] at through
                exact ⟨more, later, .inr through.length_le⟩
            | cons envelope rest =>
                have served := later.serve hinbox
                rw [List.append_assoc] at served
                refine ⟨more ++ [envelope], served, ?_⟩
                rw [List.length_append, List.length_singleton]
                omega

/-! ## A question and its answer -/

/-- The request that puts the next question of a manager. -/
def asksNext (deployment : Deployment LocalService) (manager : Manager) (question : Question) :
    Envelope :=
  ⟨manager.caller, question.request deployment.exchange.channels.length⟩

section

variable (running : first.service.running = true) {owner : Nat} {manager : Manager}
  (hmanager : first.managers[owner]? = some manager) (question : Question)

include hmanager

theorem asked_put :
    (first.put owner question).asked = first.asked ++ [first.asksNext manager question] := by
  rw [put_eq hmanager]
  simp [asked, journal_ask, newChannel, asksNext, Exchange.newChannel]

include running

theorem service_put :
    (first.put owner question).service =
      { first.service with
        inbox := first.service.inbox ++ [first.asksNext manager question] } := by
  have still : (first.newChannel manager.timeout).2.service.running = true := running
  rw [put_eq hmanager]
  exact (service_ask _ _ _).trans (congrArg Reception.service (LocalService.receive_eq still _))

/-- A question that is put to a running service is answered by what is found in its channel
at the end of the wait. -/
theorem inquire_fst {α : Type} (meanwhile : List (Event LocalService))
    (read : Deployment LocalService → ChannelId → Except Failure α) :
    (first.inquire owner manager question.request (·.follow meanwhile) read).1 =
      read (((first.put owner question).follow meanwhile).await first.exchange.channels.length)
        first.exchange.channels.length := by
  have still : (first.newChannel manager.timeout).2.service.running = true := running
  have issued : first.issue owner manager question.request =
      (.ok first.exchange.channels.length, first.put owner question) := by
    rw [put_eq hmanager]
    simp only [issue, ask_eq, LocalService.receive_eq still]
    rfl
  rw [inquire, issued]

end

/-- At the end of a wait the outcome of a channel is there, or the time is up. -/
theorem exists_awaited (deployment : Deployment LocalService) {id : ChannelId} {channel : Channel}
    (there : deployment.exchange.channel? id = some channel) :
    ∃ awaited, (deployment.await id).exchange.channel? id = some awaited ∧
      (∀ outcome, channel.outcome = some outcome → awaited.conclude = outcome.resolve) ∧
      (channel.outcome = none → channel.underway = none →
        awaited.conclude = .error (.timeout channel.timeout)) := by
  refine ⟨channel.reached (channel.waitEnd deployment.exchange.now), ?_, ?_, ?_⟩
  · simp [await, Exchange.await, there, Exchange.channel?_reached]
  · intro outcome decided
    have final := Channel.outcome_reached (channel.waitEnd deployment.exchange.now) decided
    simp [Channel.conclude, final]
  · intro undecided idle
    simp [Channel.conclude, Channel.reached, undecided, idle]

/-- The outcome that a responsive service has decided on a request that names no session. -/
theorem decided_of_place (ledger : Ledger configuration handled [] first)
    (responsive : configuration.unresponsive = false) (delivery : Delivery [] first)
    (numbered : Numbered first) {earlier : List Envelope} {envelope : Envelope}
    {channel : ChannelId} (carried : envelope.request.channel? = some channel)
    (unnamed : envelope.request.session? = none) (place : earlier ++ [envelope] <+: handled) :
    ∃ found outcome, first.exchange.channel? channel = some found ∧
      found.outcome = some outcome ∧
      ((LocalService.past configuration earlier).handle envelope).2 = some outcome := by
  have answered : ((LocalService.past configuration earlier).handle envelope).2.isSome := by
    rw [LocalService.isSome_handle, carried]
    rfl
  rcases Option.isSome_iff_exists.mp answered with ⟨outcome, houtcome⟩
  have found := ledger.answered channel outcome
    (LocalService.mem_decisions responsive place carried houtcome)
  rcases Exchange.peek_eq_some_iff.mp found with ⟨decided, final, there, hfinal, same⟩
  refine ⟨decided, final, there, hfinal, ?_⟩
  have asked := ledger.history.handled_prefix
  rcases (ledger.history.outcomes channel decided there).2 final hfinal with rfl | member
  · rcases LocalService.exists_reply_of_handle houtcome with ⟨reply, rfl⟩
    cases same
  · rcases LocalService.exists_of_mem_decisions member with
      ⟨before, other, hother, again, result⟩
    have introduced : ∀ {earlier : List Envelope} {envelope : Envelope},
        earlier ++ [envelope] <+: handled → envelope.request ∈ first.introduced :=
      fun h => mem_introduced_of_mem_asked delivery ((h.trans asked).subset (by simp))
    have request := numbered.eq_of_channel? (introduced hother) (introduced place) again carried
    have own : ownChannel? envelope = some channel := by simp [ownChannel?, unnamed, carried]
    have ownOther : ownChannel? other = some channel := by
      simp [ownChannel?, request, unnamed, carried]
    rcases eq_of_prefix_of_nodup numbered.nodup_asked own ownOther (place.trans asked)
      (hother.trans asked) with ⟨rfl, rfl⟩
    exact result

/-- What becomes of the channel of a question: the service decides it as it does at the
place of the question, or has not come to it. -/
theorem exists_channel_of_put (ledger : Ledger configuration handled [] first)
    (responsive : configuration.unresponsive = false)
    (running : first.service.running = true) {owner : Nat} {manager : Manager}
    (hmanager : first.managers[owner]? = some manager) (question : Question)
    {meanwhile : List (Event LocalService)} (unstopped : .act LocalAct.stop ∉ meanwhile)
    (delivery : Delivery [] ((first.put owner question).follow meanwhile))
    (numbered : Numbered ((first.put owner question).follow meanwhile)) :
    ∃ channel,
      ((first.put owner question).follow meanwhile).exchange.channel?
          first.exchange.channels.length = some channel ∧
      ((∃ outcome, channel.outcome = some outcome ∧
          ((LocalService.past configuration first.asked).handle
            (first.asksNext manager question)).2 = some outcome) ∨
        serves meanwhile ≤ first.service.inbox.length ∧ channel.outcome = none ∧
          channel.underway = none) := by
  have issued : Ledger configuration handled [] (first.put owner question) :=
    (Elementary.put first question).handled.keeps Ledger.handling ledger
  have service := service_put running hmanager question
  have still : (first.put owner question).service.running = true := by
    rw [service]
    exact running
  rcases issued.follow still unstopped with ⟨more, later, far⟩
  have goingOn := running_follow still unstopped
  have carried : (first.asksNext manager question).request.channel? =
      some first.exchange.channels.length := by
    cases question <;> rfl
  have unnamed : (first.asksNext manager question).request.session? = none := by
    cases question <;> rfl
  have now : (first.put owner question).asked =
      handled ++ (first.put owner question).service.inbox :=
    (issued.history.running still).1
  have whole := (later.history.running goingOn).1
  have through := (precedes_follow (first.put owner question) meanwhile).asked
  rw [asked_put hmanager question] at now through
  by_cases handledAll : (first.asked ++ [first.asksNext manager question]).length ≤
      (handled ++ more).length
  · have place : first.asked ++ [first.asksNext manager question] <+: handled ++ more := by
      apply List.prefix_of_prefix_length_le through _ handledAll
      rw [whole]
      exact List.prefix_append _ _
    rcases decided_of_place later responsive delivery numbered carried unnamed place with
      ⟨channel, outcome, there, houtcome, answered⟩
    exact ⟨channel, there, .inl ⟨outcome, houtcome, answered⟩⟩
  · have waits : first.asksNext manager question ∈
        ((first.put owner question).follow meanwhile).service.inbox := by
      rw [whole] at through
      exact mem_of_prefix_append through (by
        rw [List.length_append, List.length_singleton] at handledAll
        omega)
    have undecided := later.undecided waits carried
    rw [Exchange.isUndecided, Option.any_eq_true_iff_get] at undecided
    rcases undecided with ⟨made, silent⟩
    refine ⟨_, (Option.some_get made).symm, .inr ⟨?_, by simpa using silent, ?_⟩⟩
    · rw [now, List.length_append, List.length_append, service, List.length_append,
        List.length_singleton] at handledAll
      rw [service, List.length_append, List.length_singleton] at far
      omega
    · exact (later.history.outcomes _ _ (Option.some_get made).symm).1

/-! ## What a question comes to -/

/-- A question comes to the expected result.  If the service gets to work off no more requests
than waited before the question, it may come to the end of its time instead. -/
def Concludes {α : Type} (deployment : Deployment LocalService)
    (meanwhile : List (Event LocalService)) (result expected : Except Failure α) : Prop :=
  result = expected ∨ serves meanwhile ≤ deployment.service.inbox.length ∧
    ∃ span, result = .error (.timeout span)

/-- A way to read a channel at the end of a wait finds what the outcome says, and the end of
the time if there is none. -/
structure Reads {α : Type} (read : Deployment LocalService → ChannelId → Except Failure α)
    (outcome : Outcome) (expected : Except Failure α) : Prop where
  decided : ∀ deployment id channel, deployment.exchange.channel? id = some channel →
    channel.conclude = outcome.resolve → read deployment id = expected
  late : ∀ deployment id channel span, deployment.exchange.channel? id = some channel →
    channel.conclude = .error (.timeout span) → read deployment id = .error (.timeout span)

theorem reads_answerOf {code : Int32} {expected : Except Failure Bool}
    (h : verdict code = expected) : Reads answerOf (.ofCode code) expected where
  decided deployment id channel there concluded := by
    rw [answerOf, there]
    simp only [Channel.concludeCode, concluded, Outcome.ofCode, Outcome.resolve]
    exact h
  late deployment id channel span there concluded := by
    rw [answerOf, there]
    simp only [Channel.concludeCode, concluded]
    rfl

theorem reads_payloadOf (component : Option ComponentName) :
    Reads payloadOf (.ofPayload (WireForm.encode component)) (.ok component) where
  decided deployment id channel there concluded := by
    rw [payloadOf, there]
    simp only [Channel.concludePayload, concluded, Outcome.ofPayload, Outcome.resolve]
    exact congrArg (Except.mapError Failure.ofReplyError)
      (Reply.payloadAs_encode ResultCode.affirmed.code component)
  late deployment id channel span there concluded := by
    rw [payloadOf, there]
    simp only [Channel.concludePayload, concluded]
    rfl

theorem concludes_of_put (ledger : Ledger configuration handled [] first)
    (responsive : configuration.unresponsive = false)
    (running : first.service.running = true) {owner : Nat} {manager : Manager}
    (hmanager : first.managers[owner]? = some manager) (question : Question)
    {meanwhile : List (Event LocalService)} (unstopped : .act LocalAct.stop ∉ meanwhile)
    (delivery : Delivery [] ((first.put owner question).follow meanwhile))
    (numbered : Numbered ((first.put owner question).follow meanwhile)) {α : Type}
    {read : Deployment LocalService → ChannelId → Except Failure α} {outcome : Outcome}
    {expected : Except Failure α}
    (answered : ((LocalService.past configuration first.asked).handle
      (first.asksNext manager question)).2 = some outcome)
    (reads : Reads read outcome expected) :
    first.Concludes meanwhile
      (first.inquire owner manager question.request (·.follow meanwhile) read).1 expected := by
  rw [inquire_fst running hmanager]
  rcases exists_channel_of_put ledger responsive running hmanager question unstopped delivery
    numbered with ⟨channel, there, decided | ⟨slow, undecided, idle⟩⟩
  · rcases decided with ⟨found, hfound, same⟩
    rw [answered, Option.some_inj] at same
    subst same
    rcases exists_awaited _ there with ⟨awaited, hawaited, concluded, -⟩
    exact .inl (reads.decided _ _ awaited hawaited (concluded outcome hfound))
  · rcases exists_awaited _ there with ⟨awaited, hawaited, -, expired⟩
    exact .inr ⟨slow, channel.timeout,
      reads.late _ _ awaited _ hawaited (expired undecided idle)⟩

/-- The code of an answer that only the owner of the service gets. -/
theorem verdict_ownersAnswer (configuration : LocalConfiguration) (caller : String)
    (answer : Bool) :
    verdict (if caller = configuration.component.packageName then ResultCode.ofBool answer
      else .notService).code = ownersAnswer configuration caller answer := by
  unfold ownersAnswer
  split
  · cases answer <;> decide
  · decide

theorem handle_featureEnabled (configuration : LocalConfiguration) (earlier : List Envelope)
    (caller : String) (channel : ChannelId) :
    ((LocalService.past configuration earlier).handle ⟨caller, .featureEnabled channel⟩).2 =
      some (.ofCode (if caller = configuration.component.packageName then
        ResultCode.ofBool (register configuration earlier) else .notService).code) := by
  simp [LocalService.handle, LocalService.featureAnswer, LocalService.isOwner,
    LocalService.configuration_past, LocalService.featureEnabled_past]

theorem handle_setFeatureEnabled (configuration : LocalConfiguration) (earlier : List Envelope)
    (caller : String) (enabled : Bool) (channel : ChannelId) :
    ((LocalService.past configuration earlier).handle
        ⟨caller, .setFeatureEnabled enabled channel⟩).2 =
      some (.ofCode (if caller = configuration.component.packageName then
        ResultCode.ofBool true else .notService).code) := by
  by_cases owner : caller = configuration.component.packageName
  · simp [LocalService.handle, LocalService.isOwner, LocalService.configuration_past, owner]
    rfl
  · simp [LocalService.handle, LocalService.isOwner, LocalService.configuration_past, owner]

theorem handle_serviceComponentName (configuration : LocalConfiguration)
    (earlier : List Envelope) (caller : String) (channel : ChannelId) :
    ((LocalService.past configuration earlier).handle ⟨caller, .serviceComponentName channel⟩).2 =
      some (.ofPayload (WireForm.encode
        (if register configuration earlier then some configuration.component else none))) := by
  simp only [LocalService.handle, LocalService.configuration_past,
    LocalService.featureEnabled_past]

theorem follow_put {deployment first : Deployment LocalService} {events : List (Event LocalService)}
    {owner : Nat} {question : Question}
    (put : (deployment.follow events).perform (.ask owner question) = first.put owner question)
    (meanwhile : List (Event LocalService)) :
    (first.put owner question).follow meanwhile =
      deployment.follow (events ++ .operation (.ask owner question) :: meanwhile) := by
  rw [follow_append, ← put]
  rfl

section

variable {deployment : Deployment LocalService} (fresh : deployment.Fresh)
  {events : List (Event LocalService)}
  (ledger : Ledger configuration handled [] (deployment.follow events))
  (responsive : configuration.unresponsive = false)
  (running : (deployment.follow events).service.running = true) {owner : Nat} {manager : Manager}
  (hmanager : (deployment.follow events).managers[owner]? = some manager)
  {meanwhile : List (Event LocalService)} (unstopped : .act LocalAct.stop ∉ meanwhile)

include fresh ledger responsive running hmanager unstopped

theorem concludes_setFeatureEnabled (enabled : Bool) :
    (deployment.follow events).Concludes meanwhile
      ((deployment.follow events).setFeatureEnabled owner enabled (·.follow meanwhile)).1
      (ownersAnswer configuration manager.caller true) := by
  have run : ((deployment.follow events).put owner (.setFeatureEnabled enabled)).follow meanwhile =
      deployment.follow
        (events ++ .operation (.ask owner (.setFeatureEnabled enabled)) :: meanwhile) :=
    follow_put rfl meanwhile
  rw [setFeatureEnabled, hmanager]
  exact concludes_of_put ledger responsive running hmanager _ unstopped
    (run ▸ delivery_follow fresh _) (run ▸ numbered_follow fresh _)
    (handle_setFeatureEnabled configuration _ manager.caller enabled _)
    (reads_answerOf (verdict_ownersAnswer configuration manager.caller true))

theorem concludes_isFeatureEnabled :
    (deployment.follow events).Concludes meanwhile
      ((deployment.follow events).isFeatureEnabled owner (·.follow meanwhile)).1
      (ownersAnswer configuration manager.caller
        (register configuration (deployment.follow events).asked)) := by
  have run : ((deployment.follow events).put owner .featureEnabled).follow meanwhile =
      deployment.follow (events ++ .operation (.ask owner .featureEnabled) :: meanwhile) :=
    follow_put rfl meanwhile
  rw [isFeatureEnabled, hmanager]
  exact concludes_of_put ledger responsive running hmanager .featureEnabled unstopped
    (run ▸ delivery_follow fresh _) (run ▸ numbered_follow fresh _)
    (handle_featureEnabled configuration _ manager.caller _)
    (reads_answerOf (verdict_ownersAnswer configuration manager.caller _))

/-- The manager looks at the answer to the start of its session before it asks. -/
theorem concludes_serviceComponentName
    (enabled : ((deployment.follow events).isEnabled owner).1 = true) :
    (deployment.follow events).Concludes meanwhile
      ((deployment.follow events).serviceComponentName owner (·.follow meanwhile)).1
      (componentAnswer configuration
        (register configuration (deployment.follow events).asked)) := by
  let looked := (deployment.follow events).poll owner
  have look : Chain owner (deployment.follow events) looked := chain_poll _ owner
  have ledgerThen : Ledger configuration handled [] looked :=
    look.keeps (fun _ _ step ledger => step.handled.keeps Ledger.handling ledger) ledger
  rcases look.precedes.extension owner manager hmanager with ⟨later, hlater, -⟩
  have observed : (deployment.follow events).isEnabled owner = (true, looked) :=
    Prod.ext enabled rfl
  have put : (deployment.follow events).perform (.ask owner .serviceComponentName) =
      looked.put owner .serviceComponentName := by
    simp [perform, asking, observed]
  have run := follow_put put meanwhile
  simp only [serviceComponentName, observed, hlater, if_true]
  exact concludes_of_put ledgerThen responsive running hlater .serviceComponentName unstopped
    (run ▸ delivery_follow fresh _) (run ▸ numbered_follow fresh _)
    (handle_serviceComponentName configuration _ later.caller _) (reads_payloadOf _)

end

/-- The toggle of a service that answers and runs is a guarded register, whoever is connected
and however the steps are interleaved.  It holds what the owner has written last among the
requests that were worked off.  What anybody else writes changes nothing.  Reading and writing
is for the owner, and a reader gets what the register holds at the place of the question; the
component of the service is named to everybody whose capture is on, if the register holds
true there.  Nothing else comes of a question, unless the service does not get to it. -/
theorem register_of_follow {deployment : Deployment LocalService} (fresh : deployment.Fresh)
    {configuration : LocalConfiguration} (made : deployment.service = .new configuration)
    (responsive : configuration.unresponsive = false) {events : List (Event LocalService)}
    (unstopped : .act LocalAct.stop ∉ events) :
    (∃ handled, (deployment.follow events).asked =
        handled ++ (deployment.follow events).service.inbox ∧
      (deployment.follow events).service.featureEnabled = register configuration handled) ∧
    (∀ caller enabled channel rest, caller ≠ configuration.component.packageName →
      (deployment.follow events).service.inbox =
        ⟨caller, .setFeatureEnabled enabled channel⟩ :: rest →
      (deployment.follow events).serve.service =
        { (deployment.follow events).service with inbox := rest }) ∧
    ∀ owner manager, (deployment.follow events).managers[owner]? = some manager →
      ∀ meanwhile, .act LocalAct.stop ∉ meanwhile →
        (∀ enabled, (deployment.follow events).Concludes meanwhile
          ((deployment.follow events).setFeatureEnabled owner enabled (·.follow meanwhile)).1
          (ownersAnswer configuration manager.caller true)) ∧
        (deployment.follow events).Concludes meanwhile
          ((deployment.follow events).isFeatureEnabled owner (·.follow meanwhile)).1
          (ownersAnswer configuration manager.caller
            (register configuration (deployment.follow events).asked)) ∧
        (((deployment.follow events).isEnabled owner).1 = true →
          (deployment.follow events).Concludes meanwhile
            ((deployment.follow events).serviceComponentName owner (·.follow meanwhile)).1
            (componentAnswer configuration
              (register configuration (deployment.follow events).asked))) := by
  rcases exists_ledger fresh made events with ⟨handled, ledger⟩
  have history := ledger.history
  have running : (deployment.follow events).service.running = true :=
    running_follow (by rw [made]; rfl) unstopped
  refine ⟨⟨handled, (history.running running).1, ?_⟩, ?_, ?_⟩
  · rw [history.service]
    exact LocalService.featureEnabled_past configuration handled
  · intro caller enabled channel rest stranger hinbox
    have behaviour : (deployment.follow events).service.configuration = configuration := by
      rw [history.service]
      exact LocalService.configuration_past configuration handled
    rw [serve_eq hinbox, LocalService.handle_of_stranger]
    · simp [LocalService.parks, behaviour, responsive]
    · rwa [behaviour]
  · intro owner manager hmanager meanwhile going
    exact ⟨concludes_setFeatureEnabled fresh ledger responsive running hmanager going,
      concludes_isFeatureEnabled fresh ledger responsive running hmanager going,
      concludes_serviceComponentName fresh ledger responsive running hmanager going⟩

/-- The owner of the service turns the feature off, and somebody else tries to turn it on
again.  The service gets to neither. -/
def contestedToggle : List (Event LocalService) :=
  [.operation (.join ⟨"com.example.capture", 0⟩ "com.example.capture" ⟨0⟩ 0),
    .operation (.ask 1 (.setFeatureEnabled false)), .operation (.ask 0 (.setFeatureEnabled true))]

def threeServed : List (Event LocalService) :=
  [.act LocalAct.serve, .act LocalAct.serve, .act LocalAct.serve]

theorem register_of_follow_contestedToggle :
    let before := (solitary (LocalService.new {})).follow contestedToggle
    before.service.featureEnabled = true ∧
      (before.setFeatureEnabled 0 true (·.follow threeServed)).1 = .error .notService ∧
      (before.isFeatureEnabled 1 (·.follow threeServed)).1 = .ok false ∧
      (before.serviceComponentName 0 (·.follow threeServed)).1 = .ok none := by
  intro before
  have fresh : (solitary (LocalService.new {})).Fresh := fresh_solitary _
  have unstopped : (.act LocalAct.stop : Event LocalService) ∉ contestedToggle := by
    simp [contestedToggle]
  have going : (.act LocalAct.stop : Event LocalService) ∉ threeServed := by simp [threeServed]
  have questions := (register_of_follow fresh rfl rfl unstopped).2.2
  have enough : ¬ serves threeServed ≤ before.service.inbox.length := by decide +kernel
  have off : register {} before.asked = false := by decide +kernel
  have stranger := questions 0 ⟨⟨"com.example.notes", 0⟩, "com.example.notes", ⟨0⟩, 0, .empty, none⟩
    (by decide +kernel) threeServed going
  have owner := questions 1
    ⟨⟨"com.example.capture", 0⟩, "com.example.capture", ⟨0⟩, 0, .empty, none⟩
    (by decide +kernel) threeServed going
  refine ⟨by decide +kernel, ?_, ?_, ?_⟩
  · exact (stranger.1 true).resolve_right fun slow => enough slow.1
  · have answer := owner.2.1.resolve_right fun slow => enough slow.1
    rw [off] at answer
    exact answer
  · have answer := (stranger.2.2 (by decide +kernel)).resolve_right fun slow => enough slow.1
    rw [off] at answer
    exact answer

end Deployment
end ContentCapture
