import ContentCapture.Proofs.Handling

namespace ContentCapture

/-!
# The history of a local service

A local service is what the requests that it has worked off have made of it.  When
it runs, these are the requests that it was asked, but for those that still wait.
When it has stopped, they are some of the first ones that it was asked, and nothing
changes any more.

The only outcomes of reply channels are those that the service has decided while it
worked its requests off, and the abandonment of channels whose requests were lost.
-/

namespace LocalService

/-- The service with other things in its hands. -/
def holding (service : LocalService) (inbox : List Envelope) (parked : List ChannelId)
    (running : Bool) : LocalService :=
  { service with inbox := inbox, parked := parked, running := running }

/-- What a service has become that has worked off some requests, the first one
first, and the outcomes that it has decided. -/
def worked (configuration : LocalConfiguration) (handled : List Envelope) :
    LocalService × List (ChannelId × Outcome) :=
  handled.foldl
    (fun (service, decisions) envelope =>
      let (service, decided) := service.workOff envelope
      (service, decisions ++ decided.toList))
    (new configuration, [])

/-- What a service has become that has worked off some requests. -/
def past (configuration : LocalConfiguration) (handled : List Envelope) : LocalService :=
  (worked configuration handled).1

/-- The outcomes that a service has decided that has worked off some requests. -/
def decisions (configuration : LocalConfiguration) (handled : List Envelope) :
    List (ChannelId × Outcome) :=
  (worked configuration handled).2

@[simp] theorem past_nil (configuration : LocalConfiguration) :
    past configuration [] = new configuration := rfl

@[simp] theorem decisions_nil (configuration : LocalConfiguration) :
    decisions configuration [] = [] := rfl

theorem past_concat (configuration : LocalConfiguration) (handled : List Envelope)
    (envelope : Envelope) :
    past configuration (handled ++ [envelope]) =
      ((past configuration handled).workOff envelope).1 := by
  rw [past, worked, List.foldl_append]
  rfl

theorem decisions_concat (configuration : LocalConfiguration) (handled : List Envelope)
    (envelope : Envelope) :
    decisions configuration (handled ++ [envelope]) =
      decisions configuration handled ++
        ((past configuration handled).workOff envelope).2.toList := by
  rw [decisions, worked, List.foldl_append]
  rfl

/-- What a request changes does not depend on what else the service holds. -/
theorem handle_holding (service : LocalService) (envelope : Envelope) (inbox : List Envelope)
    (parked : List ChannelId) (running : Bool) :
    (service.holding inbox parked running).handle envelope =
      ((service.handle envelope).1.holding inbox parked running, (service.handle envelope).2) := by
  rcases envelope with ⟨caller, request⟩
  cases request with
  | setFeatureEnabled enabled channel =>
      cases howner : service.isOwner caller <;>
        simp [handle, holding, isOwner] at howner ⊢ <;> simp [howner]
  | _ => rfl

/-- The behaviour of a service never changes. -/
theorem configuration_handle (service : LocalService) (envelope : Envelope) :
    (service.handle envelope).1.configuration = service.configuration := by
  rcases envelope with ⟨caller, request⟩
  cases request with
  | setFeatureEnabled enabled channel =>
      cases howner : service.isOwner caller <;> simp [handle, howner]
  | _ => rfl

/-- What a service holds besides the request is not touched. -/
theorem handle_eq_holding (service : LocalService) (envelope : Envelope) :
    (service.handle envelope).1 =
      (service.handle envelope).1.holding service.inbox service.parked service.running :=
  congrArg Prod.fst (service.handle_holding envelope service.inbox service.parked service.running)

theorem parked_handle (service : LocalService) (envelope : Envelope) :
    (service.handle envelope).1.parked = service.parked := by
  rw [handle_eq_holding]
  rfl

theorem inbox_handle (service : LocalService) (envelope : Envelope) :
    (service.handle envelope).1.inbox = service.inbox := by
  rw [handle_eq_holding]
  rfl

theorem running_handle (service : LocalService) (envelope : Envelope) :
    (service.handle envelope).1.running = service.running := by
  rw [handle_eq_holding]
  rfl

/-- A request has an answer exactly if it wants one. -/
theorem isSome_handle (service : LocalService) (envelope : Envelope) :
    (service.handle envelope).2.isSome = envelope.request.channel?.isSome := by
  rcases envelope with ⟨caller, request⟩
  cases request with
  | setFeatureEnabled enabled channel =>
      cases howner : service.isOwner caller <;> simp [handle, howner, Request.channel?]
  | _ => rfl

/-- The channels that are parked when a request is worked off. -/
def parks (service : LocalService) (envelope : Envelope) : List ChannelId :=
  if service.configuration.unresponsive then envelope.request.channel?.toList else []

/-- The decision that is made when a request is worked off. -/
def decides (service : LocalService) (envelope : Envelope) : Option (ChannelId × Outcome) :=
  if service.configuration.unresponsive then none
  else envelope.request.channel?.bind fun channel =>
    (service.handle envelope).2.map fun outcome => (channel, outcome)

/-- A channel is either parked or decided. -/
theorem workOff_eq (service : LocalService) (envelope : Envelope) :
    service.workOff envelope =
      ({ (service.handle envelope).1 with
          parked := service.parked ++ service.parks envelope },
        service.decides envelope) := by
  have parked := parked_handle service envelope
  have configuration := configuration_handle service envelope
  have answered := isSome_handle service envelope
  unfold workOff parks decides
  rcases hhandle : service.handle envelope with ⟨after, outcome⟩
  simp only [hhandle] at parked configuration answered ⊢
  cases hchannel : envelope.request.channel? with
  | none => cases outcome <;> cases hwaits : service.configuration.unresponsive <;> simp [← parked]
  | some channel =>
      cases outcome with
      | none => simp [hchannel] at answered
      | some outcome =>
          have waits : after.configuration.unresponsive = service.configuration.unresponsive :=
            congrArg LocalConfiguration.unresponsive configuration
          cases hwaits : service.configuration.unresponsive <;> simp [waits, hwaits, ← parked]

theorem decides_holding (service : LocalService) (envelope : Envelope) (inbox : List Envelope)
    (parked : List ChannelId) (running : Bool) :
    (service.holding inbox parked running).decides envelope = service.decides envelope := by
  simp only [decides, handle_holding]
  rfl

/-- The channel of a request is parked if nothing is decided. -/
theorem parks_or_decides (service : LocalService) (envelope : Envelope) :
    (service.decides envelope = none ∧
        service.parks envelope = envelope.request.channel?.toList) ∨
      ∃ channel outcome, service.decides envelope = some (channel, outcome) ∧
        service.parks envelope = [] ∧ envelope.request.channel? = some channel ∧
          (service.handle envelope).2 = some outcome := by
  have answered := isSome_handle service envelope
  unfold decides parks
  cases hwaits : service.configuration.unresponsive with
  | true => exact .inl ⟨rfl, rfl⟩
  | false =>
      cases hchannel : envelope.request.channel? with
      | none => exact .inl ⟨rfl, rfl⟩
      | some channel =>
          rw [hchannel, Option.isSome_some, Option.isSome_iff_exists] at answered
          rcases answered with ⟨outcome, houtcome⟩
          exact .inr ⟨channel, outcome, by simp [houtcome], rfl, rfl, houtcome⟩

/-- The behaviour of a service that has worked requests off is that of a new one. -/
theorem configuration_past (configuration : LocalConfiguration) (handled : List Envelope) :
    (past configuration handled).configuration = configuration := by
  induction handled using List.reverseRecOn with
  | nil => rfl
  | append_singleton handled envelope inductionHypothesis =>
      rw [past_concat, workOff_eq]
      exact (configuration_handle _ envelope).trans inductionHypothesis

/-- Every decision was made on a request that was worked off. -/
theorem exists_of_mem_decisions {configuration : LocalConfiguration} {handled : List Envelope}
    {channel : ChannelId} {outcome : Outcome}
    (decided : (channel, outcome) ∈ decisions configuration handled) :
    ∃ earlier envelope, earlier ++ [envelope] <+: handled ∧
      envelope.request.channel? = some channel ∧
      ((past configuration earlier).handle envelope).2 = some outcome := by
  induction handled using List.reverseRecOn with
  | nil => simp at decided
  | append_singleton handled envelope inductionHypothesis =>
      rw [decisions_concat, List.mem_append] at decided
      rcases decided with decided | decided
      · rcases inductionHypothesis decided with ⟨earlier, former, before, hchannel, houtcome⟩
        exact ⟨earlier, former, before.trans (List.prefix_append handled [envelope]), hchannel,
          houtcome⟩
      · refine ⟨handled, envelope, List.prefix_refl _, ?_⟩
        rw [workOff_eq, Option.mem_toList, decides] at decided
        split at decided
        · simp at decided
        · simpa [Option.bind_eq_some_iff] using decided

theorem decisions_mono {configuration : LocalConfiguration} {earlier handled : List Envelope}
    (h : earlier <+: handled) :
    decisions configuration earlier <+: decisions configuration handled := by
  rcases h with ⟨rest, rfl⟩
  induction rest using List.reverseRecOn with
  | nil => simp
  | append_singleton rest envelope inductionHypothesis =>
      rw [← List.append_assoc, decisions_concat]
      exact inductionHypothesis.trans (List.prefix_append _ _)

/-- A responsive service decides every request that wants an answer. -/
theorem mem_decisions {configuration : LocalConfiguration}
    (responsive : configuration.unresponsive = false) {earlier handled : List Envelope}
    {envelope : Envelope} (h : earlier ++ [envelope] <+: handled) {channel : ChannelId}
    (carried : envelope.request.channel? = some channel) {outcome : Outcome}
    (answered : ((past configuration earlier).handle envelope).2 = some outcome) :
    (channel, outcome) ∈ decisions configuration handled := by
  apply (decisions_mono h).subset
  rw [decisions_concat, workOff_eq, decides, configuration_past, responsive]
  simp [carried, answered]

end LocalService

/-! ## Outcomes -/

namespace Exchange

/-- Every outcome in the exchange is an abandonment or one of some decisions, and
none is underway. -/
def Records (decisions : List (ChannelId × Outcome)) (exchange : Exchange) : Prop :=
  ∀ id channel, exchange.channel? id = some channel →
    channel.underway = none ∧
      ∀ outcome, channel.outcome = some outcome →
        outcome = .abandoned ∨ (id, outcome) ∈ decisions

variable {decisions : List (ChannelId × Outcome)} {exchange : Exchange}

theorem Records.mono (records : exchange.Records decisions)
    (more : List (ChannelId × Outcome)) : exchange.Records (decisions ++ more) := by
  intro id channel hchannel
  rcases records id channel hchannel with ⟨underway, outcomes⟩
  refine ⟨underway, fun outcome houtcome => ?_⟩
  rcases outcomes outcome houtcome with abandoned | decided
  · exact .inl abandoned
  · exact .inr (List.mem_append_left more decided)

theorem Records.newChannel (records : exchange.Records decisions) (timeout : Span) :
    (exchange.newChannel timeout).2.Records decisions := by
  intro id channel hchannel
  by_cases former : id < exchange.channels.length
  · apply records id channel
    simpa [channel?, Exchange.newChannel, List.getElem?_append_left former] using hchannel
  · have made : channel = { timeout := timeout } := by
      rw [channel?, Exchange.newChannel, List.getElem?_append_right (Nat.le_of_not_lt former)]
        at hchannel
      exact List.mem_singleton.mp (List.mem_of_getElem? hchannel)
    subst made
    exact ⟨rfl, by simp⟩

/-- An outcome is decided, or was decided before. -/
theorem Records.complete (records : exchange.Records decisions) (id : ChannelId)
    (outcome : Outcome) (known : outcome = .abandoned ∨ (id, outcome) ∈ decisions) :
    (exchange.answer id (.complete outcome)).Records decisions := by
  intro other channel hchannel
  rw [channel?_answer, Option.map_eq_some_iff] at hchannel
  rcases hchannel with ⟨former, hformer, rfl⟩
  have before := records other former hformer
  split
  · next same =>
      subst same
      cases houtcome : former.outcome with
      | some found => simpa [Channel.answered, Channel.complete, houtcome] using before
      | none => simpa [Channel.answered, Channel.complete, houtcome, before.1] using known
  · exact before

theorem Records.abandonAll (records : exchange.Records decisions) (ids : List ChannelId) :
    (exchange.answerAll (ids.map fun id => (id, .complete .abandoned))).Records decisions := by
  induction ids generalizing exchange with
  | nil => exact records
  | cons id rest inductionHypothesis =>
      exact inductionHypothesis (records.complete id .abandoned (.inl rfl))

theorem Records.reached (records : exchange.Records decisions) (now : Span) :
    (exchange.reached now).Records decisions := by
  intro id channel hchannel
  rw [channel?_reached, Option.map_eq_some_iff] at hchannel
  rcases hchannel with ⟨former, hformer, rfl⟩
  have before := records id former hformer
  simpa [Channel.reached, before.1] using before

end Exchange

namespace Deployment

open LocalService

/-! ## The invariant -/

/-- The service of a deployment has worked off some requests. -/
structure History (configuration : LocalConfiguration) (handled : List Envelope)
    (deployment : Deployment LocalService) : Prop where
  service : deployment.service = (past configuration handled).holding deployment.service.inbox
    deployment.service.parked deployment.service.running
  running : deployment.service.running = true →
    deployment.asked = handled ++ deployment.service.inbox ∧
      deployment.service.parked = (past configuration handled).parked ∧ deployment.AlwaysReached
  stopped : deployment.service.running = false →
    handled <+: deployment.asked ∧ deployment.service.inbox = [] ∧ deployment.service.parked = []
  outcomes : deployment.exchange.Records (decisions configuration handled)

theorem serve_eq_self {deployment : Deployment LocalService}
    (empty : deployment.service.inbox = []) : deployment.serve = deployment := by
  simp [serve, empty]

/-- What a service makes of its next request. -/
theorem serve_eq {deployment : Deployment LocalService} {envelope : Envelope}
    {rest : List Envelope} (hinbox : deployment.service.inbox = envelope :: rest) :
    let opened := { deployment.service with inbox := rest }
    deployment.serve =
      { deployment with
        service := { (opened.handle envelope).1 with
          parked := deployment.service.parked ++ opened.parks envelope }
        exchange := (opened.decides envelope).elim deployment.exchange
          fun (channel, outcome) => deployment.exchange.answer channel (.complete outcome) } := by
  simp only [serve, hinbox, workOff_eq]
  cases LocalService.decides { deployment.service with inbox := rest } envelope <;> rfl

/-- A service that stops drops all that it holds. -/
theorem exchange_stop (deployment : Deployment LocalService) :
    deployment.stop.exchange = deployment.exchange.answerAll
      (deployment.service.held.map fun id => (id, .complete .abandoned)) := by
  rw [stop, foldl_complete]
  rfl

/-- A service decides an outcome only when it works a request off. -/
theorem Handling.records {decisions : List (ChannelId × Outcome)} {hand after : List ChannelId}
    {first second : Deployment LocalService} (step : Handling hand first after second)
    (records : first.exchange.Records decisions) : second.exchange.Records decisions := by
  cases step with
  | quiet _ service exchange dispatchers journal => rwa [exchange]
  | channel _ timeout => exact records.newChannel timeout
  | ask _ asker envelope =>
      rw [exchange_ask]
      cases hrunning : first.service.running with
      | true =>
          simp only [Service.receive, receive, hrunning, if_true]
          exact records
      | false =>
          simpa [Service.receive, receive, hrunning, Request.answered] using
            records.abandonAll envelope.request.channel?.toList
  | discard _ request => exact records.abandonAll request.channel?.toList
  | enqueue hqueue job => exact records
  | take hqueue popped => exact records

namespace History

variable {configuration : LocalConfiguration} {handled : List Envelope}
  {first second : Deployment LocalService}

/-- The service has worked off nothing but what it was asked. -/
theorem handled_prefix (history : History configuration handled first) :
    handled <+: first.asked := by
  cases hrunning : first.service.running with
  | true =>
      rw [(history.running hrunning).1]
      exact List.prefix_append handled _
  | false => exact (history.stopped hrunning).1

/-- Steps that do not concern the service. -/
theorem keep (history : History configuration handled first)
    (service : second.service = first.service) (asked : second.asked = first.asked)
    (reached : first.AlwaysReached → second.AlwaysReached)
    (outcomes : second.exchange.Records (decisions configuration handled)) :
    History configuration handled second where
  service := by
    rw [service]
    exact history.service
  running := by
    rw [service, asked]
    intro running
    rcases history.running running with ⟨all, parked, always⟩
    exact ⟨all, parked, reached always⟩
  stopped := by
    rw [service, asked]
    exact history.stopped
  outcomes := outcomes

theorem ask (history : History configuration handled first) (asker : Option Nat)
    (envelope : Envelope) : History configuration handled (first.ask asker envelope).2 := by
  have outcomes := (Handling.ask first asker envelope).records history.outcomes
  have asked : (first.ask asker envelope).2.asked = first.asked ++ [envelope] := by
    simp [Deployment.asked, journal_ask]
  cases hrunning : first.service.running with
  | true =>
      rcases history.running hrunning with ⟨all, parked, always⟩
      have taken : Service.receive first.service envelope =
          { service := { first.service with inbox := first.service.inbox ++ [envelope] } } := by
        simp [Service.receive, receive, hrunning]
      have service : (first.ask asker envelope).2.service =
          { first.service with inbox := first.service.inbox ++ [envelope] } :=
        (service_ask first asker envelope).trans (congrArg Reception.service taken)
      have result : (Service.receive first.service envelope).result = .ok () :=
        congrArg Reception.result taken
      refine ⟨?_, fun _ => ⟨?_, ?_, ?_⟩, ?_, ?_⟩
      · rw [service]
        exact congrArg (fun service : LocalService =>
          { service with inbox := first.service.inbox ++ [envelope] }) history.service
      · rw [asked, service, all, List.append_assoc]
      · rw [service]
        exact parked
      · rw [AlwaysReached, journal_ask, result]
        intro entry member
        rcases List.mem_append.mp member with member | member
        · exact always entry member
        · rw [List.mem_singleton.mp member]
          simp
      · rw [service]
        intro stopped
        exact absurd (hrunning.symm.trans stopped) (by simp)
      · exact outcomes
  | false =>
      rcases history.stopped hrunning with ⟨early, inbox, parked⟩
      have service : (first.ask asker envelope).2.service = first.service := by
        rw [service_ask]
        simp [Service.receive, receive, hrunning]
      refine ⟨?_, ?_, fun _ => ⟨?_, ?_, ?_⟩, ?_⟩
      · rw [service]
        exact history.service
      · rw [service]
        intro running
        exact absurd (hrunning.symm.trans running) (by simp)
      · rw [asked]
        exact early.trans (List.prefix_append _ _)
      · rw [service]
        exact inbox
      · rw [service]
        exact parked
      · exact outcomes

theorem handling {hand after : List ChannelId} (history : History configuration handled first)
    (step : Handling hand first after second) : History configuration handled second := by
  have outcomes := step.records history.outcomes
  cases step with
  | quiet _ service exchange dispatchers journal =>
      exact history.keep service journal.asked journal.alwaysReached outcomes
  | channel _ timeout => exact history.keep rfl rfl id outcomes
  | ask _ asker envelope => exact history.ask asker envelope
  | discard _ request => exact history.keep rfl rfl id outcomes
  | enqueue hqueue job => exact history.keep rfl rfl id outcomes
  | take hqueue popped => exact history.keep rfl rfl id outcomes

theorem opened_eq (history : History configuration handled first) (rest : List Envelope) :
    { first.service with inbox := rest } =
      (past configuration handled).holding rest first.service.parked first.service.running :=
  congrArg (fun service : LocalService => { service with inbox := rest }) history.service

/-- What the service decides on its next request is what it decides on it at the end
of its history. -/
theorem exchange_serve (history : History configuration handled first) {envelope : Envelope}
    {rest : List Envelope} (hinbox : first.service.inbox = envelope :: rest) :
    first.serve.exchange = ((past configuration handled).decides envelope).elim first.exchange
      fun (channel, outcome) => first.exchange.answer channel (.complete outcome) := by
  rw [serve_eq hinbox, history.opened_eq, decides_holding]

/-- A running service works its next request off. -/
theorem serve (history : History configuration handled first) {envelope : Envelope}
    {rest : List Envelope} (hinbox : first.service.inbox = envelope :: rest) :
    History configuration (handled ++ [envelope]) first.serve := by
  have running : first.service.running = true := by
    by_contra stopped
    rw [(history.stopped (Bool.eq_false_iff.mpr stopped)).2.1] at hinbox
    cases hinbox
  rcases history.running running with ⟨all, parked, always⟩
  let before := past configuration handled
  have service : first.serve.service =
      (before.workOff envelope).1.holding rest (first.service.parked ++ before.parks envelope)
        first.service.running := by
    rw [serve_eq hinbox, history.opened_eq, handle_holding, workOff_eq]
    rfl
  have journal : first.serve.journal = first.journal := by rw [serve_eq hinbox]
  have asked : first.serve.asked = first.asked := by rw [Deployment.asked, journal]; rfl
  refine ⟨?_, fun _ => ⟨?_, ?_, ?_⟩, ?_, ?_⟩
  · rw [service, past_concat]
    rfl
  · rw [asked, all, hinbox, service, List.append_assoc]
    rfl
  · rw [service, past_concat, workOff_eq]
    change first.service.parked ++ _ = before.parked ++ _
    rw [parked]
  · rw [AlwaysReached, journal]
    exact always
  · rw [service]
    intro stopped
    exact absurd (running.symm.trans stopped) (by simp)
  · rw [history.exchange_serve hinbox, decisions_concat, workOff_eq]
    cases hdecided : before.decides envelope with
    | none => exact history.outcomes.mono _
    | some decided => exact (history.outcomes.mono _).complete _ _ (.inr (by simp))

/-- A service stops. -/
theorem stop (history : History configuration handled first) :
    History configuration handled first.stop where
  service := by
    rw [← acted_stop]
    change first.service.stopped = (past configuration handled).holding [] [] false
    rw [history.service]
    rfl
  running := by
    rw [← acted_stop]
    intro running
    cases running
  stopped := by
    rw [← acted_stop]
    exact fun _ => ⟨history.handled_prefix, rfl, rfl⟩
  outcomes := by
    rw [exchange_stop]
    exact history.outcomes.abandonAll _

end History

/-- A new service has worked nothing off. -/
theorem Fresh.history {deployment : Deployment LocalService} (fresh : deployment.Fresh)
    {configuration : LocalConfiguration} (made : deployment.service = .new configuration) :
    History configuration [] deployment := by
  refine ⟨?_, fun _ => ⟨?_, ?_, ?_⟩, ?_, ?_⟩
  · rw [made]
    rfl
  · simp [asked, fresh.journal, made, new]
  · rw [made]
    rfl
  · simp [AlwaysReached, fresh.journal]
  · simp [made, new]
  · intro id channel hchannel
    simp [Exchange.channel?, fresh.channels] at hchannel

theorem Handling.running_eq {hand after : List ChannelId}
    {first second : Deployment LocalService} (step : Handling hand first after second) :
    second.service.running = first.service.running := by
  cases step with
  | quiet _ service exchange dispatchers journal => rw [service]
  | channel _ timeout => rfl
  | ask _ asker envelope =>
      rw [service_ask]
      cases hrunning : first.service.running <;> simp [Service.receive, receive, hrunning]
  | discard _ request => rfl
  | enqueue hqueue job => rfl
  | take hqueue popped => rfl

theorem Handled.running_eq {hand after : List ChannelId}
    {first second : Deployment LocalService} (chain : Handled hand first after second) :
    second.service.running = first.service.running := by
  induction chain with
  | refl => rfl
  | tail _ step inductionHypothesis => exact step.running_eq.trans inductionHypothesis

theorem Chain.running_eq {owner : Nat} {first second : Deployment LocalService}
    (chain : Chain owner first second) : second.service.running = first.service.running :=
  chain.keeps (fun _ _ step same => step.handled.running_eq.trans same) rfl

/-- Only its end stops a service. -/
theorem running_after (deployment : Deployment LocalService) {event : Event LocalService}
    (unstopped : event ≠ .act LocalAct.stop) :
    (deployment.after event).service.running = deployment.service.running := by
  cases event with
  | operation operation =>
      rcases deployment.exists_chain_perform operation with ⟨owner, chain⟩
      exact chain.running_eq
  | work dispatcher => exact (deployment.handled_work dispatcher).running_eq
  | act act =>
      cases act with
      | stop => exact absurd rfl unstopped
      | serve =>
          change (deployment.acted LocalAct.serve).service.running = _
          rw [acted_serve]
          cases hinbox : deployment.service.inbox with
          | nil => rw [serve_eq_self hinbox]
          | cons envelope rest =>
              rw [serve_eq hinbox]
              exact running_handle _ envelope
  | elapse now => rfl

/-- A service that runs was never stopped. -/
theorem running_before {deployment : Deployment LocalService} {event : Event LocalService}
    (running : (deployment.after event).service.running = true) :
    deployment.service.running = true := by
  have unstopped : event ≠ .act LocalAct.stop := by
    rintro rfl
    cases running
  rw [← deployment.running_after unstopped]
  exact running

/-- A service runs until it is stopped. -/
theorem running_follow {deployment : Deployment LocalService}
    (running : deployment.service.running = true) {events : List (Event LocalService)}
    (unstopped : .act LocalAct.stop ∉ events) :
    (deployment.follow events).service.running = true := by
  induction events using List.reverseRecOn with
  | nil => exact running
  | append_singleton events event inductionHypothesis =>
      rw [follow_concat]
      have before : .act LocalAct.stop ∉ events := fun member =>
        unstopped (List.mem_append_left [event] member)
      have other : event ≠ .act LocalAct.stop := by
        rintro rfl
        exact unstopped (by simp)
      rw [running_after _ other]
      exact inductionHypothesis before

end Deployment
end ContentCapture
