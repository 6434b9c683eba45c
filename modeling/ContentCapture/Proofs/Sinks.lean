import ContentCapture.Proofs.History

namespace ContentCapture

/-!
# Every undecided channel lies in one place

A channel whose outcome is not decided is in hand, waits with a job, waits with a
request in the inbox of the service, or is parked there, and only one of these.  A
channel whose outcome is decided is nowhere any more.  Both are said by one
equation, which counts the places.

It follows that a service that works off a request finds its channel undecided, so
that the answer to be found there is the one that the service decides.
-/

namespace Exchange

/-- Whether a channel was made and its outcome is not decided. -/
def isUndecided (exchange : Exchange) (id : ChannelId) : Bool :=
  (exchange.channel? id).any fun channel => channel.outcome.isNone

variable {exchange : Exchange}

theorem isUndecided_newChannel (exchange : Exchange) (timeout : Span) (id : ChannelId) :
    (exchange.newChannel timeout).2.isUndecided id =
      (decide (id = (exchange.newChannel timeout).1) || exchange.isUndecided id) := by
  rcases Nat.lt_trichotomy id exchange.channels.length with former | made | beyond
  · have different : id ≠ exchange.channels.length := Nat.ne_of_lt former
    simp [isUndecided, channel?, newChannel, List.getElem?_append_left former, different]
  · simp [isUndecided, channel?, newChannel, made]
  · have different : id ≠ exchange.channels.length := Nat.ne_of_gt beyond
    have outside : exchange.channels.length ≤ id := Nat.le_of_lt beyond
    have far : id - exchange.channels.length ≠ 0 := Nat.sub_ne_zero_of_lt beyond
    simp [isUndecided, channel?, newChannel, List.getElem?_append_right outside, different,
      List.getElem?_eq_none outside, far]

theorem isUndecided_complete (exchange : Exchange) (id other : ChannelId) (outcome : Outcome) :
    (exchange.answer id (.complete outcome)).isUndecided other =
      (exchange.isUndecided other && decide (id ≠ other)) := by
  rw [isUndecided, channel?_answer, isUndecided]
  cases hchannel : exchange.channel? other with
  | none => rfl
  | some channel =>
      by_cases same : id = other
      · cases houtcome : channel.outcome <;>
          simp [same, Channel.answered, Channel.complete, houtcome]
      · simp [same]

theorem isUndecided_abandonAll (exchange : Exchange) (ids : List ChannelId) (other : ChannelId) :
    (exchange.answerAll (ids.map fun id => (id, .complete .abandoned))).isUndecided other =
      (exchange.isUndecided other && decide (other ∉ ids)) := by
  induction ids generalizing exchange with
  | nil => simp [answerAll]
  | cons id rest inductionHypothesis =>
      have step := inductionHypothesis (exchange.answer id (.complete .abandoned))
      rw [isUndecided_complete] at step
      apply step.trans
      rw [Bool.and_assoc]
      congr 1
      by_cases same : id = other
      · simp [same]
      · simp [same, Ne.symm same]

/-- The time decides nothing when nothing is underway. -/
theorem Records.isUndecided_reached {decisions : List (ChannelId × Outcome)}
    (records : exchange.Records decisions) (now : Span) (id : ChannelId) :
    (exchange.reached now).isUndecided id = exchange.isUndecided id := by
  rw [isUndecided, channel?_reached, isUndecided]
  cases hchannel : exchange.channel? id with
  | none => rfl
  | some channel => simp [Channel.reached, (records id channel hchannel).1]

/-- The first outcome of a channel is the one that is found there. -/
theorem peek_complete {id : ChannelId} (undecided : exchange.isUndecided id = true)
    (outcome : Outcome) :
    (exchange.answer id (.complete outcome)).peek id =
      some (outcome.resolve.map Reply.code) := by
  rw [isUndecided, Option.any_eq_true_iff_get] at undecided
  rcases undecided with ⟨made, undecided⟩
  rcases Option.isSome_iff_exists.mp made with ⟨channel, hchannel⟩
  have none : channel.outcome = none := by simpa [hchannel] using undecided
  simp [peek, channel?_answer, hchannel, Channel.peek, Channel.answered, Channel.complete, none]

end Exchange

def Job.channels (jobs : List Job) : List ChannelId :=
  jobs.filterMap fun job => job.request.channel?

theorem Job.channels_concat (jobs : List Job) (job : Job) :
    channels (jobs ++ [job]) = channels jobs ++ job.request.channel?.toList := by
  cases hchannel : job.request.channel? <;> simp [channels, hchannel]

theorem Job.channels_cons (job : Job) (jobs : List Job) :
    channels (job :: jobs) = job.request.channel?.toList ++ channels jobs := by
  cases hchannel : job.request.channel? <;> simp [channels, hchannel]

namespace Deployment

section

variable {σ : Type}

/-- The channels that wait with a job, at whichever dispatcher. -/
def queued (deployment : Deployment σ) : List ChannelId :=
  deployment.dispatchers.flatMap fun dispatcher => Job.channels dispatcher.jobs

/-- If one dispatcher changes, the channels that wait change by its own. -/
theorem count_queued_withDispatcher {deployment : Deployment σ} {dispatcher : Nat}
    {former : Dispatcher Job} (h : deployment.dispatchers[dispatcher]? = some former)
    (changed : Dispatcher Job) (id : ChannelId) :
    (deployment.withDispatcher dispatcher changed).queued.count id +
        (Job.channels former.jobs).count id =
      deployment.queued.count id + (Job.channels changed.jobs).count id := by
  rcases List.getElem?_eq_some_iff.mp h with ⟨bound, hformer⟩
  have split := (List.take_append_drop dispatcher deployment.dispatchers).symm
  rw [List.drop_eq_getElem_cons bound, hformer] at split
  have replaced : deployment.dispatchers.set dispatcher changed =
      deployment.dispatchers.take dispatcher ++
        changed :: deployment.dispatchers.drop (dispatcher + 1) := by
    rw [List.set_eq_take_append_cons_drop, if_pos bound]
  have before : deployment.queued.count id =
      ((deployment.dispatchers.take dispatcher).flatMap fun other =>
          Job.channels other.jobs).count id +
        ((Job.channels former.jobs).count id +
          ((deployment.dispatchers.drop (dispatcher + 1)).flatMap fun other =>
            Job.channels other.jobs).count id) := by
    rw [queued]
    conv_lhs => rw [split]
    rw [List.flatMap_append, List.flatMap_cons, List.count_append, List.count_append]
  have after : (deployment.withDispatcher dispatcher changed).queued.count id =
      ((deployment.dispatchers.take dispatcher).flatMap fun other =>
          Job.channels other.jobs).count id +
        ((Job.channels changed.jobs).count id +
          ((deployment.dispatchers.drop (dispatcher + 1)).flatMap fun other =>
            Job.channels other.jobs).count id) := by
    rw [queued, withDispatcher, replaced, List.flatMap_append, List.flatMap_cons,
      List.count_append, List.count_append]
  omega

/-- Steps that do not post to a dispatcher leave its channels alone. -/
theorem queued_of_dispatchers {first second : Deployment σ}
    (same : second.dispatchers = first.dispatchers) : second.queued = first.queued := by
  rw [queued, queued, same]

end

/-! ## The equation -/

/-- A channel lies in one place while it is undecided, and afterwards in none. -/
def Balanced (hand : List ChannelId) (deployment : Deployment LocalService) : Prop :=
  ∀ id, hand.count id + (deployment.queued.count id + deployment.service.held.count id) =
    (deployment.exchange.isUndecided id).toNat

/-- Channels that lay in one place and are decided lie in none. -/
theorem count_released {ids : List ChannelId} {id : ChannelId} {left : Nat} {undecided : Bool}
    (h : ids.count id + left = undecided.toNat) :
    left = (undecided && decide (id ∉ ids)).toNat := by
  have most := Bool.toNat_le undecided
  by_cases member : id ∈ ids
  · have some := List.count_pos_iff.mpr member
    have none : left = 0 := by omega
    simp [member, none]
  · rw [List.count_eq_zero.mpr member, Nat.zero_add] at h
    simp [member, h]

theorem count_held_received (service : LocalService) (envelope : Envelope) (id : ChannelId) :
    (LocalService.held { service with inbox := service.inbox ++ [envelope] }).count id =
      envelope.request.channel?.toList.count id + service.held.count id := by
  have last : [envelope].filterMap (fun envelope => envelope.request.channel?) =
      envelope.request.channel?.toList := by
    cases hchannel : envelope.request.channel? <;> simp [hchannel]
  simp only [LocalService.held, List.filterMap_append, List.count_append, last]
  omega

namespace Balanced

variable {hand after : List ChannelId} {first second : Deployment LocalService}

/-- The channels in hand are dropped. -/
theorem release (balanced : Balanced hand first)
    (service : second.service.held = first.service.held)
    (dispatchers : second.dispatchers = first.dispatchers)
    (exchange : second.exchange =
      first.exchange.answerAll (hand.map fun id => (id, .complete .abandoned))) :
    Balanced [] second := by
  intro id
  rw [service, queued_of_dispatchers dispatchers, exchange, Exchange.isUndecided_abandonAll,
    List.count_nil, Nat.zero_add]
  exact count_released (balanced id)

theorem ask (asker : Option Nat) (envelope : Envelope)
    (balanced : Balanced envelope.request.channel?.toList first) :
    Balanced [] (first.ask asker envelope).2 := by
  cases hrunning : first.service.running with
  | false =>
      refine balanced.release ?_ rfl ?_
      · rw [service_ask]
        simp [Service.receive, LocalService.receive, hrunning]
      · rw [exchange_ask]
        simp [Service.receive, LocalService.receive, hrunning, Request.answered]
  | true =>
      have taken : Service.receive first.service envelope =
          { service := { first.service with inbox := first.service.inbox ++ [envelope] } } := by
        simp [Service.receive, LocalService.receive, hrunning]
      intro id
      have same : (first.ask asker envelope).2.queued = first.queued := rfl
      rw [service_ask, exchange_ask, taken, same, count_held_received]
      have before := balanced id
      rw [List.count_nil, Nat.zero_add]
      change _ = (first.exchange.isUndecided id).toNat
      omega

theorem handling (step : Handling hand first after second) (balanced : Balanced hand first) :
    Balanced after second := by
  cases step with
  | quiet _ service exchange dispatchers journal =>
      intro id
      rw [service, exchange, queued_of_dispatchers dispatchers]
      exact balanced id
  | channel _ timeout =>
      intro id
      have before := balanced id
      have place : (first.newChannel timeout).2.exchange.isUndecided id =
          (decide (id = (first.newChannel timeout).1) || first.exchange.isUndecided id) :=
        first.exchange.isUndecided_newChannel timeout id
      change _ + (first.queued.count id + first.service.held.count id) = _
      rw [place]
      by_cases made : id = (first.newChannel timeout).1
      · have absent : first.exchange.isUndecided id = false := by
          have bound : first.exchange.channels.length ≤ id := Nat.le_of_eq made.symm
          simp [Exchange.isUndecided, Exchange.channel?, List.getElem?_eq_none bound]
        rw [absent, List.count_nil] at before
        rw [Nat.zero_add] at before
        rw [← made, List.count_singleton_self, decide_eq_true rfl, before]
        rfl
      · rw [List.count_nil] at before
        rw [decide_eq_false made, Bool.false_or, ← before,
          List.count_eq_zero.mpr fun member => made (List.mem_singleton.mp member)]
  | ask _ asker envelope => exact balanced.ask asker envelope
  | discard _ request => exact balanced.release rfl rfl rfl
  | @enqueue _ dispatcher queue hqueue job =>
      intro id
      have before := balanced id
      have changed := count_queued_withDispatcher hqueue (queue.push job) id
      have pushed : (Job.channels (queue.push job).jobs).count id =
          (Job.channels queue.jobs).count id + job.request.channel?.toList.count id := by
        rw [Dispatcher.push, Job.channels_concat, List.count_append]
      have held : (first.withDispatcher dispatcher (queue.push job)).service = first.service := rfl
      have exchange : (first.withDispatcher dispatcher (queue.push job)).exchange =
          first.exchange := rfl
      rw [held, exchange, List.count_nil]
      omega
  | @take _ dispatcher queue rest job hqueue popped =>
      intro id
      have before := balanced id
      have changed := count_queued_withDispatcher hqueue rest id
      have taken : (Job.channels queue.jobs).count id =
          job.request.channel?.toList.count id + (Job.channels rest.jobs).count id := by
        unfold Dispatcher.pop? at popped
        split at popped
        · cases popped
        · next jobs hjobs =>
            cases popped
            rw [hjobs, Job.channels_cons, List.count_append]
      have held : (first.withDispatcher dispatcher rest).service = first.service := rfl
      have exchange : (first.withDispatcher dispatcher rest).exchange = first.exchange := rfl
      rw [held, exchange]
      rw [List.count_nil] at before
      omega

/-- The channel of the next request is parked or decided. -/
theorem serve (balanced : Balanced [] first) : Balanced [] first.serve := by
  cases hinbox : first.service.inbox with
  | nil =>
      rw [serve_eq_self hinbox]
      exact balanced
  | cons envelope rest =>
      let opened : LocalService := { first.service with inbox := rest }
      have before : ∀ id, envelope.request.channel?.toList.count id +
          (first.queued.count id +
            ((rest.filterMap fun envelope => envelope.request.channel?).count id +
              first.service.parked.count id)) = (first.exchange.isUndecided id).toNat := by
        intro id
        have head : (first.service.inbox.filterMap fun envelope => envelope.request.channel?) =
            envelope.request.channel?.toList ++
              rest.filterMap fun envelope => envelope.request.channel? := by
          rw [hinbox, List.filterMap_cons]
          cases envelope.request.channel? <;> rfl
        have place := balanced id
        rw [LocalService.held, head, List.count_append, List.count_append, List.count_nil] at place
        omega
      intro id
      have place := before id
      have queued : first.serve.queued = first.queued := by rw [serve_eq hinbox]; rfl
      have held : first.serve.service.held.count id =
          (rest.filterMap fun envelope => envelope.request.channel?).count id +
            (first.service.parked.count id + (opened.parks envelope).count id) := by
        rw [serve_eq hinbox, LocalService.held, LocalService.inbox_handle, List.count_append,
          List.count_append]
      rw [queued, held]
      rcases opened.parks_or_decides envelope with
        ⟨decides, parks⟩ | ⟨channel, outcome, decides, parks, carried, -⟩
      · have exchange : first.serve.exchange = first.exchange := by
          rw [serve_eq hinbox]
          exact congrArg (Option.elim · first.exchange _) decides
        rw [exchange, parks, List.count_nil]
        omega
      · have exchange : first.serve.exchange =
            first.exchange.answer channel (.complete outcome) := by
          rw [serve_eq hinbox]
          exact congrArg (Option.elim · first.exchange _) decides
        rw [exchange, parks, Exchange.isUndecided_complete, List.count_nil]
        rw [carried] at place
        have released := count_released place
        simpa [eq_comm] using released

/-- A service that stops drops all that it holds. -/
theorem stop (balanced : Balanced [] first) : Balanced [] first.stop := by
  intro id
  have place := balanced id
  rw [List.count_nil] at place
  have released : first.service.held.count id + first.queued.count id =
      (first.exchange.isUndecided id).toNat := by omega
  have empty : first.stop.service.held = [] := by
    rw [← acted_stop]
    rfl
  have queued : first.stop.queued = first.queued := by
    rw [← acted_stop]
    rfl
  rw [exchange_stop, empty, queued, Exchange.isUndecided_abandonAll]
  simpa using count_released released

end Balanced

/-! ## Decisions are found -/

/-- A deployment whose service has a history, whose channels are accounted for, and
where every decision of the service is found in its channel. -/
structure Ledger (configuration : LocalConfiguration) (handled : List Envelope)
    (hand : List ChannelId) (deployment : Deployment LocalService) : Prop where
  history : History configuration handled deployment
  balanced : Balanced hand deployment
  answered : ∀ channel outcome,
    (channel, outcome) ∈ LocalService.decisions configuration handled →
      deployment.exchange.peek channel = some (outcome.resolve.map Reply.code)

namespace Ledger

variable {configuration : LocalConfiguration} {handled : List Envelope}
  {hand after : List ChannelId} {first second : Deployment LocalService}

theorem handling (step : Handling hand first after second)
    (ledger : Ledger configuration handled hand first) :
    Ledger configuration handled after second where
  history := ledger.history.handling step
  balanced := ledger.balanced.handling step
  answered := fun channel outcome decided =>
    step.precedes channel _ (ledger.answered channel outcome decided)

theorem elapse (ledger : Ledger configuration handled [] first) (now : Span) :
    Ledger configuration handled [] { first with exchange := first.exchange.reached now } where
  history := ledger.history.keep rfl rfl id (ledger.history.outcomes.reached now)
  balanced := fun id =>
    (ledger.balanced id).trans
      (congrArg Bool.toNat (ledger.history.outcomes.isUndecided_reached now id).symm)
  answered := fun channel outcome decided =>
    first.exchange.precedes_reached now channel _ (ledger.answered channel outcome decided)

theorem stop (ledger : Ledger configuration handled [] first) :
    Ledger configuration handled [] first.stop where
  history := ledger.history.stop
  balanced := ledger.balanced.stop
  answered := by
    intro channel outcome decided
    rw [exchange_stop]
    exact Exchange.precedes_answerAll _ _ channel _ (ledger.answered channel outcome decided)

/-- The channel of a request is undecided while the request waits. -/
theorem undecided (ledger : Ledger configuration handled [] first) {envelope : Envelope}
    (member : envelope ∈ first.service.inbox) {channel : ChannelId}
    (carried : envelope.request.channel? = some channel) :
    first.exchange.isUndecided channel = true := by
  have place : channel ∈ first.service.held :=
    List.mem_append_left _ (List.mem_filterMap.mpr ⟨envelope, member, carried⟩)
  have counted := List.count_pos_iff.mpr place
  have balance := ledger.balanced channel
  by_contra decided
  rw [Bool.eq_false_iff.mpr decided, Bool.toNat_false] at balance
  omega

theorem serve (ledger : Ledger configuration handled [] first) {envelope : Envelope}
    {rest : List Envelope} (hinbox : first.service.inbox = envelope :: rest) :
    Ledger configuration (handled ++ [envelope]) [] first.serve := by
  refine ⟨ledger.history.serve hinbox, ledger.balanced.serve, ?_⟩
  intro channel outcome decided
  rw [LocalService.decisions_concat, LocalService.workOff_eq, List.mem_append] at decided
  rw [ledger.history.exchange_serve hinbox]
  rcases (LocalService.past configuration handled).parks_or_decides envelope with
    ⟨decides, -⟩ | ⟨other, found, decides, -, carried, -⟩
  · rw [decides] at decided ⊢
    rcases decided with former | nothing
    · exact ledger.answered channel outcome former
    · cases nothing
  · rw [decides] at decided ⊢
    rcases decided with former | latter
    · exact Exchange.precedes_answer _ _ _ channel _ (ledger.answered channel outcome former)
    · have same := List.mem_singleton.mp latter
      cases same
      have member : envelope ∈ first.service.inbox := by simp [hinbox]
      exact Exchange.peek_complete (ledger.undecided member carried) outcome

theorem acted (ledger : Ledger configuration handled [] first) (act : LocalAct) :
    ∃ handled, Ledger configuration handled [] (first.acted act) := by
  cases act with
  | serve =>
      rw [acted_serve]
      cases hinbox : first.service.inbox with
      | nil =>
          rw [serve_eq_self hinbox]
          exact ⟨handled, ledger⟩
      | cons envelope rest => exact ⟨_, ledger.serve hinbox⟩
  | stop =>
      rw [acted_stop]
      exact ⟨handled, ledger.stop⟩

end Ledger

theorem exists_ledger_after {configuration : LocalConfiguration}
    {deployment : Deployment LocalService}
    (ledger : ∃ handled, Ledger configuration handled [] deployment) (event : Event LocalService) :
    ∃ handled, Ledger configuration handled [] (deployment.after event) := by
  have step : ∀ {hand after : List ChannelId} {first second : Deployment LocalService},
      Handling hand first after second → (∃ handled, Ledger configuration handled hand first) →
        ∃ handled, Ledger configuration handled after second := by
    intro hand after first second step before
    rcases before with ⟨handled, ledger⟩
    exact ⟨handled, ledger.handling step⟩
  have acted : ∀ (deployment : Deployment LocalService) (act : LocalAct),
      (∃ handled, Ledger configuration handled [] deployment) →
        ∃ handled, Ledger configuration handled [] (deployment.acted act) := by
    intro deployment act before
    rcases before with ⟨handled, ledger⟩
    exact ledger.acted act
  have elapse : ∀ (deployment : Deployment LocalService) (now : Span),
      (∃ handled, Ledger configuration handled [] deployment) →
        ∃ handled, Ledger configuration handled []
          { deployment with exchange := deployment.exchange.reached now } := by
    intro deployment now before
    rcases before with ⟨handled, ledger⟩
    exact ⟨handled, ledger.elapse now⟩
  exact after_keeps_handling step acted elapse event ledger

theorem Fresh.ledger {deployment : Deployment LocalService} (fresh : deployment.Fresh)
    {configuration : LocalConfiguration} (made : deployment.service = .new configuration) :
    Ledger configuration [] [] deployment where
  history := fresh.history made
  balanced := by
    intro id
    have queued : deployment.queued = [] := by
      refine List.flatMap_eq_nil_iff.mpr fun dispatcher member => ?_
      rw [fresh.jobs dispatcher member]
      rfl
    rw [queued, made]
    simp [LocalService.held, LocalService.new, Exchange.isUndecided, Exchange.channel?,
      fresh.channels]
  answered := by simp

/-- After every run of a new service the books are in order. -/
theorem exists_ledger {deployment : Deployment LocalService} (fresh : deployment.Fresh)
    {configuration : LocalConfiguration} (made : deployment.service = .new configuration)
    (events : List (Event LocalService)) :
    ∃ handled, Ledger configuration handled [] (deployment.follow events) := by
  have after : ∀ (between : Deployment LocalService) (event : Event LocalService),
      (∃ handled, Ledger configuration handled [] between) →
        ∃ handled, Ledger configuration handled [] (between.after event) :=
    fun _ event before => exists_ledger_after before event
  exact follow_keeps after ⟨[], fresh.ledger made⟩ events

end Deployment
end ContentCapture
