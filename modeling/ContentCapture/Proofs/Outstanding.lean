import ContentCapture.Proofs.Numbering
import ContentCapture.Proofs.Sinks
import ContentCapture.Proofs.Verdicts

namespace ContentCapture

/-!
# Outstanding starts

A start is outstanding while its session holds the channel for the answer and
nothing is found there.  Such a channel is never forgotten.  It lies in exactly one
place, and always with the request that starts the session: at the dispatcher of the
manager, at the service, or among the channels that an unresponsive service has
parked.

The places are emptied in the end.  A dispatcher that takes no jobs drops the start
at once, and a service that stops drops all that it holds, so that the session finds
out at its next look.
-/

namespace Deployment

variable {σ : Type}

/-! ## The request that carries a channel -/

/-- A job whose request carries a channel is the only one that was posted with it. -/
theorem Numbered.eq_of_posted {deployment : Deployment σ} (numbered : Numbered deployment)
    {first second : Job} (hfirst : .posted first ∈ deployment.journal)
    (hsecond : .posted second ∈ deployment.journal) {channel : ChannelId}
    (carried : first.request.channel? = some channel)
    (again : second.request.channel? = some channel) : first = second := by
  by_contra different
  have distinct := numbered.distinct
  rw [claimed, introduced, List.filterMap_filterMap] at distinct
  have apart := List.pairwise_filterMap.mp distinct
  have symmetric : Std.Symm fun first second : Entry =>
      ∀ one, first.introduced?.bind Request.channel? = some one →
        ∀ other, second.introduced?.bind Request.channel? = some other → one ≠ other :=
    ⟨fun _ _ apart one hone other hother => (apart other hother one hone).symm⟩
  have others : Entry.posted first ≠ Entry.posted second := fun same =>
    different (Entry.posted.inj same)
  exact apart.forall hfirst hsecond others channel carried channel again rfl

/-- Sessions do not post the same channel. -/
theorem Numbered.eq_of_posts {deployment : Deployment σ} (numbered : Numbered deployment)
    {owner other : Nat} {first second : Request} (hfirst : first ∈ deployment.posts owner)
    (hsecond : second ∈ deployment.posts other) {channel : ChannelId}
    (carried : first.channel? = some channel) (again : second.channel? = some channel) :
    owner = other ∧ first = second := by
  have job_of : ∀ {owner : Nat} {request : Request}, request ∈ deployment.posts owner →
      ∃ job, .posted job ∈ deployment.journal ∧ job.owner = owner ∧ job.request = request := by
    intro owner request member
    rcases List.mem_filterMap.mp member with ⟨entry, inJournal, posted⟩
    cases entry with
    | asked asker envelope result => cases posted
    | posted job =>
        by_cases own : job.owner = owner
        · exact ⟨job, inJournal, own, by simpa [Entry.posted?, own] using posted⟩
        · simp [Entry.posted?, own] at posted
  rcases job_of hfirst with ⟨job, inJournal, rfl, rfl⟩
  rcases job_of hsecond with ⟨found, hfound, rfl, rfl⟩
  have same := numbered.eq_of_posted inJournal hfound carried again
  exact ⟨congrArg Job.owner same, congrArg Job.request same⟩

section

variable {deployment : Deployment σ} (delivery : Delivery [] deployment)
  (numbered : Numbered deployment) {owner : Nat} {start : SessionStart} {channel : ChannelId}
  (posted : .startSession start channel ∈ deployment.posts owner)

include delivery numbered posted

/-- A job with the channel of a start is the job of that start. -/
theorem start_of_mem_queue {dispatcher : Nat} {job : Job}
    (member : job ∈ deployment.queue dispatcher) (carried : job.request.channel? = some channel) :
    job.owner = owner ∧ job.request = .startSession start channel := by
  rcases delivery.queued dispatcher job member with
    ⟨mode, ⟨manager, session, hmanager, -, -, -⟩, theirs⟩
  have there : manager.dispatcher = dispatcher := theirs manager hmanager
  have live : deployment.isLive manager.dispatcher = true := by
    rw [isLive, there, mode]
    rfl
  have waits : job.request ∈ deployment.waiting manager.dispatcher job.owner := by
    rw [there]
    exact List.mem_filterMap.mpr ⟨job, member, by simp [Job.request?]⟩
  have inPosts : job.request ∈ deployment.posts job.owner := by
    rw [delivery.live job.owner manager hmanager live]
    exact List.mem_append_right _ waits
  exact numbered.eq_of_posts inPosts posted carried rfl

theorem start_of_mem_asked {envelope : Envelope} (member : envelope ∈ deployment.asked)
    (carried : envelope.request.channel? = some channel) :
    envelope.request = .startSession start channel ∧
      .startSession start channel ∈ deployment.asks owner := by
  have same : envelope.request = .startSession start channel :=
    numbered.eq_of_channel? (mem_introduced_of_mem_asked delivery member)
      (mem_introduced_of_mem_posts posted) carried rfl
  refine ⟨same, ?_⟩
  rcases List.mem_filterMap.mp member with ⟨entry, inJournal, hentry⟩
  cases entry with
  | posted job => cases hentry
  | asked asker found result =>
      cases hentry
      cases asker with
      | none =>
          have unnamed : envelope.request.session? = none := delivery.attested _ inJournal
          rw [same] at unnamed
          cases unnamed
      | some who =>
          have inAsks : .startSession start channel ∈ deployment.asks who :=
            List.mem_filterMap.mpr
              ⟨_, inJournal, by simp [Entry.asked?, same, Request.session?]⟩
          have inPosts := (delivery.asks_prefix who).subset inAsks
          rw [(numbered.eq_of_posts posted inPosts rfl rfl).1]
          exact inAsks

end

theorem exists_of_mem_queued {deployment : Deployment σ} {channel : ChannelId}
    (member : channel ∈ deployment.queued) :
    ∃ dispatcher, ∃ job ∈ deployment.queue dispatcher, job.request.channel? = some channel := by
  rcases List.mem_flatMap.mp member with ⟨dispatcher, there, waits⟩
  rcases List.mem_filterMap.mp waits with ⟨job, inJobs, carried⟩
  rcases List.getElem?_of_mem there with ⟨index, hindex⟩
  exact ⟨index, job, by rwa [queue_of_getElem? hindex], carried⟩

end Deployment

/-- Whether a channel that was made is undecided shows in what is found there. -/
theorem Exchange.isUndecided_eq {exchange : Exchange} {id : ChannelId}
    (made : id < exchange.channels.length) :
    exchange.isUndecided id = (exchange.peek id).isNone := by
  have there : exchange.channel? id = some exchange.channels[id] := List.getElem?_eq_getElem made
  simp [isUndecided, peek, there, Channel.peek]

namespace LocalService

variable {configuration : LocalConfiguration} {handled : List Envelope}

theorem parked_past (responsive : configuration.unresponsive = false) :
    (past configuration handled).parked = [] := by
  induction handled using List.reverseRecOn with
  | nil => rfl
  | append_singleton handled envelope inductionHypothesis =>
      rw [past_concat, workOff_eq]
      simp [parks, configuration_past, responsive, inductionHypothesis]

theorem exists_of_mem_parked {channel : ChannelId}
    (member : channel ∈ (past configuration handled).parked) :
    ∃ envelope ∈ handled, envelope.request.channel? = some channel := by
  induction handled using List.reverseRecOn with
  | nil => cases member
  | append_singleton handled envelope inductionHypothesis =>
      rw [past_concat, workOff_eq] at member
      rcases List.mem_append.mp member with former | latter
      · rcases inductionHypothesis former with ⟨found, there, carried⟩
        exact ⟨found, List.mem_append_left _ there, carried⟩
      · refine ⟨envelope, by simp, ?_⟩
        unfold parks at latter
        split at latter
        · exact Option.mem_toList.mp latter
        · cases latter

end LocalService

/-- A session that holds a channel has posted a start with it. -/
theorem Session.Standing.exists_start {exchange : Exchange} {session : Session}
    {cycles : List Cycle} {requests : List Request}
    (standing : session.Standing exchange cycles requests) {channel : ChannelId}
    (reply : session.startReply = some channel) :
    ∃ start, start.session = session.id ∧ .startSession start channel ∈ requests := by
  cases standing with
  | resting idle unannounced deaf told => simp [deaf] at reply
  | off started unannounced deaf state told off unended => simp [deaf] at reply
  | @on _ _ _ cycle other started announced told on unended hbody silent informed =>
      cases informed with
      | told deaf found state => simp [deaf] at reply
      | waiting held state =>
          have same : other = channel := Option.some.inj (held.symm.trans reply)
          subst same
          exact ⟨cycle.start session.id, rfl, by simp⟩

theorem Session.Informed.startReply_polled {exchange : Exchange} {channel : ChannelId}
    {session : Session} (informed : session.Informed exchange channel)
    {answer : Except ReplyError Int32} (found : exchange.peek channel = some answer) :
    (session.polled exchange).startReply = none := by
  cases informed with
  | waiting reply state => rw [Session.polled_of_peek reply found, Session.informed_eq]
  | told reply found state => rwa [Session.polled_of_startReply reply]

namespace Deployment

/-! ## Where it lies -/

/-- The channel of an outstanding start lies in one place, with the request that starts
the session, or is parked by a service that does not answer. -/
structure Outstanding (configuration : LocalConfiguration) (deployment : Deployment LocalService)
    (owner : Nat) (manager : Manager) (session : Session) (channel : ChannelId) : Prop where
  once : deployment.queued.count channel +
    ((deployment.service.inbox.filterMap fun envelope => envelope.request.channel?).count channel +
      deployment.service.parked.count channel) = 1
  job : ∀ dispatcher, ∀ job ∈ deployment.queue dispatcher,
    job.request.channel? = some channel → dispatcher = manager.dispatcher ∧ job.owner = owner ∧
      ∃ start, job.request = .startSession start channel ∧ start.session = session.id
  request : ∀ envelope ∈ deployment.service.inbox, envelope.request.channel? = some channel →
    ∃ start, envelope.request = .startSession start channel ∧ start.session = session.id
  parked : channel ∈ deployment.service.parked → configuration.unresponsive = true

variable {configuration : LocalConfiguration} {handled : List Envelope}
  {deployment : Deployment LocalService}

/-- A service that answers has parked nothing. -/
theorem History.unresponsive_of_parked (history : History configuration handled deployment)
    {channel : ChannelId} (member : channel ∈ deployment.service.parked) :
    configuration.unresponsive = true := by
  by_contra responsive
  have none : (LocalService.past configuration handled).parked = [] :=
    LocalService.parked_past (Bool.eq_false_iff.mpr responsive)
  cases hrunning : deployment.service.running with
  | true => simp [(history.running hrunning).2.1, none] at member
  | false => simp [(history.stopped hrunning).2.2] at member

theorem History.mem_asked (history : History configuration handled deployment)
    {envelope : Envelope} (member : envelope ∈ deployment.service.inbox) :
    envelope ∈ deployment.asked := by
  cases hrunning : deployment.service.running with
  | true =>
      rw [(history.running hrunning).1]
      exact List.mem_append_right handled member
  | false => simp [(history.stopped hrunning).2.1] at member

theorem History.exists_of_mem_held (history : History configuration handled deployment)
    {channel : ChannelId} (member : channel ∈ deployment.service.held) :
    ∃ envelope ∈ deployment.asked, envelope.request.channel? = some channel := by
  rcases List.mem_append.mp member with waits | parked
  · rcases List.mem_filterMap.mp waits with ⟨envelope, there, carried⟩
    exact ⟨envelope, history.mem_asked there, carried⟩
  · cases hrunning : deployment.service.running with
    | true =>
        rw [(history.running hrunning).2.1] at parked
        rcases LocalService.exists_of_mem_parked parked with ⟨envelope, there, carried⟩
        exact ⟨envelope, history.handled_prefix.subset there, carried⟩
    | false => simp [(history.stopped hrunning).2.2] at parked

section

variable (ledger : Ledger configuration handled [] deployment) (delivery : Delivery [] deployment)
  (numbered : Numbered deployment) {owner : Nat} {manager : Manager} {start : SessionStart}
  {channel : ChannelId} (hmanager : deployment.managers[owner]? = some manager)
  (posted : .startSession start channel ∈ deployment.posts owner)

include numbered posted delivery

theorem dispatcher_of_mem_queue (hmanager : deployment.managers[owner]? = some manager)
    {dispatcher : Nat} {job : Job} (member : job ∈ deployment.queue dispatcher)
    (carried : job.request.channel? = some channel) : dispatcher = manager.dispatcher := by
  have theirs := (start_of_mem_queue delivery numbered posted member carried).1
  subst theirs
  exact ((delivery.queued dispatcher job member).2.2 manager hmanager).symm

include ledger hmanager

theorem outstanding_of_undecided {session : Session} (own : start.session = session.id)
    (undecided : deployment.exchange.isUndecided channel = true) :
    deployment.Outstanding configuration owner manager session channel where
  once := by
    have balance := ledger.balanced channel
    rw [List.count_nil, Nat.zero_add, undecided, LocalService.held, List.count_append] at balance
    exact balance
  job := by
    intro dispatcher job member carried
    have same := start_of_mem_queue delivery numbered posted member carried
    exact ⟨dispatcher_of_mem_queue delivery numbered posted hmanager member carried, same.1, start,
      same.2, own⟩
  request := by
    intro envelope member carried
    have asked := ledger.history.mem_asked member
    exact ⟨start, (start_of_mem_asked delivery numbered posted asked carried).1, own⟩
  parked := ledger.history.unresponsive_of_parked

/-- When nothing is left with the dispatcher of a manager or with the service, no start
is outstanding. -/
theorem exists_answer_of_empty (empty : deployment.queue manager.dispatcher = [])
    (unheld : channel ∉ deployment.service.held) :
    ∃ answer, deployment.exchange.peek channel = some answer := by
  have unqueued : channel ∉ deployment.queued := by
    intro member
    rcases exists_of_mem_queued member with ⟨dispatcher, job, there, carried⟩
    rw [dispatcher_of_mem_queue delivery numbered posted hmanager there carried, empty] at there
    cases there
  have balance := ledger.balanced channel
  rw [List.count_nil, List.count_eq_zero.mpr unqueued, List.count_eq_zero.mpr unheld,
    Exchange.isUndecided_eq (numbered.channel_lt_of_posts posted)] at balance
  cases hpeek : deployment.exchange.peek channel with
  | none => simp [hpeek] at balance
  | some answer => exact ⟨answer, rfl⟩

/-- A start that no dispatcher takes is dropped. -/
theorem abandoned_of_dead (dead : deployment.isLive manager.dispatcher = false) :
    deployment.exchange.peek channel = some (Outcome.abandoned.resolve.map Reply.code) := by
  have unasked : ∀ envelope ∈ deployment.asked, envelope.request.channel? ≠ some channel := by
    intro envelope member carried
    have asked := (start_of_mem_asked delivery numbered posted member carried).2
    rw [(delivery.dead owner manager hmanager dead).1] at asked
    cases asked
  have empty : deployment.queue manager.dispatcher = [] := by
    rw [List.eq_nil_iff_forall_not_mem]
    intro job member
    rw [isLive, (delivery.queued manager.dispatcher job member).1] at dead
    cases dead
  have unheld : channel ∉ deployment.service.held := by
    intro member
    rcases ledger.history.exists_of_mem_held member with ⟨envelope, asked, carried⟩
    exact unasked envelope asked carried
  rcases exists_answer_of_empty ledger delivery numbered hmanager posted empty unheld with
    ⟨answer, found⟩
  rcases Exchange.peek_eq_some_iff.mp found with ⟨decided, outcome, there, houtcome, rfl⟩
  rcases (ledger.history.outcomes channel decided there).2 outcome houtcome with rfl | member
  · exact found
  · rcases LocalService.exists_of_mem_decisions member with ⟨earlier, envelope, before, carried, -⟩
    have asked := (before.trans ledger.history.handled_prefix).subset (by simp : envelope ∈ _)
    exact absurd carried (unasked envelope asked)

end

/-! ## No session waits in vain -/

/-- The next look at a session finds that no usable answer to its start came. -/
def IsUnanswered (deployment : Deployment LocalService) (owner : Nat) : Prop :=
  ∃ seen, (deployment.observeSession owner).1 = some seen ∧ seen.startReply = none ∧
    seen.state = Session.unanswered ∧ seen.disabled = true

theorem isUnanswered_of_session? {owner : Nat} {session : Session}
    (hsession : deployment.session? owner = some session)
    (deaf : (session.polled deployment.exchange).startReply = none)
    (state : (session.polled deployment.exchange).state = Session.unanswered)
    (disabled : (session.polled deployment.exchange).disabled = true) :
    deployment.IsUnanswered owner := by
  refine ⟨session.polled deployment.exchange, ?_, deaf, state, disabled⟩
  rw [observeSession, session?_poll, hsession]
  rfl

/-- A session whose start was dropped finds out when it looks. -/
theorem isUnanswered_of_abandoned {owner : Nat} {session : Session}
    (hsession : deployment.session? owner = some session) {channel : ChannelId}
    (reply : session.startReply = some channel)
    (abandoned : (deployment.exchange.channel? channel).bind Channel.outcome = some .abandoned) :
    deployment.IsUnanswered owner := by
  rcases Option.bind_eq_some_iff.mp abandoned with ⟨decided, there, houtcome⟩
  have found : deployment.exchange.peek channel =
      some (Outcome.abandoned.resolve.map Reply.code) :=
    Exchange.peek_eq_some_iff.mpr ⟨decided, .abandoned, there, houtcome, rfl⟩
  have looked := Session.polled_of_peek reply found
  apply isUnanswered_of_session? hsession <;> rw [looked] <;> rfl

/-- Whatever happens to a new service, no session waits for an answer that cannot come.
While the answer to a start is outstanding, its channel lies in exactly one place.  It is
there once the service has stopped and the dispatcher of the manager holds no more jobs.
A session whose start was dropped finds that out when it looks, and is disabled.  If the
dispatcher takes no jobs, that is so from the start of an announced cycle on. -/
theorem outstanding_of_follow {deployment : Deployment LocalService} (fresh : deployment.Fresh)
    {configuration : LocalConfiguration} (made : deployment.service = .new configuration)
    (events : List (Event LocalService)) {owner : Nat} {manager : Manager} {session : Session}
    (hmanager : (deployment.follow events).managers[owner]? = some manager)
    (hsession : manager.session = some session) :
    (∀ channel, session.startReply = some channel →
      ((deployment.follow events).exchange.peek channel = none →
        (deployment.follow events).Outstanding configuration owner manager session channel) ∧
      ((deployment.follow events).service.running = false →
        (deployment.follow events).queue manager.dispatcher = [] →
          ∃ answer, (deployment.follow events).exchange.peek channel = some answer) ∧
      (((deployment.follow events).exchange.channel? channel).bind Channel.outcome =
          some .abandoned → (deployment.follow events).IsUnanswered owner)) ∧
    ∀ cycle, (deployment.cycles owner events).getLast? = some cycle →
      cycle.isAnnounced = true → cycle.isOver = false →
        (deployment.follow events).isLive manager.dispatcher = false →
          (deployment.follow events).IsUnanswered owner := by
  rcases exists_ledger fresh made events with ⟨handled, ledger⟩
  have delivery := delivery_follow fresh events
  have numbered := numbered_follow fresh events
  have there : (deployment.follow events).session? owner = some session :=
    (session?_of_manager hmanager).trans hsession
  have account := (accounted_follow fresh events owner).present session there
  constructor
  · intro channel reply
    rcases account.standing.exists_start reply with ⟨start, own, posted⟩
    refine ⟨fun silent => ?_, fun stopped empty => ?_, isUnanswered_of_abandoned there reply⟩
    · apply outstanding_of_undecided ledger delivery numbered hmanager posted own
      rw [Exchange.isUndecided_eq (numbered.channel_lt_of_posts posted), silent]
      rfl
    · apply exists_answer_of_empty ledger delivery numbered hmanager posted empty
      rcases ledger.history.stopped stopped with ⟨-, inbox, parked⟩
      simp [LocalService.held, inbox, parked]
  · intro cycle last announced lasting dead
    rcases account.standing.exists_informed last announced lasting with
      ⟨channel, latest, informed⟩
    rcases List.mem_filterMap.mp (List.mem_of_getLast? latest) with ⟨request, posted, carried⟩
    rcases Request.exists_of_startChannel? carried with ⟨start, rfl⟩
    have found := abandoned_of_dead ledger delivery numbered hmanager posted dead
    have state : (session.polled (deployment.follow events).exchange).state =
        Session.unanswered := by
      rw [informed.state_polled, found]
      rfl
    apply isUnanswered_of_session? there (informed.startReply_polled found) state
    rw [informed.law_polled account.law, state, Session.isDisabled_unanswered]
    rfl

/-- A session that is started at a service that parks the channel. -/
def neglectedStart : List (Event LocalService) :=
  [.operation (.ensureSession 0), .operation (.startSession 0 ⟨"a"⟩ ⟨"p", "A"⟩ .empty),
    .work 0, .work 0, .act .serve]

/-- The same when the service has stopped. -/
def neglectedEnd : List (Event LocalService) :=
  neglectedStart ++ [.act .stop]

theorem outstanding_of_follow_neglectedStart :
    let configuration : LocalConfiguration := { unresponsive := true }
    let waiting := (solitary (.new configuration)).follow neglectedStart
    let stopped := (solitary (.new configuration)).follow neglectedEnd
    (∃ manager session, waiting.Outstanding configuration 0 manager session 0 ∧
      waiting.service.parked = [0]) ∧ stopped.IsUnanswered 0 := by
  intro configuration waiting stopped
  have fresh : (solitary (LocalService.new configuration)).Fresh := fresh_solitary _
  have session_of : ∀ deployment : Deployment LocalService,
      (deployment.session? 0).bind Session.startReply = some 0 →
        ∃ manager session, deployment.managers[0]? = some manager ∧
          manager.session = some session ∧ session.startReply = some 0 := by
    intro deployment held
    rcases Option.bind_eq_some_iff.mp held with ⟨session, there, reply⟩
    rcases manager_of_session? there with ⟨manager, hmanager, hsession⟩
    exact ⟨manager, session, hmanager, hsession, reply⟩
  constructor
  · rcases session_of waiting (by decide +kernel) with
      ⟨manager, session, hmanager, hsession, reply⟩
    have outstanding :=
      (outstanding_of_follow fresh rfl neglectedStart hmanager hsession).1 0 reply
    have silent : (waiting.exchange.peek 0).isNone = true := by decide +kernel
    have parked : waiting.service.parked = [0] := by decide +kernel
    exact ⟨manager, session, outstanding.1 (Option.isNone_iff_eq_none.mp silent), parked⟩
  · rcases session_of stopped (by decide +kernel) with
      ⟨manager, session, hmanager, hsession, reply⟩
    have outstanding :=
      (outstanding_of_follow fresh rfl neglectedEnd hmanager hsession).1 0 reply
    have dropped : ((stopped.exchange.channel? 0).bind Channel.outcome).any
        (fun | .abandoned => true | _ => false) = true := by decide +kernel
    apply outstanding.2.2
    cases found : (stopped.exchange.channel? 0).bind Channel.outcome with
    | none => simp [found] at dropped
    | some outcome =>
        cases outcome with
        | abandoned => rfl
        | reply answer => simp [found] at dropped
        | failed message => simp [found] at dropped

end Deployment
end ContentCapture
