import ContentCapture.Proofs.Agreement
import ContentCapture.Proofs.Outspoken

namespace ContentCapture

/-!
# Every event reaches the service once

A session sends the event of its start with every cycle that is announced, and the
event of its end with every such cycle at the end of which it is not disabled.  When
nothing waits any more, a service that was never stopped has recorded these and
nothing else, each in a batch of its own and in order.

That the event of the start is always sent needs a service that takes requests: a
session of which the start fails at once is disabled before it speaks.
-/

def Request.batch? : Request → Option EventBatch
  | .sendEvents session events reason => some ⟨session, reason, events⟩
  | _ => none

def EventBatch.timeless (batch : EventBatch) : EventBatch :=
  { batch with events := batch.events.map CaptureEvent.timeless }

/-- What the service records of a cycle that is announced, times aside. -/
def Cycle.batches (session : SessionId) (cycle : Cycle) : List EventBatch :=
  ⟨session, .sessionStarted, [⟨session, 0, .started cycle.token cycle.component⟩]⟩ ::
    if cycle.ending = some false then [⟨session, .sessionFinished, [⟨session, 0, .finished⟩]⟩]
    else []

namespace Deployment

/-- The service and the dispatcher of a manager take what they are given. -/
structure Heedful (deployment : Deployment LocalService) (owner : Nat) : Prop where
  running : deployment.service.running = true
  live : ∀ manager, deployment.managers[owner]? = some manager →
    deployment.isLive manager.dispatcher = true

theorem Heedful.before {first second : Deployment LocalService} {owner : Nat}
    (heedful : second.Heedful owner) (precedes : first.Precedes second)
    (running : first.service.running = true) : first.Heedful owner where
  running := running
  live manager hmanager := by
    rcases precedes.extension owner manager hmanager with ⟨later, hlater, -, same, -⟩
    rw [← precedes.isLive, ← same]
    exact heedful.live later hlater

theorem Heedful.postRequest {deployment : Deployment LocalService} {owner : Nat}
    (heedful : deployment.Heedful owner) (request : Request) :
    (deployment.postRequest owner request).exchange = deployment.exchange ∧
      (deployment.postRequest owner request).managers = deployment.managers := by
  unfold Deployment.postRequest
  cases hmanager : deployment.managers[owner]? with
  | none => exact ⟨rfl, rfl⟩
  | some manager =>
      have live := heedful.live manager hmanager
      cases hqueue : deployment.dispatchers[manager.dispatcher]? with
      | none => simp [isLive, mode?, hqueue] at live
      | some queue =>
          rw [isLive, mode?_of_getElem? hqueue] at live
          simp only [post, noted, hqueue]
          cases mode : queue.mode with
          | immediate =>
              simp [run, ask, Service.receive, LocalService.receive, heedful.running, answerAll,
                Exchange.answerAll, noted]
          | queued => exact ⟨rfl, rfl⟩
          | stopped => simp [mode, Dispatcher.Mode.isLive] at live

/-! ## What is said in a turn -/

/-- At the end of a cycle a session says the rest of what the cycle amounts to. -/
theorem map_bare_parting {exchange : Exchange} {severed : Bool} {session : Session}
    {cycles : List Cycle} {requests : List Request}
    (account : session.Account exchange severed cycles requests)
    (started : session.lifecycle = .started) (time : UInt64)
    (said : requests.map Request.bare =
      (cycles.filter Cycle.isAnnounced).flatMap (Cycle.requests session.id)) :
    (requests ++ session.parting time).map Request.bare =
      ((cycles.map (Cycle.endedBy session.disabled)).filter Cycle.isAnnounced).flatMap
        (Cycle.requests session.id) := by
  have law := account.law
  rw [List.map_append, said]
  cases account.standing with
  | resting idle unannounced deaf told => exact absurd started idle
  | @off cycles _ cycle _ unannounced deaf state told off unended =>
      rw [state, Session.isDisabled_turnedOff, Bool.true_or] at law
      have endedOff : (cycle.endedBy true).isAnnounced = false := off
      have ends : (cycles ++ [cycle]).map (Cycle.endedBy true) =
          cycles ++ [cycle.endedBy true] := by
        rw [List.map_append, told.map_endedBy]
        rfl
      rw [Session.parting, law, unannounced, ends]
      simp [List.filter_append, off, endedOff]
  | @on cycles _ body cycle channel _ announced told on unended hbody silent informed =>
      have endedOn : (cycle.endedBy session.disabled).isAnnounced = true := on
      have rest : (cycle.endedBy session.disabled).requests session.id =
          cycle.requests session.id ++ (session.parting time).map Request.bare := by
        rw [Session.parting, announced]
        cases session.disabled <;>
          simp [Cycle.requests, Cycle.endedBy, unended, Request.bare, SessionStart.finishedRequest,
            CaptureEvent.timeless, Cycle.start]
      have ends : (cycles ++ [cycle]).map (Cycle.endedBy session.disabled) =
          cycles ++ [cycle.endedBy session.disabled] := by
        rw [List.map_append, told.map_endedBy]
        rfl
      rw [ends]
      simp [List.filter_append, on, endedOn, rest]

/-- The service takes the start of a heedful session and does nothing with it yet, so that no
answer is found. -/
theorem Heedful.began {deployment : Deployment LocalService} {owner : Nat}
    (heedful : deployment.Heedful owner) {manager : Manager} {session : Session}
    (hmanager : deployment.managers[owner]? = some manager)
    (hsession : manager.session = some session) (token : ActivityToken)
    (component : ComponentName) (flags : CaptureFlags) :
    let channel := (deployment.newChannel manager.timeout).1
    let began := deployment.began owner manager session token component flags
    began.session? owner = some (session.opened token component flags channel) ∧
      began.exchange.peek channel = none := by
  intro channel began
  have there : deployment.session? owner = some session :=
    (session?_of_manager hmanager).trans hsession
  let opening := deployment.opening owner manager token component flags
  have extension : Extends deployment opening :=
    deployment.extends_opening owner manager token component flags
  have still : opening.Heedful owner := by
    refine ⟨heedful.running, fun later hlater => ?_⟩
    rcases extension.former hlater with absent | ⟨former, hformer, same⟩
    · rw [there] at absent
      cases absent
    · rw [same]
      exact heedful.live former hformer
  rcases still.postRequest (.startSession ⟨session.id, token, component, flags⟩ channel) with
    ⟨exchange, managers⟩
  change began.exchange = opening.exchange at exchange
  change began.managers = opening.managers at managers
  constructor
  · rw [session?, managers, ← session?]
    exact session?_opening there manager token component flags
  · rw [exchange]
    exact deployment.exchange.peek_newChannel manager.timeout

/-- A heedful session speaks of its start. -/
theorem Outspoken.announce {deployment : Deployment LocalService} {owner : Nat}
    {cycles : List Cycle} (outspoken : deployment.Outspoken owner cycles)
    (heedful : deployment.Heedful owner) {manager : Manager} {session : Session}
    (hmanager : deployment.managers[owner]? = some manager)
    (hsession : manager.session = some session) (token : ActivityToken)
    (component : ComponentName) {flags : CaptureFlags} (enabling : flags.isDisabling = false) :
    (deployment.announce owner manager session token component flags).Outspoken owner
      (cycles ++ [⟨token, component, flags, none⟩]) := by
  have there : deployment.session? owner = some session :=
    (session?_of_manager hmanager).trans hsession
  let channel := (deployment.newChannel manager.timeout).1
  let start : SessionStart := ⟨session.id, token, component, flags⟩
  let opened := session.opened token component flags channel
  let began := deployment.began owner manager session token component flags
  obtain ⟨_, -, -, posts⟩ := exists_began hmanager hsession token component flags
  change began.posts owner = deployment.posts owner ++ [.startSession start channel] at posts
  obtain ⟨hnow, unanswered⟩ := heedful.began hmanager hsession token component flags
  change began.session? owner = some opened at hnow
  change began.exchange.peek channel = none at unanswered
  have unaware : opened.polled began.exchange = opened := by
    simp [Session.polled, opened, Session.opened, unanswered]
  have hpolled : (began.poll owner).session? owner = some opened := by
    rw [session?_poll, hnow, Option.map_some, unaware]
  let request := start.startedRequest began.exchange.now.milliseconds
  have sequel : Sequel owner [request] (began.poll owner)
      ((began.poll owner).postRequest owner request) := sequel_postRequest hpolled rfl
  rcases sequel.session with ⟨again, hagain, -⟩
  rw [hpolled] at hagain
  have said : ((began.poll owner).postRequest owner request).posts owner =
      deployment.posts owner ++ [.startSession start channel, request] := by
    rw [sequel.posts]
    change began.posts owner ++ _ = _
    rw [posts, List.append_assoc]
    rfl
  have announced : Cycle.isAnnounced ⟨token, component, flags, none⟩ = true := by
    simp [Cycle.isAnnounced, enabling]
  have enabled : (opened.polled began.exchange).disabled = false := by
    rw [unaware]
    rfl
  rw [announce_eq, sendEvent_eq hnow rfl, enabled]
  change ((began.poll owner).postRequest owner request).Outspoken owner _
  apply of_session? hagain
  rw [said, List.map_append, outspoken session there]
  simp [List.filter_append, announced, Cycle.requests, Request.bare, request, start, Cycle.start,
    SessionStart.startedRequest, CaptureEvent.timeless, opened, Session.opened, Session.cutOffIf]

/-- A heedful session keeps to what its cycles amount to in every turn. -/
theorem Outspoken.turn {owner : Nat} {first second : Deployment LocalService × List Cycle}
    (outspoken : first.1.Outspoken owner first.2) (turn : Turn owner first second)
    (accounted : Accounted first.1 owner first.2) (heedful : first.1.Heedful owner) :
    second.1.Outspoken owner second.2 := by
  cases turn with
  | aside cycles chain sequel => exact outspoken.sequel sequel
  | look deployment cycles => exact outspoken.updateSession (Session.id_polled _)
  | @make deployment cycles manager hmanager fresh silent unsevered =>
      have none : cycles = [] := accounted.absent ((session?_of_manager hmanager).trans fresh)
      intro session hsession
      rw [Deployment.posts, journal_ensureSession, none]
      exact congrArg (List.map Request.bare) silent
  | @off _ cycles _ hsession idle token component flags disabling =>
      have unannounced : Cycle.isAnnounced ⟨token, component, flags, none⟩ = false := by
        simpa [Cycle.isAnnounced] using disabling
      have still : (Deployment.updateSession _ owner fun session =>
          session.openedOff token component flags).Outspoken owner cycles :=
        outspoken.updateSession fun _ => rfl
      intro session hsession
      rw [List.filter_append, List.filter_singleton, unannounced, cond_false, List.append_nil]
      exact still session hsession
  | on cycles hmanager hsession idle token component enabling =>
      exact outspoken.announce heedful hmanager hsession token component enabling
  | @close deployment cycles session hsession started =>
      have account := accounted.present session hsession
      obtain ⟨told, closing, hclosed⟩ := exists_closing hsession account.buffer
      rcases closing.session with ⟨cut, hcut, -⟩
      rw [session?_poll, hsession] at hcut
      have still : (session.polled deployment.exchange).lifecycle = .started :=
        (Session.lifecycle_polled _ session).trans started
      have said : told.Outspoken owner
          (cycles.map (Cycle.endedBy (session.polled deployment.exchange).disabled)) := by
        apply of_session? hcut
        rw [closing.posts]
        apply map_bare_parting account.polled still
        rw [Session.id_polled]
        exact outspoken session hsession
      rw [hclosed, isDisabled_of_session? hsession]
      exact said.updateSession fun _ => rfl
  | @retire deployment cycles session hsession idle =>
      rw [((accounted.present session hsession).told idle).map_endedBy]
      exact outspoken.updateSession fun _ => rfl
  | void cycles absent =>
      intro session hsession
      rw [absent] at hsession
      cases hsession

/-- A session that could speak at the end of a run has said what its cycles amount to. -/
theorem outspoken_follow {deployment : Deployment LocalService} (fresh : deployment.Fresh)
    (events : List (Event LocalService)) (owner : Nat)
    (heedful : (deployment.follow events).Heedful owner) :
    (deployment.follow events).Outspoken owner (deployment.cycles owner events) := by
  let property : Deployment LocalService × List Cycle → Prop :=
    fun state => state.1.Heedful owner → state.1.Outspoken owner state.2
  have kept : property (deployment.follow events, deployment.cycles owner events) := by
    apply chronicle_keeps fresh
    · intro between cycles event accounted sequel outspoken heedful
      exact (outspoken (heedful.before (between.precedes_after event)
        (running_before heedful.running))).sequel sequel
    · intro first second accounted turn outspoken heedful
      have before := heedful.before turn.chain.precedes
        (turn.chain.running_eq.symm.trans heedful.running)
      exact (outspoken before).turn turn accounted before
    · intro _ session hsession
      rw [fresh.session?_eq_none owner] at hsession
      cases hsession
  exact kept heedful

/-! ## What the service records -/

theorem batches_past (configuration : LocalConfiguration) (handled : List Envelope) :
    (LocalService.past configuration handled).batches =
      handled.filterMap fun envelope => envelope.request.batch? := by
  induction handled using List.reverseRecOn with
  | nil => rfl
  | append_singleton handled envelope inductionHypothesis =>
      rw [LocalService.past_concat, LocalService.workOff_eq, List.filterMap_append,
        ← inductionHypothesis]
      change ((LocalService.past configuration handled).handle envelope).1.batches = _
      rcases envelope with ⟨caller, request⟩
      cases request with
      | setFeatureEnabled enabled channel =>
          cases howner : (LocalService.past configuration handled).isOwner caller <;>
            simp [LocalService.handle, howner, Request.batch?]
      | sendEvents session events reason => rfl
      | _ => exact (List.append_nil _).symm

theorem filter_batches (session : SessionId) (envelopes : List Envelope) :
    ((envelopes.filterMap fun envelope => envelope.request.batch?).filter fun batch =>
        batch.session = session) =
      (heard session envelopes).filterMap fun envelope => envelope.request.batch? := by
  rw [heard, List.filter_filterMap, List.filterMap_filter]
  refine List.filterMap_congr fun envelope _ => ?_
  rcases envelope with ⟨caller, request⟩
  cases request with
  | sendEvents other events reason =>
      by_cases same : other = session <;>
        simp [Request.batch?, Request.session?, Option.filter, same]
  | _ => simp [Request.batch?]

theorem map_timeless (requests : List Request) :
    (requests.filterMap Request.batch?).map EventBatch.timeless =
      (requests.map Request.bare).filterMap Request.batch? := by
  rw [List.map_filterMap, List.filterMap_map]
  refine List.filterMap_congr fun request _ => ?_
  cases request <;> rfl

theorem filterMap_batch? (session : SessionId) (cycle : Cycle) :
    (cycle.requests session).filterMap Request.batch? = cycle.batches session := by
  unfold Cycle.requests Cycle.batches
  cases cycle.ending with
  | none => rfl
  | some disabled => cases disabled <;> rfl

/-- When nothing waits any more, a service that was never stopped has recorded of every session
exactly what its announced cycles amount to: for each of them, in order, a batch with the event
of its start, followed by a batch with the event of its end if and only if the session was not
disabled when it was destroyed.  It has recorded nothing else.  There may be as many managers as
there are ids. -/
theorem batches_of_follow {deployment : Deployment LocalService} (fresh : deployment.Fresh)
    {configuration : LocalConfiguration} (made : deployment.service = .new configuration)
    {events : List (Event LocalService)} (unstopped : .act LocalAct.stop ∉ events)
    (few : (deployment.follow events).managers.length ≤ UInt64.size)
    (live : ∀ manager ∈ (deployment.follow events).managers,
      (deployment.follow events).isLive manager.dispatcher = true)
    (quiet : (deployment.follow events).IsQuiet) :
    (∀ batch ∈ (deployment.follow events).service.batches, ∃ owner session,
      (deployment.follow events).session? owner = some session ∧ batch.session = session.id) ∧
    ∀ owner session, (deployment.follow events).session? owner = some session →
      (((deployment.follow events).service.batches.filter fun batch =>
          batch.session = session.id).map EventBatch.timeless) =
        ((deployment.cycles owner events).filter Cycle.isAnnounced).flatMap
          (Cycle.batches session.id) := by
  rcases exists_ledger fresh made events with ⟨handled, ledger⟩
  have history := ledger.history
  have delivery := delivery_follow fresh events
  have running : (deployment.follow events).service.running = true :=
    running_follow (by rw [made]; rfl) unstopped
  have recorded : (deployment.follow events).service.batches =
      handled.filterMap fun envelope => envelope.request.batch? := by
    rw [history.service, ← batches_past configuration handled]
    rfl
  constructor
  · intro batch member
    rw [recorded, List.mem_filterMap] at member
    rcases member with ⟨envelope, inHandled, hbatch⟩
    have named : envelope.request.session? = some batch.session := by
      rcases envelope with ⟨caller, request⟩
      cases request <;> cases hbatch
      rfl
    rcases owner_of_mem_asked delivery (history.handled_prefix.subset inHandled) named with
      ⟨owner, manager, session, hmanager, hsession, hid⟩
    exact ⟨owner, session, (session?_of_manager hmanager).trans hsession, hid.symm⟩
  · intro owner session there
    rcases manager_of_session? there with ⟨manager, hmanager, hsession⟩
    have heedful : (deployment.follow events).Heedful owner :=
      ⟨running, fun found hfound => live found (List.mem_of_getElem? hfound)⟩
    have said := (remembers_of_quiet history delivery (distinctIds_follow fresh events few) quiet
      running hmanager hsession (live manager (List.mem_of_getElem? hmanager))).1
    rw [recorded, filter_batches, said, List.filterMap_map]
    calc
      (((deployment.follow events).posts owner).filterMap Request.batch?).map
          EventBatch.timeless =
          (((deployment.follow events).posts owner).map Request.bare).filterMap
            Request.batch? := map_timeless _
      _ = (((deployment.cycles owner events).filter Cycle.isAnnounced).flatMap
            (Cycle.requests session.id)).filterMap Request.batch? := by
          rw [outspoken_follow fresh events owner heedful session there]
      _ = ((deployment.cycles owner events).filter Cycle.isAnnounced).flatMap
            (Cycle.batches session.id) := by
          rw [List.filterMap_flatMap]
          exact congrArg (List.flatMap · _) (funext (filterMap_batch? session.id))

/-- A session of a package that is not captured.  It learns of that in its second cycle only,
because its first one is over before the service has come to it. -/
def belatedRefusal : List (Event LocalService) :=
  [.operation (.onStart 0 ⟨"a"⟩ ⟨"p", "A"⟩ .empty), .work 0, .operation (.onStop 0), .work 0,
    .work 0, .work 0, .act .serve, .act .serve, .act .serve, .act .serve,
    .operation (.onStart 0 ⟨"b"⟩ ⟨"p", "B"⟩ .empty), .work 0, .work 0, .act .serve,
    .operation (.onStop 0), .work 0, .act .serve, .act .serve]

theorem batches_of_follow_belatedRefusal :
    let before := solitary (LocalService.new { disabledPackages := ["com.example.notes"] })
    let after := before.follow belatedRefusal
    (before.cycles 0 belatedRefusal).map Cycle.ending = [some false, some true] ∧
      (after.service.batches.filter fun batch => batch.session = ⟨1⟩).map EventBatch.timeless =
        [⟨⟨1⟩, .sessionStarted, [⟨⟨1⟩, 0, .started ⟨"a"⟩ ⟨"p", "A"⟩⟩]⟩,
          ⟨⟨1⟩, .sessionFinished, [⟨⟨1⟩, 0, .finished⟩]⟩,
          ⟨⟨1⟩, .sessionStarted, [⟨⟨1⟩, 0, .started ⟨"b"⟩ ⟨"p", "B"⟩⟩]⟩] := by
  intro before after
  have made : (after.session? 0).map Session.id = some ⟨1⟩ := by decide +kernel
  rcases Option.map_eq_some_iff.mp made with ⟨session, there, number⟩
  have unstopped : (.act LocalAct.stop : Event LocalService) ∉ belatedRefusal := by
    simp [belatedRefusal]
  have live : ∀ manager ∈ after.managers, after.isLive manager.dispatcher = true := by
    decide +kernel
  have quiet : after.IsQuiet := ⟨by decide +kernel, by decide +kernel⟩
  have fresh : before.Fresh := fresh_solitary _
  have few : after.managers.length ≤ UInt64.size := by decide +kernel
  have recorded := (batches_of_follow fresh rfl unstopped few live quiet).2 0 session there
  rw [number] at recorded
  have amount : ((before.cycles 0 belatedRefusal).filter Cycle.isAnnounced).flatMap
      (Cycle.batches ⟨1⟩) =
        [⟨⟨1⟩, .sessionStarted, [⟨⟨1⟩, 0, .started ⟨"a"⟩ ⟨"p", "A"⟩⟩]⟩,
          ⟨⟨1⟩, .sessionFinished, [⟨⟨1⟩, 0, .finished⟩]⟩,
          ⟨⟨1⟩, .sessionStarted, [⟨⟨1⟩, 0, .started ⟨"b"⟩ ⟨"p", "B"⟩⟩]⟩] := by decide +kernel
  refine ⟨by decide +kernel, ?_⟩
  rw [recorded, amount]

end Deployment
end ContentCapture
