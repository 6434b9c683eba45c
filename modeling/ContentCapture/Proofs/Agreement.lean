import ContentCapture.Proofs.Records

namespace ContentCapture

/-!
# Sessions and their service agree

When nothing waits any more, a running service that answers remembers of a session
what its last announced start said, and whether the cycle is over.  While the cycle
lasts, the session is in the state that the service remembers for it.

Nothing can be said before that: the start, its answer and the end of a cycle are
all on their way for some time, and others may turn the feature meanwhile.
-/

/-- The last cycle that the service was asked to start the session for. -/
def lastAnnounced? (cycles : List Cycle) : Option Cycle :=
  (cycles.filter Cycle.isAnnounced).getLast?

theorem lastAnnounced?_concat (cycles : List Cycle) (cycle : Cycle) :
    lastAnnounced? (cycles ++ [cycle]) =
      if cycle.isAnnounced then some cycle else lastAnnounced? cycles := by
  cases hannounced : cycle.isAnnounced <;> simp [lastAnnounced?, hannounced]

theorem getLast?_announcedStarts (session : SessionId) (cycles : List Cycle) :
    (announcedStarts session cycles).getLast? =
      (lastAnnounced? cycles).map fun cycle => cycle.start session := by
  rw [announcedStarts, List.getLast?_map, lastAnnounced?]

theorem Told.any_lastAnnounced? {session : SessionId} {cycles : List Cycle}
    {requests : List Request} (told : Told session cycles requests) :
    ((lastAnnounced? cycles).any fun cycle => !cycle.isOver) = false := by
  cases hlast : lastAnnounced? cycles with
  | none => rfl
  | some cycle =>
      have member : cycle ∈ cycles := (List.mem_filter.mp (List.mem_of_getLast? hlast)).1
      simp [told.isOver cycle member]

/-- A cycle is open until its last request. -/
theorem Body.isOpen_eq_true {start other : SessionStart} {finished : Bool} {body : List Request}
    (hbody : Body start finished body) (requests : List Request) (channel : ChannelId) :
    isOpen (requests ++ .startSession other channel :: body) = true := by
  rw [isOpen, List.foldl_append]
  cases hbody <;> rfl

/-- What a session has said is open exactly if its last announced cycle is not over. -/
theorem Session.Standing.isOpen_eq {exchange : Exchange} {session : Session}
    {cycles : List Cycle} {requests : List Request}
    (standing : session.Standing exchange cycles requests) :
    isOpen requests = (lastAnnounced? cycles).any fun cycle => !cycle.isOver := by
  cases standing with
  | resting idle unannounced deaf told =>
      rw [told.word.isOpen_eq_false, told.any_lastAnnounced?]
  | off started unannounced deaf state told off unended =>
      rw [lastAnnounced?_concat, off, told.word.isOpen_eq_false]
      exact told.any_lastAnnounced?.symm
  | on started announced told on unended hbody silent informed =>
      rw [lastAnnounced?_concat, on]
      rw [hbody.isOpen_eq_true]
      simp [Cycle.isOver, unended]

theorem openings_map (caller : String) (requests : List Request) :
    ((openings (requests.map fun request => ⟨caller, request⟩)).map
        fun (caller, start, _) => (caller, start)) =
      (requests.filterMap Request.start?).map fun start => (caller, start) := by
  rw [openings, List.filterMap_map, List.map_filterMap, List.map_filterMap]
  refine List.filterMap_congr fun request _ => ?_
  cases request <;> rfl

namespace Deployment

/-- Nothing waits any more, neither with a dispatcher nor with the service. -/
structure IsQuiet (deployment : Deployment LocalService) : Prop where
  jobs : ∀ dispatcher ∈ deployment.dispatchers, dispatcher.jobs = []
  inbox : deployment.service.inbox = []

variable {deployment : Deployment LocalService} {owner : Nat} {manager : Manager}
  {session : Session}

theorem IsQuiet.asks_eq_posts (quiet : deployment.IsQuiet) (delivery : Delivery [] deployment)
    (hmanager : deployment.managers[owner]? = some manager)
    (live : deployment.isLive manager.dispatcher = true) :
    deployment.asks owner = deployment.posts owner := by
  have empty : deployment.waiting manager.dispatcher owner = [] := by
    rw [waiting, queue]
    cases hdispatcher : deployment.dispatchers[manager.dispatcher]? with
    | none => rfl
    | some dispatcher => simp [quiet.jobs dispatcher (List.mem_of_getElem? hdispatcher)]
  rw [delivery.live owner manager hmanager live, empty]
  simp

/-- What a service that has caught up remembers of a session. -/
theorem remembers_of_quiet {configuration : LocalConfiguration} {handled : List Envelope}
    (history : History configuration handled deployment) (delivery : Delivery [] deployment)
    (distinct : deployment.DistinctIds) (quiet : deployment.IsQuiet)
    (running : deployment.service.running = true)
    (hmanager : deployment.managers[owner]? = some manager)
    (hsession : manager.session = some session)
    (live : deployment.isLive manager.dispatcher = true) :
    (heard session.id handled =
        (deployment.posts owner).map fun request => ⟨manager.caller, request⟩) ∧
      LocalService.Remembers configuration handled (openings (heard session.id handled))
        (deployment.service.session? session.id) := by
  have all : deployment.asked = handled := by
    rw [(history.running running).1, quiet.inbox, List.append_nil]
  have recorded : deployment.service.session? session.id =
      (LocalService.past configuration handled).session? session.id := by
    rw [history.service]
    rfl
  constructor
  · rw [← all, heard_asked delivery distinct hmanager hsession,
      quiet.asks_eq_posts delivery hmanager live]
  · rw [recorded]
    exact LocalService.remembers_past configuration handled session.id

variable {configuration : LocalConfiguration} {handled : List Envelope} {exchange : Exchange}
  {cycles : List Cycle} {requests : List Request} {record : Option SessionRecord}

theorem map_record_eq (standing : session.Standing exchange cycles requests) {caller : String}
    (said : heard session.id handled = requests.map fun request => ⟨caller, request⟩)
    (remembers :
      LocalService.Remembers configuration handled (openings (heard session.id handled)) record)
    (finished : (record.any fun record => !record.finished) =
      isOpen ((heard session.id handled).map Envelope.request)) :
    (record.map fun record => (record.caller, record.start, record.finished)) =
      (lastAnnounced? cycles).map fun cycle =>
        (caller, cycle.start session.id, cycle.isOver) := by
  have starts : (record.map fun record => (record.caller, record.start)) =
      (lastAnnounced? cycles).map fun cycle => (caller, cycle.start session.id) := by
    rw [remembers.map_eq_getLast?, ← List.getLast?_map, said, openings_map,
      standing.filterMap_start?, List.getLast?_map, getLast?_announcedStarts, Option.map_map]
    rfl
  have ended : (record.any fun record => !record.finished) =
      (lastAnnounced? cycles).any fun cycle => !cycle.isOver := by
    have requested : (Envelope.request ∘ fun request => ⟨caller, request⟩) = id := rfl
    rw [finished, said, List.map_map, requested, List.map_id, standing.isOpen_eq]
  cases hrecord : record with
  | none =>
      rw [hrecord] at starts
      cases hlast : lastAnnounced? cycles with
      | none => rfl
      | some cycle => simp [hlast] at starts
  | some found =>
      rw [hrecord] at starts ended
      cases hlast : lastAnnounced? cycles with
      | none => simp [hlast] at starts
      | some cycle =>
          rw [hlast] at starts ended
          simp only [Option.map_some, Option.some.injEq, Prod.mk.injEq] at starts ⊢
          exact ⟨starts.1, starts.2, by simpa using ended⟩

/-- The answer to the start of a session that is remembered. -/
theorem Ledger.peek_eq (ledger : Ledger configuration handled [] deployment)
    (responsive : configuration.unresponsive = false) {earlier : List Envelope} {caller : String}
    {start : SessionStart} {channel : ChannelId}
    (asked : earlier ++ [⟨caller, .startSession start channel⟩] <+: handled) :
    (deployment.exchange.peek channel).map Session.stateOf =
      some ((LocalService.past configuration earlier).stateOf caller start) := by
  have decided := LocalService.mem_decisions responsive asked rfl rfl
  rw [ledger.answered _ _ decided]
  rfl

/-- In an announced cycle that lasts, the last start is that of the cycle, and the
session knows the answer to it when it has looked. -/
theorem state_of_lasting (ledger : Ledger configuration handled [] deployment)
    (responsive : configuration.unresponsive = false)
    (standing : session.Standing deployment.exchange cycles requests) {caller : String}
    (said : heard session.id handled = requests.map fun request => ⟨caller, request⟩)
    (remembers :
      LocalService.Remembers configuration handled (openings (heard session.id handled)) record)
    {cycle : Cycle} (last : cycles.getLast? = some cycle) (announced : cycle.isAnnounced = true)
    (lasting : cycle.isOver = false) :
    ∃ channel found, session.Informed deployment.exchange channel ∧ record = some found ∧
      (session.polled deployment.exchange).state = found.state := by
  cases standing with
  | resting idle unannounced deaf told =>
      have ended := told.isOver cycle (List.mem_of_getLast? last)
      exact absurd (ended.symm.trans lasting) (by simp)
  | @off cycles _ current started unannounced deaf state told off unended =>
      rw [List.getLast?_concat] at last
      cases last
      exact absurd (announced.symm.trans off) (by simp)
  | @on cycles requests body current channel started known told on unended hbody silent informed =>
      have opening : (openings (heard session.id handled)).getLast? =
          some (caller, current.start session.id, channel) := by
        have behind : openings (body.map fun request => ⟨caller, request⟩) = [] := by
          cases hbody <;> rfl
        rw [said, openings, List.map_append, List.filterMap_append, List.map_cons,
          List.filterMap_cons]
        change (_ ++ (caller, _, channel) ::
          openings (body.map fun request => ⟨caller, request⟩)).getLast? = _
        rw [behind]
        exact List.getLast?_concat
      rcases remembers.exists_of_getLast? opening with ⟨found, earlier, hfound, asked, state⟩
      refine ⟨channel, found, informed, hfound, ?_⟩
      rw [informed.state_polled, ledger.peek_eq responsive asked, state]
      rfl

/-- When nothing waits any more, a running service that answers agrees with every
session.  It remembers nothing of a session that was never announced.  Otherwise it
remembers the last start that was announced, in the name of the manager, and has
marked it as finished exactly if that cycle is over.  While an announced cycle lasts,
the session is in the state that the service remembers, and disabled exactly if that
is a disabled state.  There may be as many managers as there are ids. -/
theorem agreement_of_follow {deployment : Deployment LocalService} (fresh : deployment.Fresh)
    {configuration : LocalConfiguration} (made : deployment.service = .new configuration)
    (responsive : configuration.unresponsive = false) {events : List (Event LocalService)}
    (unstopped : .act LocalAct.stop ∉ events)
    (few : (deployment.follow events).managers.length ≤ UInt64.size)
    (live : ∀ manager ∈ (deployment.follow events).managers,
      (deployment.follow events).isLive manager.dispatcher = true)
    (quiet : (deployment.follow events).IsQuiet) {owner : Nat} {manager : Manager}
    {session : Session} (hmanager : (deployment.follow events).managers[owner]? = some manager)
    (hsession : manager.session = some session) :
    (((deployment.follow events).service.session? session.id).map fun record =>
        (record.caller, record.start, record.finished)) =
      ((lastAnnounced? (deployment.cycles owner events)).map fun cycle =>
        (manager.caller, cycle.start session.id, cycle.isOver)) ∧
    ∀ cycle, (deployment.cycles owner events).getLast? = some cycle →
      cycle.isAnnounced = true → cycle.isOver = false →
        ∃ record, (deployment.follow events).service.session? session.id = some record ∧
          ((deployment.follow events).observeSession owner).1.map Session.state =
            some record.state ∧
          (deployment.follow events).isDisabled owner = record.state.isDisabled := by
  rcases exists_ledger fresh made events with ⟨handled, ledger⟩
  have history := ledger.history
  have running : (deployment.follow events).service.running = true :=
    running_follow (by rw [made]; rfl) unstopped
  have there : (deployment.follow events).session? owner = some session :=
    (session?_of_manager hmanager).trans hsession
  have account := (accounted_follow fresh events owner).present session there
  rcases remembers_of_quiet history (delivery_follow fresh events)
    (distinctIds_follow fresh events few) quiet running hmanager hsession
    (live manager (List.mem_of_getElem? hmanager)) with ⟨said, remembers⟩
  constructor
  · apply map_record_eq account.standing said remembers
    rw [history.service]
    exact LocalService.any_session?_past configuration handled session.id
  · intro cycle last announced lasting
    rcases state_of_lasting ledger responsive account.standing said remembers last announced
      lasting with ⟨channel, record, informed, hrecord, state⟩
    have observed : ((deployment.follow events).observeSession owner).1 =
        some (session.polled (deployment.follow events).exchange) := by
      rw [observeSession, session?_poll, there]
      rfl
    have severed := (history.running running).2.2.isSevered owner
    refine ⟨record, hrecord, ?_, ?_⟩
    · rw [observed, Option.map_some, state]
    · rw [isDisabled, observed, Option.map_some, Option.getD_some,
        informed.law_polled account.law, severed, Bool.or_false, state]

/-- The owner of the service turns the feature off while the start of a session still
waits with its dispatcher. -/
def overtakenStart : List (Event LocalService) :=
  [.operation (.join ⟨"com.example.capture", 0⟩ "com.example.capture" ⟨0⟩ 0),
    .operation (.onStart 0 ⟨"a"⟩ ⟨"p", "A"⟩ .empty),
    .operation (.ask 1 (.setFeatureEnabled false)), .work 0, .act .serve, .work 0, .act .serve,
    .act .serve]

theorem agreement_of_follow_overtakenStart :
    let before := solitary (LocalService.new {})
    let after := before.follow overtakenStart
    ∃ record, after.service.session? ⟨1⟩ = some record ∧
      (after.observeSession 0).1.map Session.state = some record.state ∧
      after.isDisabled 0 = record.state.isDisabled ∧
      record.state = SessionState.disabled.merge .noService := by
  intro before after
  have made : (after.session? 0).map Session.id = some ⟨1⟩ := by decide +kernel
  rcases Option.map_eq_some_iff.mp made with ⟨session, there, number⟩
  rcases manager_of_session? there with ⟨manager, hmanager, hsession⟩
  have unstopped : (.act LocalAct.stop : Event LocalService) ∉ overtakenStart := by
    simp [overtakenStart]
  have live : ∀ manager ∈ after.managers, after.isLive manager.dispatcher = true := by
    decide +kernel
  have quiet : after.IsQuiet := ⟨by decide +kernel, by decide +kernel⟩
  have fresh : before.Fresh := fresh_solitary (LocalService.new {})
  have agreement := agreement_of_follow fresh rfl rfl unstopped (by decide +kernel) live quiet
    hmanager hsession
  have last : (before.cycles 0 overtakenStart).getLast? =
      some ⟨⟨"a"⟩, ⟨"p", "A"⟩, .empty, none⟩ := by decide +kernel
  rcases agreement.2 _ last rfl rfl with ⟨record, hrecord, state, disabled⟩
  have found : (after.service.session? ⟨1⟩).map SessionRecord.state =
      some (SessionState.disabled.merge .noService) := by decide +kernel
  rw [number] at hrecord
  rw [hrecord] at found
  exact ⟨record, hrecord, state, disabled, Option.some.inj found⟩

end Deployment
end ContentCapture
