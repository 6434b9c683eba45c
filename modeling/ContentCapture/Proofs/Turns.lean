import ContentCapture.Proofs.Delivery
import ContentCapture.Proofs.Standing

namespace ContentCapture

/-!
# Turns

For the session of a manager an operation on it is a sequence of turns.  The session
is looked at, is made, begins a cycle or ends one, or something happens that is none
of its business.  Which turns an operation takes is told here once, so that what every
turn keeps is kept by every operation.

Between operations no session has buffered events.  That is why nothing is sent by a
flush, and why an event that is recorded is sent at once.
-/

namespace Session

/-- A change that neither minds the answer nor the channel for it may come before or after a
look. -/
theorem polled_comm (exchange : Exchange) (session : Session) (change : Session → Session)
    (reply : (change session).startReply = session.startReply)
    (informed : ∀ answer, (change session).informed answer = change (session.informed answer)) :
    (change session).polled exchange = change (session.polled exchange) := by
  unfold polled
  rw [reply]
  split
  · rfl
  · split
    · rfl
    · exact informed _

theorem recorded_polled (exchange : Exchange) (session : Session) (time : UInt64)
    (kind : EventKind) :
    (session.recorded time kind).polled exchange = (session.polled exchange).recorded time kind :=
  polled_comm exchange session (fun session => session.recorded time kind) rfl
    fun answer => by cases answer <;> rfl

end Session

namespace Deployment

variable {σ : Type}

/-! ## Changes of one session -/

/-- What is done to a session depends on that session only. -/
theorem updateSession_congr {deployment : Deployment σ} {owner : Nat} {session : Session}
    (h : deployment.session? owner = some session) {change other : Session → Session}
    (same : change session = other session) :
    deployment.updateSession owner change = deployment.updateSession owner other := by
  rcases manager_of_session? h with ⟨manager, hmanager, hsession⟩
  have managers : deployment.managers.modify owner (Manager.withSession · change) =
      deployment.managers.modify owner (Manager.withSession · other) := by
    ext1 index
    simp only [List.getElem?_modify]
    by_cases hindex : owner = index
    · subst hindex
      simp [hmanager, Manager.withSession, hsession, same]
    · simp [hindex]
  simp only [updateSession, updateManager, managers]

theorem updateSession_updateSession (deployment : Deployment σ) (owner : Nat)
    (first second : Session → Session) :
    (deployment.updateSession owner first).updateSession owner second =
      deployment.updateSession owner (second ∘ first) := by
  simp only [updateSession, updateManager, List.modify_modify_eq]
  congr 2
  funext manager
  simp [Manager.withSession]

/-- What is done to the session of a manager depends on that session only, if there is one. -/
theorem updateSession_congr_of_forall {deployment : Deployment σ} {owner : Nat}
    {change other : Session → Session}
    (same : ∀ session, deployment.session? owner = some session → change session = other session) :
    deployment.updateSession owner change = deployment.updateSession owner other := by
  cases hsession : deployment.session? owner with
  | some session => exact updateSession_congr hsession (same session hsession)
  | none =>
      have managers : deployment.managers.modify owner (Manager.withSession · change) =
          deployment.managers.modify owner (Manager.withSession · other) := by
        ext1 index
        simp only [List.getElem?_modify]
        by_cases hindex : owner = index
        · subst hindex
          cases hmanager : deployment.managers[owner]? with
          | none => rfl
          | some manager =>
              rw [session?_of_manager hmanager] at hsession
              simp [Manager.withSession, hsession]
        · simp [hindex]
      simp only [updateSession, updateManager, managers]

theorem updateSession_id (deployment : Deployment σ) (owner : Nat) :
    deployment.updateSession owner id = deployment := by
  have unchanged : deployment.managers.modify owner (Manager.withSession · id) =
      deployment.managers := by
    ext1 index
    simp only [List.getElem?_modify]
    cases deployment.managers[index]? with
    | none => rfl
    | some manager => by_cases hindex : owner = index <;> simp [hindex, Manager.withSession]
  simp only [updateSession, updateManager, unchanged]

/-- A change of a session to itself is none. -/
theorem updateSession_eq_self {deployment : Deployment σ} {owner : Nat} {session : Session}
    (h : deployment.session? owner = some session) {change : Session → Session}
    (same : change session = session) : deployment.updateSession owner change = deployment := by
  have unchanging : change session = id session := same
  rw [updateSession_congr h unchanging, updateSession_id]

/-- Nor is there one if there is no session. -/
theorem updateSession_of_absent {deployment : Deployment σ} {owner : Nat}
    (absent : deployment.session? owner = none) (change : Session → Session) :
    deployment.updateSession owner change = deployment := by
  have none : deployment.updateSession owner change = deployment.updateSession owner id :=
    updateSession_congr_of_forall (by simp [absent])
  rw [none, updateSession_id]

theorem session?_poll (deployment : Deployment σ) (owner : Nat) :
    (deployment.poll owner).session? owner =
      (deployment.session? owner).map (Session.polled deployment.exchange) :=
  session?_updateSession_self deployment owner _

/-- The session that there is once it was ensured is started if it was before. -/
theorem exists_ensured {deployment : Deployment σ} {owner : Nat} {manager : Manager}
    (hmanager : deployment.managers[owner]? = some manager) :
    ∃ session, (deployment.ensureSession owner).session? owner = some session ∧
      (session.lifecycle = .started ↔
        manager.session.any fun session => session.lifecycle = .started) := by
  cases hsession : manager.session with
  | none => exact ⟨_, session?_ensureSession hmanager hsession, by simp⟩
  | some session =>
      have there : deployment.session? owner = some session :=
        (session?_of_manager hmanager).trans hsession
      exact ⟨session, by rw [ensureSession_of_session? there, there], by simp⟩

/-- A session that is just made has no events, like the others. -/
theorem buffer_ensureSession {deployment : Deployment σ} {owner : Nat}
    (empty : ∀ session, deployment.session? owner = some session → session.buffer = []) :
    ∀ session, (deployment.ensureSession owner).session? owner = some session →
      session.buffer = [] := by
  intro session hsession
  cases hmanager : deployment.managers[owner]? with
  | none =>
      rw [ensureSession_eq_self hmanager] at hsession
      exact empty session hsession
  | some manager =>
      cases hown : manager.session with
      | none =>
          rw [session?_ensureSession hmanager hown] at hsession
          cases hsession
          rfl
      | some former =>
          have there : deployment.session? owner = some former :=
            (session?_of_manager hmanager).trans hown
          rw [ensureSession_of_session? there] at hsession
          exact empty session hsession

/-- An operation on another manager neither begins nor ends a cycle. -/
theorem recounted_of_ne (deployment : Deployment σ) {owner : Nat} (cycles : List Cycle)
    {operation : Operation} (other : ∀ who ∈ operation.owner?, who ≠ owner) :
    deployment.recounted owner cycles operation = cycles := by
  cases operation with
  | onStart who token component flags =>
      have ne : who ≠ owner := other who rfl
      cases hmanager : deployment.managers[owner]? <;>
        simp [recounted, opening?, destroys, hmanager, ne]
  | startSession who token component flags =>
      have ne : who ≠ owner := other who rfl
      cases hsession : deployment.session? owner <;>
        simp [recounted, opening?, destroys, hsession, ne]
  | onStop who =>
      have ne : who ≠ owner := other who rfl
      simp [recounted, opening?, destroys, ne]
  | destroySession who =>
      have ne : who ≠ owner := other who rfl
      simp [recounted, opening?, destroys, ne]
  | _ => rfl

theorem isDisabled_eq {deployment : Deployment σ} (owner : Nat) :
    deployment.isDisabled owner =
      ((deployment.session? owner).map fun session =>
        (session.polled deployment.exchange).disabled).getD false := by
  rw [isDisabled, observeSession, session?_poll]
  cases deployment.session? owner <;> rfl

theorem isDisabled_of_session? {deployment : Deployment σ} {owner : Nat} {session : Session}
    (h : deployment.session? owner = some session) :
    deployment.isDisabled owner = (session.polled deployment.exchange).disabled := by
  rw [isDisabled_eq, h]
  rfl

theorem isDisabled_of_absent {deployment : Deployment σ} {owner : Nat}
    (h : deployment.session? owner = none) : deployment.isDisabled owner = false := by
  rw [isDisabled_eq, h]
  rfl

theorem isDisabled_ensureSession (deployment : Deployment σ) (owner : Nat) :
    (deployment.ensureSession owner).isDisabled owner = deployment.isDisabled owner := by
  cases hmanager : deployment.managers[owner]? with
  | none => rw [ensureSession_eq_self hmanager]
  | some manager =>
      cases hsession : manager.session with
      | none =>
          have absent : deployment.session? owner = none :=
            (session?_of_manager hmanager).trans hsession
          rw [isDisabled_of_absent absent,
            isDisabled_of_session? (session?_ensureSession hmanager hsession)]
          rfl
      | some session =>
          have there : deployment.session? owner = some session :=
            (session?_of_manager hmanager).trans hsession
          rw [ensureSession_of_session? there]

variable [Service σ]

/-! ## What a session without buffered events does -/

/-- Such a session sends nothing. -/
theorem sendBuffer_eq {deployment : Deployment σ} {owner : Nat} {session : Session}
    (h : deployment.session? owner = some session) (empty : session.buffer = [])
    (reason : FlushReason) : deployment.sendBuffer owner reason = deployment.poll owner := by
  have hpolled : (deployment.poll owner).session? owner =
      some (session.polled deployment.exchange) := by
    rw [session?_poll, h]
    rfl
  have still : (session.polled deployment.exchange).buffer = [] :=
    (Session.buffer_polled _ session).trans empty
  have emptied : (session.polled deployment.exchange).emptied =
      session.polled deployment.exchange := by
    rw [Session.emptied, ← still]
  simp only [sendBuffer, hpolled]
  split
  · exact updateSession_eq_self hpolled emptied
  · simp [empty]

/-- An event is sent at once, unless the session is disabled. -/
theorem sendEvent_eq {deployment : Deployment σ} {owner : Nat} {session : Session}
    (h : deployment.session? owner = some session) (empty : session.buffer = [])
    (kind : EventKind) (reason : FlushReason) :
    deployment.sendEvent owner kind reason =
      if (session.polled deployment.exchange).disabled then deployment.poll owner
      else (deployment.poll owner).postRequest owner
        (.sendEvents session.id
          [⟨session.id, deployment.exchange.now.milliseconds, kind⟩] reason) := by
  let polled := session.polled deployment.exchange
  let time := deployment.exchange.now.milliseconds
  have still : polled.buffer = [] := (Session.buffer_polled _ session).trans empty
  have recorded : (deployment.updateSession owner fun session =>
      session.recorded time kind).poll owner =
        deployment.updateSession owner ((Session.polled deployment.exchange) ∘
          fun session => session.recorded time kind) :=
    updateSession_updateSession deployment owner _ _
  have hrecorded : ((deployment.updateSession owner fun session =>
      session.recorded time kind).poll owner).session? owner =
        some (polled.recorded time kind) := by
    rw [recorded, session?_updateSession_self, h]
    exact congrArg some (Session.recorded_polled deployment.exchange session time kind)
  have emptied : ((deployment.updateSession owner fun session =>
      session.recorded time kind).poll owner).updateSession owner Session.emptied =
        deployment.poll owner := by
    rw [recorded, updateSession_updateSession]
    apply updateSession_congr h
    simp only [Function.comp_apply, Session.recorded_polled]
    change { polled with buffer := [] } = polled
    rw [← still]
  have buffer : (polled.recorded time kind).buffer = [⟨session.id, time, kind⟩] := by
    simp only [Session.recorded, still, polled, Session.id_polled]
    rfl
  have id : (polled.recorded time kind).id = session.id := Session.id_polled _ _
  have disabled : (polled.recorded time kind).disabled = polled.disabled := rfl
  unfold sendEvent sendBuffer
  simp only [time] at hrecorded
  simp only [hrecorded]
  rw [emptied, disabled, buffer, id]
  rfl

theorem sequel_removeUserData (deployment : Deployment σ) (owner who : Nat)
    (removal : RemovalRequest) :
    Sequel owner [] deployment (deployment.removeUserData who removal).2 := by
  unfold removeUserData
  split
  · exact .refl owner deployment
  · split
    · exact .refl owner deployment
    · next manager hmanager =>
        have asked : Sequel owner [] deployment
            (deployment.ask (some who) ⟨manager.caller, .removeUserData removal⟩).2 :=
          sequel_ask deployment owner (some who) _ rfl
        split <;> next hasked => simpa only [hasked] using asked

/-! ## How a cycle begins and ends -/

/-- The service is asked to start a session.  Failures before that do not count any
more. -/
theorem exists_began {deployment : Deployment σ} {owner : Nat} {manager : Manager}
    {session : Session} (hmanager : deployment.managers[owner]? = some manager)
    (hsession : manager.session = some session) (token : ActivityToken)
    (component : ComponentName) (flags : CaptureFlags) :
    let channel := (deployment.newChannel manager.timeout).1
    let began := deployment.began owner manager session token component flags
    ∃ cut, began.session? owner =
        some ((session.opened token component flags channel).cutOffIf cut) ∧
      began.isSevered owner = cut ∧
      began.posts owner =
        deployment.posts owner ++
          [.startSession ⟨session.id, token, component, flags⟩ channel] := by
  intro channel began
  have there : deployment.session? owner = some session :=
    (session?_of_manager hmanager).trans hsession
  have opened := session?_opening there manager token component flags
  rcases postRequest_start opened ⟨session.id, token, component, flags⟩ channel with
    ⟨cut, hbegan, hsevered, hposts, -⟩
  exact ⟨cut, hbegan, hsevered, hposts⟩

/-- What a session that has looked at the answer says at the end of a cycle. -/
theorem exists_closing {deployment : Deployment σ} {owner : Nat} {session : Session}
    (hsession : deployment.session? owner = some session) (empty : session.buffer = []) :
    ∃ told : Deployment σ,
      Sequel owner
        ((session.polled deployment.exchange).parting deployment.exchange.now.milliseconds)
        (deployment.poll owner) told ∧
      deployment.closeSession owner session = told.updateSession owner Session.closed := by
  let now := session.polled deployment.exchange
  let time := deployment.exchange.now.milliseconds
  have hnow : (deployment.poll owner).session? owner = some now := by
    rw [session?_poll, hsession]
    rfl
  have again : now.polled deployment.exchange = now := Session.polled_polled _ session
  have repolled : (deployment.poll owner).poll owner = deployment.poll owner :=
    updateSession_eq_self hnow again
  have still : now.buffer = [] := (Session.buffer_polled _ session).trans empty
  let reported : Deployment σ :=
    if ((deployment.poll owner).session? owner).any fun session => !session.disabled then
      (deployment.poll owner).sendEvent owner .finished .sessionFinished
    else deployment.poll owner
  have reporting : Sequel owner
      (if now.disabled then []
        else [.sendEvents now.id [⟨now.id, time, .finished⟩] .sessionFinished])
      (deployment.poll owner) reported := by
    simp only [reported, hnow, Option.any_some]
    cases hdisabled : now.disabled with
    | true => exact .refl owner _
    | false =>
        have enabled : (now.polled (deployment.poll owner).exchange).disabled = false := by
          rw [← hdisabled]
          exact congrArg Session.disabled again
        rw [Bool.not_false, if_pos rfl, sendEvent_eq hnow still, enabled, repolled]
        exact sequel_postRequest hnow rfl
  let told : Deployment σ :=
    if session.announced then reported.postRequest owner (.finishSession session.id) else reported
  have telling : Sequel owner (if now.announced then [.finishSession now.id] else []) reported
      told := by
    have announced : now.announced = session.announced := Session.announced_polled _ session
    have id : now.id = session.id := Session.id_polled _ session
    rcases reporting.session with ⟨cut, hcut, -⟩
    rw [hnow] at hcut
    simp only [told]
    rw [announced, id]
    split
    · exact sequel_postRequest hcut rfl
    · exact .refl owner reported
  exact ⟨told, reporting.trans telling, rfl⟩

/-! ## Turns -/

/-- A turn of the session of a manager, with its cycles before and after. -/
inductive Turn (owner : Nat) :
    Deployment σ × List Cycle → Deployment σ × List Cycle → Prop where
  /-- Something happens to the manager that is not the business of its session. -/
  | aside {first second : Deployment σ} (cycles : List Cycle) (chain : Chain owner first second)
      (sequel : Sequel owner [] first second) : Turn owner (first, cycles) (second, cycles)
  | look (deployment : Deployment σ) (cycles : List Cycle) :
      Turn owner (deployment, cycles) (deployment.poll owner, cycles)
  | make {deployment : Deployment σ} (cycles : List Cycle) {manager : Manager}
      (hmanager : deployment.managers[owner]? = some manager) (fresh : manager.session = none)
      (silent : deployment.posts owner = []) (unsevered : deployment.isSevered owner = false) :
      Turn owner (deployment, cycles) (deployment.ensureSession owner, cycles)
  /-- A cycle begins that its flags turn off. -/
  | off {deployment : Deployment σ} (cycles : List Cycle) {session : Session}
      (hsession : deployment.session? owner = some session) (idle : session.lifecycle ≠ .started)
      (token : ActivityToken) (component : ComponentName) {flags : CaptureFlags}
      (disabling : flags.isDisabling = true) :
      Turn owner (deployment, cycles)
        (deployment.updateSession owner fun session => session.openedOff token component flags,
          cycles ++ [⟨token, component, flags, none⟩])
  /-- A cycle begins for which the service is asked. -/
  | on {deployment : Deployment σ} (cycles : List Cycle) {manager : Manager} {session : Session}
      (hmanager : deployment.managers[owner]? = some manager)
      (hsession : manager.session = some session) (idle : session.lifecycle ≠ .started)
      (token : ActivityToken) (component : ComponentName) {flags : CaptureFlags}
      (enabling : flags.isDisabling = false) :
      Turn owner (deployment, cycles)
        (deployment.announce owner manager session token component flags,
          cycles ++ [⟨token, component, flags, none⟩])
  | close {deployment : Deployment σ} (cycles : List Cycle) {session : Session}
      (hsession : deployment.session? owner = some session)
      (started : session.lifecycle = .started) :
      Turn owner (deployment, cycles)
        (deployment.closeSession owner session,
          cycles.map (Cycle.endedBy (deployment.isDisabled owner)))
  /-- A session is destroyed that is not started. -/
  | retire {deployment : Deployment σ} (cycles : List Cycle) {session : Session}
      (hsession : deployment.session? owner = some session) (idle : session.lifecycle ≠ .started) :
      Turn owner (deployment, cycles)
        (deployment.updateSession owner Session.retired,
          cycles.map (Cycle.endedBy (deployment.isDisabled owner)))
  /-- There is no session to destroy. -/
  | void {deployment : Deployment σ} (cycles : List Cycle)
      (absent : deployment.session? owner = none) :
      Turn owner (deployment, cycles)
        (deployment, cycles.map (Cycle.endedBy (deployment.isDisabled owner)))

/-- Any number of turns. -/
abbrev Turns (owner : Nat) :
    Deployment σ × List Cycle → Deployment σ × List Cycle → Prop :=
  Relation.ReflTransGen (Turn owner)

theorem Turn.chain {owner : Nat} {first second : Deployment σ × List Cycle}
    (turn : Turn owner first second) : Chain owner first.1 second.1 := by
  cases turn with
  | aside cycles chain sequel => exact chain
  | look deployment cycles => exact deployment.chain_poll owner
  | make cycles hmanager fresh silent unsevered => exact chain_ensureSession _ owner
  | off cycles hsession idle token component disabling =>
      exact .single (.revise _ _ fun _ => rfl)
  | on cycles hmanager hsession idle token component enabling =>
      exact .head (.began _ hmanager hsession token component _) (chain_sendEvent _ owner _ _)
  | close cycles hsession started => exact chain_closeSession hsession
  | retire cycles hsession idle => exact .single (.revise _ _ fun _ => rfl)
  | void cycles absent => exact .refl

/-! ## Operations as turns -/

variable (deployment : Deployment σ) (owner : Nat) (cycles : List Cycle)

theorem turns_ensureSession (delivery : Delivery [] deployment) :
    Turns owner (deployment, cycles) (deployment.ensureSession owner, cycles) := by
  cases hmanager : deployment.managers[owner]? with
  | none =>
      rw [ensureSession_eq_self hmanager]
  | some manager =>
      cases hsession : manager.session with
      | some session =>
          have there : deployment.session? owner = some session :=
            (session?_of_manager hmanager).trans hsession
          rw [ensureSession_of_session? there]
      | none =>
          have absent : deployment.session? owner = none :=
            (session?_of_manager hmanager).trans hsession
          rcases delivery.silent absent 0 with ⟨noPosts, noAsks, -, -⟩
          exact .single (.make cycles hmanager hsession noPosts (isSevered_eq_false noAsks))

theorem turns_startSession {session : Session}
    (hsession : deployment.session? owner = some session) (token : ActivityToken)
    (component : ComponentName) (flags : CaptureFlags) :
    Turns owner (deployment, cycles)
      (deployment.startSession owner token component flags,
        if session.lifecycle = .started then cycles
        else cycles ++ [⟨token, component, flags, none⟩]) := by
  rcases manager_of_session? hsession with ⟨manager, hmanager, hown⟩
  simp only [startSession, hmanager, hown]
  by_cases started : session.lifecycle = .started
  · rw [if_pos started, if_pos started]
  · rw [if_neg started, if_neg started]
    cases hflags : flags.isDisabling with
    | true => exact .single (.off cycles hsession started token component hflags)
    | false => exact .single (.on cycles hmanager hown started token component hflags)

theorem turns_flushSession
    (empty : ∀ session, deployment.session? owner = some session → session.buffer = [])
    (reason : FlushReason) :
    Turns owner (deployment, cycles) (deployment.flushSession owner reason, cycles) := by
  unfold flushSession
  split
  · exact .refl
  · next session hsession =>
      split
      · rw [sendBuffer_eq hsession (empty session hsession)]
        exact .single (.look deployment cycles)
      · exact .refl

theorem turns_destroySession :
    Turns owner (deployment, cycles)
      (deployment.destroySession owner,
        cycles.map (Cycle.endedBy (deployment.isDisabled owner))) := by
  unfold destroySession
  split
  · next absent => exact .single (.void cycles absent)
  · next session hsession =>
      split
      · next started => exact .single (.close cycles hsession started)
      · next idle => exact .single (.retire cycles hsession idle)

theorem turns_onStop (delivery : Delivery [] deployment) :
    Turns owner (deployment, cycles)
      (deployment.onStop owner, cycles.map (Cycle.endedBy (deployment.isDisabled owner))) := by
  have destroyed := turns_destroySession (deployment.ensureSession owner) owner cycles
  rw [isDisabled_ensureSession] at destroyed
  exact (turns_ensureSession deployment owner cycles delivery).trans destroyed

omit [Service σ] in
theorem recounted_onStart {deployment : Deployment σ} {owner : Nat} {manager : Manager}
    (hmanager : deployment.managers[owner]? = some manager) {token : ActivityToken}
    {component : ComponentName} (faultless : startFault? token component = none)
    (flags : CaptureFlags) (cycles : List Cycle) :
    deployment.recounted owner cycles (.onStart owner token component flags) =
      if manager.session.any fun session => session.lifecycle = .started then cycles
      else cycles ++ [⟨token, component, manager.flags.merge flags, none⟩] := by
  cases started : manager.session.any fun session => session.lifecycle = .started <;>
    simp [recounted, opening?, destroys, hmanager, faultless, started]

theorem turns_onStart (delivery : Delivery [] deployment) (token : ActivityToken)
    (component : ComponentName) (flags : CaptureFlags) :
    Turns owner (deployment, cycles)
      ((deployment.onStart owner token component flags).2,
        deployment.recounted owner cycles (.onStart owner token component flags)) := by
  unfold onStart
  cases hfault : startFault? token component with
  | some fault =>
      have unchanged : deployment.recounted owner cycles (.onStart owner token component flags) =
          cycles := by
        cases hmanager : deployment.managers[owner]? <;>
          simp [recounted, opening?, destroys, hmanager, hfault]
      rw [unchanged]
  | none =>
      let marked := deployment.updateManager owner fun manager =>
        { manager with flags := manager.flags.merge flags }
      have marking : Elementary owner deployment marked :=
        .mark deployment fun before => before.merge flags
      have sequel : Sequel owner [] deployment marked :=
        .of_eq (session?_mark deployment owner owner fun before => before.merge flags) rfl (.refl _)
      have ensured : Turns owner (deployment, cycles) (marked.ensureSession owner, cycles) :=
        .head (.aside cycles (.single marking) sequel)
          (turns_ensureSession marked owner cycles (delivery.elementary marking))
      cases hmanager : deployment.managers[owner]? with
      | none =>
          have unmarked : marked.managers[owner]? = none := by
            simp [marked, updateManager, hmanager]
          have unensured : marked.ensureSession owner = marked := ensureSession_eq_self unmarked
          have unstarted : ∀ flags, (marked.ensureSession owner).startSession owner token component
              flags = marked.ensureSession owner := by
            intro flags
            rw [unensured]
            simp [startSession, unmarked]
          simpa [recounted, opening?, destroys, hmanager, unstarted, marked] using ensured
      | some manager =>
          have hmarked : marked.managers[owner]? =
              some { manager with flags := manager.flags.merge flags } := by
            simp [marked, updateManager, hmanager]
          rcases exists_ensured hmarked with ⟨session, hsession, started⟩
          have begun := turns_startSession (marked.ensureSession owner) owner cycles hsession token
            component (manager.flags.merge flags)
          have merged : ((marked.managers[owner]?).map Manager.flags).getD flags =
              manager.flags.merge flags := by
            rw [hmarked]
            rfl
          rw [recounted_onStart hmanager hfault, ← if_congr started rfl rfl]
          change Turns owner _ ((marked.ensureSession owner).startSession owner token component
            (((marked.managers[owner]?).map Manager.flags).getD flags), _)
          rw [merged]
          exact ensured.trans begun

theorem turns_asking (question : Question) :
    Turns owner (deployment, cycles) (deployment.asking owner question, cycles) := by
  have put : ∀ before : Deployment σ,
      Turns owner (before, cycles) (before.put owner question, cycles) :=
    fun before => .single (.aside cycles (.single (.put before question))
      (sequel_put before owner owner question))
  cases question with
  | serviceComponentName =>
      have looked : Turns owner (deployment, cycles) (deployment.poll owner, cycles) :=
        .single (.look deployment cycles)
      unfold asking isEnabled
      simp only
      split
      · exact looked.trans (put _)
      · exact looked
  | featureEnabled => exact put deployment
  | setFeatureEnabled enabled => exact put deployment

variable {deployment owner}

/-- An operation on a manager is a sequence of turns of its session. -/
theorem turns_perform (delivery : Delivery [] deployment) {operation : Operation}
    (own : operation.owner? = some owner)
    (empty : ∀ session, deployment.session? owner = some session → session.buffer = []) :
    Turns owner (deployment, cycles)
      (deployment.perform operation, deployment.recounted owner cycles operation) := by
  have look : Turns owner (deployment, cycles) (deployment.poll owner, cycles) :=
    .single (.look deployment cycles)
  cases operation with
  | join context caller timeout dispatcher => simp [Operation.owner?] at own
  | ensureSession who =>
      cases own
      exact turns_ensureSession deployment owner cycles delivery
  | onStart who token component flags =>
      cases own
      exact turns_onStart deployment owner cycles delivery token component flags
  | onStop who =>
      cases own
      have ended : deployment.recounted owner cycles (.onStop owner) =
          cycles.map (Cycle.endedBy (deployment.isDisabled owner)) := by
        simp [recounted, opening?, destroys]
      rw [ended]
      exact turns_onStop deployment owner cycles delivery
  | flush who reason =>
      cases own
      refine (turns_ensureSession deployment owner cycles delivery).trans
        (turns_flushSession _ owner cycles ?_ reason)
      exact buffer_ensureSession empty
  | setEnabled who enabled =>
      cases own
      let change : CaptureFlags → CaptureFlags := fun flags =>
        if enabled then flags.remove .disabledByApp else flags.merge .disabledByApp
      exact .single (.aside cycles (.single (.mark deployment change))
        (.of_eq (session?_mark deployment owner owner change) rfl (.refl _)))
  | removeUserData who removal =>
      cases own
      exact .single (.aside cycles (deployment.chain_removeUserData owner removal)
        (sequel_removeUserData deployment owner owner removal))
  | ask who question =>
      cases own
      exact turns_asking deployment owner cycles question
  | isEnabled who =>
      cases own
      exact look
  | report who =>
      cases own
      exact look
  | observeSession who =>
      cases own
      exact look
  | sessionReport who =>
      cases own
      exact look
  | startSession who token component flags =>
      cases own
      cases hsession : deployment.session? owner with
      | none =>
          simp only [perform, recounted, opening?, destroys, hsession,
            startSession_eq_self hsession, if_false, Bool.false_eq_true]
          exact .refl
      | some session =>
          have recount : deployment.recounted owner cycles
              (.startSession owner token component flags) =
                if session.lifecycle = .started then cycles
                else cycles ++ [⟨token, component, flags, none⟩] := by
            by_cases started : session.lifecycle = .started <;>
              simp [recounted, opening?, destroys, hsession, started]
          rw [recount]
          exact turns_startSession deployment owner cycles hsession token component flags
  | flushSession who reason =>
      cases own
      exact turns_flushSession deployment owner cycles empty reason
  | destroySession who =>
      cases own
      have ended : deployment.recounted owner cycles (.destroySession owner) =
          cycles.map (Cycle.endedBy (deployment.isDisabled owner)) := by
        simp [recounted, opening?, destroys]
      rw [ended]
      exact turns_destroySession deployment owner cycles

end Deployment
end ContentCapture
