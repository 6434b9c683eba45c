import ContentCapture.Proofs.Journal
import ContentCapture.Proofs.Run
import Mathlib.Data.List.Induction
import Mathlib.Logic.Relation

namespace ContentCapture

/-!
# Elementary steps

Every operation on a manager is a chain of elementary steps, each of which
concerns one part of the deployment.  What every elementary step keeps is
therefore kept by every operation, and what is also kept by the dispatchers, by
the service and by the time is kept by every run.

Two of the steps are not as small as they could be.  The channel for the answer to
a start is made together with the request that carries it, and so is the channel
for the answer to a question.
-/

/-- The manager that an operation is done to, if it is there already. -/
def Operation.owner? : Operation → Option Nat
  | .join _ _ _ _ => none
  | .ensureSession owner => some owner
  | .onStart owner _ _ _ => some owner
  | .onStop owner => some owner
  | .flush owner _ => some owner
  | .setEnabled owner _ => some owner
  | .removeUserData owner _ => some owner
  | .ask owner _ => some owner
  | .isEnabled owner => some owner
  | .report owner => some owner
  | .observeSession owner => some owner
  | .sessionReport owner => some owner
  | .startSession owner _ _ _ => some owner
  | .flushSession owner _ => some owner
  | .destroySession owner => some owner

namespace Session

@[simp] theorem id_polled (exchange : Exchange) (session : Session) :
    (session.polled exchange).id = session.id := by
  unfold polled
  split
  · rfl
  · split
    · rfl
    · next answer _ => cases answer <;> rfl

@[simp] theorem id_cutOffIf (cut : Bool) (session : Session) :
    (session.cutOffIf cut).id = session.id := rfl

end Session

namespace Deployment

variable {σ : Type}

/-! ## Managers and their sessions -/

theorem session?_addManager (deployment : Deployment σ) {manager : Manager}
    (fresh : manager.session = none) (owner : Nat) :
    (deployment.addManager manager).session? owner = deployment.session? owner := by
  simp only [session?, addManager, List.getElem?_append]
  split
  · rfl
  · next bound =>
      rw [List.getElem?_eq_none (Nat.le_of_not_lt bound)]
      cases hnew : [manager][owner - deployment.managers.length]? with
      | none => rfl
      | some found =>
          have same : found = manager := List.mem_singleton.mp (List.mem_of_getElem? hnew)
          simp [same, fresh]

theorem session?_mark (deployment : Deployment σ) (owner other : Nat)
    (change : CaptureFlags → CaptureFlags) :
    (deployment.updateManager owner fun manager =>
      { manager with flags := change manager.flags }).session? other =
      deployment.session? other := by
  simp only [session?, updateManager, List.getElem?_modify]
  cases deployment.managers[other]? with
  | none => rfl
  | some manager => by_cases h : owner = other <;> simp [h]

theorem ensureSession_eq_self {deployment : Deployment σ} {owner : Nat}
    (absent : deployment.managers[owner]? = none) :
    deployment.ensureSession owner = deployment := by
  simp [ensureSession, absent]

/-- A session that is there is not made again. -/
theorem ensureSession_of_session? {deployment : Deployment σ} {owner : Nat} {session : Session}
    (h : deployment.session? owner = some session) :
    deployment.ensureSession owner = deployment := by
  rcases manager_of_session? h with ⟨manager, hmanager, hsession⟩
  simp [ensureSession, hmanager, hsession]

/-- A session that is made is new. -/
theorem session?_ensureSession {deployment : Deployment σ} {owner : Nat} {manager : Manager}
    (hmanager : deployment.managers[owner]? = some manager) (fresh : manager.session = none) :
    (deployment.ensureSession owner).session? owner = some { id := deployment.nextSession } := by
  simp [ensureSession, hmanager, fresh, session?, updateManager]

theorem session?_ensureSession_of_ne (deployment : Deployment σ) {owner other : Nat}
    (h : owner ≠ other) :
    (deployment.ensureSession owner).session? other = deployment.session? other := by
  unfold ensureSession
  split
  · rfl
  · split
    · rfl
    · simp [session?, updateManager, h]

theorem journal_ensureSession (deployment : Deployment σ) (owner : Nat) :
    (deployment.ensureSession owner).journal = deployment.journal := by
  unfold ensureSession
  split
  · rfl
  · split <;> rfl

theorem dispatchers_ensureSession (deployment : Deployment σ) (owner : Nat) :
    (deployment.ensureSession owner).dispatchers = deployment.dispatchers := by
  unfold ensureSession
  split
  · rfl
  · split <;> rfl

theorem service_ensureSession (deployment : Deployment σ) (owner : Nat) :
    (deployment.ensureSession owner).service = deployment.service := by
  unfold ensureSession
  split
  · rfl
  · split <;> rfl

theorem exchange_ensureSession (deployment : Deployment σ) (owner : Nat) :
    (deployment.ensureSession owner).exchange = deployment.exchange := by
  unfold ensureSession
  split
  · rfl
  · split <;> rfl

variable [Service σ]

/-! ## The steps -/

/-- Opens a cycle of a session and posts the request for it. -/
def began (deployment : Deployment σ) (owner : Nat) (manager : Manager) (session : Session)
    (token : ActivityToken) (component : ComponentName) (flags : CaptureFlags) : Deployment σ :=
  let (channel, deployment) := deployment.newChannel manager.timeout
  (deployment.updateSession owner fun session =>
      session.opened token component flags channel).postRequest owner
    (.startSession ⟨session.id, token, component, flags⟩ channel)

/-- The deployment when a cycle of a session was opened and its request is still to be
posted. -/
def opening (deployment : Deployment σ) (owner : Nat) (manager : Manager) (token : ActivityToken)
    (component : ComponentName) (flags : CaptureFlags) : Deployment σ :=
  (deployment.newChannel manager.timeout).2.updateSession owner fun session =>
    session.opened token component flags (deployment.newChannel manager.timeout).1

omit [Service σ] in
theorem session?_opening {deployment : Deployment σ} {owner : Nat} {session : Session}
    (h : deployment.session? owner = some session) (manager : Manager) (token : ActivityToken)
    (component : ComponentName) (flags : CaptureFlags) :
    (deployment.opening owner manager token component flags).session? owner =
      some (session.opened token component flags (deployment.newChannel manager.timeout).1) := by
  rw [opening, session?_updateSession_self]
  exact congrArg (Option.map _) h

theorem began_eq (deployment : Deployment σ) (owner : Nat) (manager : Manager)
    (session : Session) (token : ActivityToken) (component : ComponentName)
    (flags : CaptureFlags) :
    deployment.began owner manager session token component flags =
      (deployment.opening owner manager token component flags).postRequest owner
        (.startSession ⟨session.id, token, component, flags⟩
          (deployment.newChannel manager.timeout).1) := rfl

theorem announce_eq (deployment : Deployment σ) (owner : Nat) (manager : Manager)
    (session : Session) (token : ActivityToken) (component : ComponentName)
    (flags : CaptureFlags) :
    deployment.announce owner manager session token component flags =
      (deployment.began owner manager session token component flags).sendEvent owner
        (.started token component) .sessionStarted := rfl

/-- A session that is not there is not started. -/
theorem startSession_eq_self {deployment : Deployment σ} {owner : Nat}
    (absent : deployment.session? owner = none) (token : ActivityToken)
    (component : ComponentName) (flags : CaptureFlags) :
    deployment.startSession owner token component flags = deployment := by
  unfold startSession
  split
  · rfl
  · next manager hmanager =>
      have fresh : manager.session = none := (session?_of_manager hmanager).symm.trans absent
      simp [fresh]

/-- A step of an operation on a manager. -/
inductive Elementary (owner : Nat) : Deployment σ → Deployment σ → Prop where
  | join (deployment : Deployment σ) (manager : Manager) (fresh : manager.session = none) :
      Elementary owner deployment (deployment.addManager manager)
  | make (deployment : Deployment σ) {manager : Manager}
      (hmanager : deployment.managers[owner]? = some manager) (fresh : manager.session = none) :
      Elementary owner deployment (deployment.ensureSession owner)
  | mark (deployment : Deployment σ) (change : CaptureFlags → CaptureFlags) :
      Elementary owner deployment
        (deployment.updateManager owner fun manager =>
          { manager with flags := change manager.flags })
  | revise (deployment : Deployment σ) (change : Session → Session)
      (same : ∀ session, (change session).id = session.id) :
      Elementary owner deployment (deployment.updateSession owner change)
  | began (deployment : Deployment σ) {manager : Manager} {session : Session}
      (hmanager : deployment.managers[owner]? = some manager)
      (hsession : manager.session = some session) (token : ActivityToken)
      (component : ComponentName) (flags : CaptureFlags) :
      Elementary owner deployment
        (deployment.began owner manager session token component flags)
  | post (deployment : Deployment σ) {session : Session} {request : Request}
      (hsession : deployment.session? owner = some session)
      (hrequest : request.session? = some session.id) (silent : request.channel? = none) :
      Elementary owner deployment (deployment.postRequest owner request)
  | put (deployment : Deployment σ) (question : Question) :
      Elementary owner deployment (deployment.put owner question)
  | remove (deployment : Deployment σ) {manager : Manager} (removal : RemovalRequest)
      (hmanager : deployment.managers[owner]? = some manager) :
      Elementary owner deployment
        (deployment.ask (some owner) ⟨manager.caller, .removeUserData removal⟩).2

/-- Any number of elementary steps. -/
abbrev Chain (owner : Nat) : Deployment σ → Deployment σ → Prop :=
  Relation.ReflTransGen (Elementary owner)

/-! ## Other sessions -/

theorem put_eq_self {deployment : Deployment σ} {owner : Nat}
    (absent : deployment.managers[owner]? = none) (question : Question) :
    deployment.put owner question = deployment := by
  simp [put, absent]

/-- A question is asked of the service, with a channel of its own. -/
theorem put_eq {deployment : Deployment σ} {owner : Nat} {manager : Manager}
    (hmanager : deployment.managers[owner]? = some manager) (question : Question) :
    deployment.put owner question =
      let (channel, deployment) := deployment.newChannel manager.timeout
      (deployment.ask (some owner) ⟨manager.caller, question.request channel⟩).2 := by
  simp only [put, hmanager, issue]
  split <;> next hasked => exact (congrArg Prod.snd hasked).symm

theorem sequel_put (deployment : Deployment σ) (owner other : Nat) (question : Question) :
    Sequel other [] deployment (deployment.put owner question) := by
  cases hmanager : deployment.managers[owner]? with
  | none =>
      rw [put_eq_self hmanager]
      exact .refl other deployment
  | some manager =>
      rw [put_eq hmanager]
      refine (sequel_newChannel deployment other manager.timeout).trans
        (sequel_ask _ other (some owner) _ ?_)
      cases question <;> rfl

namespace Elementary

variable {owner other : Nat} {first second : Deployment σ}

/-- A step of one manager says nothing about the session of another one. -/
theorem sequel (step : Elementary owner first second) (h : owner ≠ other) :
    Sequel other [] first second := by
  cases step with
  | join manager fresh => exact .of_eq (session?_addManager first fresh other) rfl (.refl _)
  | make hmanager fresh =>
      exact .of_eq (session?_ensureSession_of_ne first h) (journal_ensureSession first owner)
        (exchange_ensureSession first owner ▸ .refl _)
  | mark change => exact .of_eq (session?_mark first owner other change) rfl (.refl _)
  | revise change same => exact sequel_updateSession first h change
  | began hmanager hsession token component flags =>
      exact ((sequel_newChannel first other _).trans
        (sequel_updateSession _ h _)).trans (sequel_postRequest_of_ne _ h _)
  | post hsession hrequest silent => exact sequel_postRequest_of_ne first h _
  | put question => exact sequel_put first owner other question
  | remove removal hmanager => exact sequel_ask first other (some owner) _ rfl

/-- A step leaves a session its id. -/
theorem session_id (step : Elementary owner first second) {session : Session}
    (h : first.session? owner = some session) :
    ∃ later, second.session? owner = some later ∧ later.id = session.id := by
  have ofSequel : ∀ {requests}, Sequel owner requests first second →
      ∃ later, second.session? owner = some later ∧ later.id = session.id := by
    intro requests sequel
    rcases sequel.session with ⟨cut, hcut, -⟩
    exact ⟨session.cutOffIf cut, by rw [hcut, h]; rfl, rfl⟩
  cases step with
  | join manager fresh => exact ⟨session, (session?_addManager first fresh owner).trans h, rfl⟩
  | make hmanager fresh => exact ⟨session, by rw [ensureSession_of_session? h, h], rfl⟩
  | mark change =>
      exact ⟨session, (session?_mark first owner owner change).trans h, rfl⟩
  | revise change same =>
      exact ⟨change session, by rw [session?_updateSession_self, h]; rfl, same session⟩
  | @began manager _ hmanager hsession token component flags =>
      rw [began_eq]
      rcases postRequest_start (session?_opening h manager token component flags)
        ⟨_, token, component, flags⟩ (first.newChannel manager.timeout).1 with ⟨cut, hcut, -⟩
      exact ⟨_, hcut, rfl⟩
  | @post _ request hsession hrequest silent =>
      have notStart : request.start? = none := by
        cases request <;> simp_all [Request.start?, Request.channel?]
      exact ofSequel (sequel_postRequest hsession notStart)
  | put question => exact ofSequel (sequel_put first owner owner question)
  | remove removal hmanager => exact ofSequel (sequel_ask first owner (some owner) _ rfl)

end Elementary

namespace Chain

variable {owner other : Nat} {first second : Deployment σ}

theorem sequel (chain : Chain owner first second) (h : owner ≠ other) :
    Sequel other [] first second := by
  induction chain with
  | refl => exact .refl other first
  | tail _ step inductionHypothesis => exact inductionHypothesis.trans (step.sequel h)

theorem session_id (chain : Chain owner first second) {session : Session}
    (h : first.session? owner = some session) :
    ∃ later, second.session? owner = some later ∧ later.id = session.id := by
  induction chain with
  | refl => exact ⟨session, h, rfl⟩
  | tail _ step inductionHypothesis =>
      rcases inductionHypothesis with ⟨between, hbetween, sameBetween⟩
      rcases step.session_id hbetween with ⟨later, hlater, same⟩
      exact ⟨later, hlater, same.trans sameBetween⟩

theorem keeps {property : Deployment σ → Prop} (chain : Chain owner first second)
    (step : ∀ first second, Elementary owner first second → property first → property second)
    (holds : property first) : property second := by
  induction chain with
  | refl => exact holds
  | tail _ last inductionHypothesis => exact step _ _ last inductionHypothesis

end Chain

/-! ## Operations as chains -/

theorem chain_poll (deployment : Deployment σ) (owner : Nat) :
    Chain owner deployment (deployment.poll owner) :=
  .single (.revise deployment _ (Session.id_polled deployment.exchange))

theorem chain_sendBuffer (deployment : Deployment σ) (owner : Nat) (reason : FlushReason) :
    Chain owner deployment (deployment.sendBuffer owner reason) := by
  have polled := deployment.chain_poll owner
  simp only [sendBuffer]
  split
  · exact polled
  · next session hsession =>
      have emptied : Chain owner deployment
          ((deployment.poll owner).updateSession owner Session.emptied) :=
        polled.tail (.revise _ Session.emptied fun _ => rfl)
      have hemptied : ((deployment.poll owner).updateSession owner Session.emptied).session? owner =
          some session.emptied := by
        rw [session?_updateSession_self, hsession]
        rfl
      split
      · exact emptied
      · split
        · exact polled
        · exact emptied.tail (.post _ hemptied rfl rfl)

theorem chain_sendEvent (deployment : Deployment σ) (owner : Nat) (kind : EventKind)
    (reason : FlushReason) :
    Chain owner deployment (deployment.sendEvent owner kind reason) :=
  .head
    (.revise deployment (fun session => session.recorded deployment.exchange.now.milliseconds kind)
      fun _ => rfl)
    (chain_sendBuffer _ owner reason)

theorem chain_startSession (deployment : Deployment σ) (owner : Nat) (token : ActivityToken)
    (component : ComponentName) (flags : CaptureFlags) :
    Chain owner deployment (deployment.startSession owner token component flags) := by
  unfold startSession
  split
  · exact .refl
  · next manager hmanager =>
      split
      · exact .refl
      · next session hsession =>
          split
          · exact .refl
          · split
            · exact .single (.revise deployment _ fun _ => rfl)
            · rw [announce_eq]
              exact .head (.began deployment hmanager hsession token component flags)
                (chain_sendEvent _ owner _ _)

theorem chain_flushSession (deployment : Deployment σ) (owner : Nat) (reason : FlushReason) :
    Chain owner deployment (deployment.flushSession owner reason) := by
  unfold flushSession
  split
  · exact .refl
  · split
    · exact deployment.chain_sendBuffer owner reason
    · exact .refl

theorem chain_closeSession {deployment : Deployment σ} {owner : Nat} {session : Session}
    (hsession : deployment.session? owner = some session) :
    Chain owner deployment (deployment.closeSession owner session) := by
  have polled := deployment.chain_poll owner
  have reported : Chain owner deployment
      (if ((deployment.poll owner).session? owner).any fun session => !session.disabled then
        (deployment.poll owner).sendEvent owner .finished .sessionFinished
      else deployment.poll owner) := by
    split
    · exact polled.trans (chain_sendEvent _ owner _ _)
    · exact polled
  rcases reported.session_id hsession with ⟨later, hlater, same⟩
  refine .tail ?_ (.revise _ Session.closed fun _ => rfl)
  split
  · exact reported.tail (.post _ hlater (congrArg some same.symm) rfl)
  · exact reported

theorem chain_destroySession (deployment : Deployment σ) (owner : Nat) :
    Chain owner deployment (deployment.destroySession owner) := by
  unfold destroySession
  split
  · exact .refl
  · next hsession =>
      split
      · exact chain_closeSession hsession
      · exact .single (.revise deployment _ fun _ => rfl)

theorem chain_ensureSession (deployment : Deployment σ) (owner : Nat) :
    Chain owner deployment (deployment.ensureSession owner) := by
  cases hmanager : deployment.managers[owner]? with
  | none =>
      rw [ensureSession_eq_self hmanager]
  | some manager =>
      cases hsession : manager.session with
      | none => exact .single (.make deployment hmanager hsession)
      | some session =>
          have there : deployment.session? owner = some session :=
            (session?_of_manager hmanager).trans hsession
          rw [ensureSession_of_session? there]

theorem chain_onStart (deployment : Deployment σ) (owner : Nat) (token : ActivityToken)
    (component : ComponentName) (flags : CaptureFlags) :
    Chain owner deployment (deployment.onStart owner token component flags).2 := by
  unfold onStart
  split
  · exact .refl
  · exact .head (.mark deployment fun before => before.merge flags)
      ((chain_ensureSession _ owner).trans (chain_startSession _ owner token component _))

theorem chain_asking (deployment : Deployment σ) (owner : Nat) (question : Question) :
    Chain owner deployment (deployment.asking owner question) := by
  cases question with
  | serviceComponentName =>
      have polled := deployment.chain_poll owner
      unfold asking isEnabled
      simp only
      split
      · exact polled.tail (.put _ .serviceComponentName)
      · exact polled
  | featureEnabled => exact .single (.put deployment _)
  | setFeatureEnabled enabled => exact .single (.put deployment _)

theorem chain_removeUserData (deployment : Deployment σ) (owner : Nat) (removal : RemovalRequest) :
    Chain owner deployment (deployment.removeUserData owner removal).2 := by
  unfold removeUserData
  split
  · exact .refl
  · split
    · exact .refl
    · next manager hmanager =>
        have asked : Chain owner deployment
            (deployment.ask (some owner) ⟨manager.caller, .removeUserData removal⟩).2 :=
          .single (.remove deployment removal hmanager)
        split <;> next hasked => simpa only [hasked] using asked

/-- An operation is a chain of elementary steps of its manager. -/
theorem chain_perform (deployment : Deployment σ) (operation : Operation) {owner : Nat}
    (h : ∀ who ∈ operation.owner?, who = owner) :
    Chain owner deployment (deployment.perform operation) := by
  cases operation with
  | join context caller timeout dispatcher => exact .single (.join deployment _ rfl)
  | ensureSession who => exact h who rfl ▸ deployment.chain_ensureSession who
  | onStart who token component flags =>
      exact h who rfl ▸ deployment.chain_onStart who token component flags
  | onStop who =>
      exact h who rfl ▸ (deployment.chain_ensureSession who).trans (chain_destroySession _ who)
  | flush who reason =>
      exact h who rfl ▸ (deployment.chain_ensureSession who).trans
        (chain_flushSession _ who reason)
  | setEnabled who enabled =>
      exact h who rfl ▸ .single (.mark deployment fun flags =>
        if enabled then flags.remove .disabledByApp else flags.merge .disabledByApp)
  | removeUserData who removal => exact h who rfl ▸ deployment.chain_removeUserData who removal
  | ask who question => exact h who rfl ▸ deployment.chain_asking who question
  | isEnabled who => exact h who rfl ▸ deployment.chain_poll who
  | report who => exact h who rfl ▸ deployment.chain_poll who
  | observeSession who => exact h who rfl ▸ deployment.chain_poll who
  | sessionReport who => exact h who rfl ▸ deployment.chain_poll who
  | startSession who token component flags =>
      exact h who rfl ▸ deployment.chain_startSession who token component flags
  | flushSession who reason => exact h who rfl ▸ deployment.chain_flushSession who reason
  | destroySession who => exact h who rfl ▸ deployment.chain_destroySession who

theorem exists_chain_perform (deployment : Deployment σ) (operation : Operation) :
    ∃ owner, Chain owner deployment (deployment.perform operation) := by
  refine ⟨operation.owner?.getD 0, deployment.chain_perform operation fun who hwho => ?_⟩
  rw [hwho]
  rfl

/-! ## Runs -/

/-- What every kind of step keeps is kept by an event. -/
theorem after_keeps [Autonomous σ] {property : Deployment σ → Prop}
    (elementary : ∀ owner first second, Elementary owner first second → property first →
      property second)
    (work : ∀ deployment dispatcher, property deployment → property (deployment.work dispatcher))
    (acted : ∀ deployment act, property deployment → property (deployment.acted act))
    (elapse : ∀ (deployment : Deployment σ) now, property deployment →
      property { deployment with exchange := deployment.exchange.reached now })
    {deployment : Deployment σ} (event : Event σ) (holds : property deployment) :
    property (deployment.after event) := by
  cases event with
  | operation operation =>
      rcases deployment.exists_chain_perform operation with ⟨owner, chain⟩
      exact chain.keeps (elementary owner) holds
  | work dispatcher => exact work deployment dispatcher holds
  | act act => exact acted deployment act holds
  | elapse now => exact elapse deployment now holds

end Deployment
end ContentCapture
