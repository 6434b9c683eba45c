import ContentCapture.Proofs.Elementary
import ContentCapture.Proofs.Standing

namespace ContentCapture

/-!
# Outlines

Whether an operation begins a cycle depends on little: on the flags of the manager, and
on whether its session is there and is started.  That is the outline of a deployment.
What an operation does to it can be told without the service, without the dispatchers
and without any reply.

Nothing but operations changes an outline.
-/

/-- What operations make of a manager. -/
structure ManagerOutline where
  dispatcher : Nat
  flags : CaptureFlags
  session : Option (SessionId × Lifecycle)
  deriving DecidableEq, Repr

/-- What operations make of the managers, and the id of the next session. -/
structure Outline where
  managers : List ManagerOutline
  nextSession : SessionId
  deriving DecidableEq, Repr

namespace Outline

def update (outline : Outline) (owner : Nat) (change : ManagerOutline → ManagerOutline) :
    Outline :=
  { outline with managers := outline.managers.modify owner change }

def mark (outline : Outline) (owner : Nat) (change : CaptureFlags → CaptureFlags) : Outline :=
  outline.update owner fun manager => { manager with flags := change manager.flags }

/-- Puts the session of a manager in a phase of its life, if there is one. -/
def enter (outline : Outline) (owner : Nat) (lifecycle : Lifecycle) : Outline :=
  outline.update owner fun manager =>
    { manager with session := manager.session.map fun (id, _) => (id, lifecycle) }

def ensure (outline : Outline) (owner : Nat) : Outline :=
  match outline.managers[owner]? with
  | none => outline
  | some manager =>
      match manager.session with
      | some _ => outline
      | none =>
          let made := outline.update owner fun manager =>
            { manager with session := some (outline.nextSession, .created) }
          { made with nextSession := ⟨outline.nextSession.value + 1⟩ }

def after (outline : Outline) : Operation → Outline
  | .join _ _ _ dispatcher =>
      { outline with managers := outline.managers ++ [⟨dispatcher, .empty, none⟩] }
  | .ensureSession owner => outline.ensure owner
  | .onStart owner token component flags =>
      match Deployment.startFault? token component with
      | some _ => outline
      | none => ((outline.mark owner fun before => before.merge flags).ensure owner).enter owner
          .started
  | .onStop owner => (outline.ensure owner).enter owner .destroyed
  | .flush owner _ => outline.ensure owner
  | .setEnabled owner enabled =>
      outline.mark owner fun flags =>
        if enabled then flags.remove .disabledByApp else flags.merge .disabledByApp
  | .startSession owner _ _ _ => outline.enter owner .started
  | .destroySession owner => outline.enter owner .destroyed
  | _ => outline

end Outline

def Manager.outline (manager : Manager) : ManagerOutline :=
  ⟨manager.dispatcher, manager.flags,
    manager.session.map fun session => (session.id, session.lifecycle)⟩

namespace Deployment

variable {σ : Type}

def outline (deployment : Deployment σ) : Outline :=
  ⟨deployment.managers.map Manager.outline, deployment.nextSession⟩

theorem outline_managers (deployment : Deployment σ) (owner : Nat) :
    deployment.outline.managers[owner]? = (deployment.managers[owner]?).map Manager.outline :=
  List.getElem?_map

/-! ## Changes of managers -/

theorem outline_updateManager (deployment : Deployment σ) (owner : Nat)
    (change : Manager → Manager) (sketch : ManagerOutline → ManagerOutline)
    (same : ∀ manager, (change manager).outline = sketch manager.outline) :
    (deployment.updateManager owner change).outline = deployment.outline.update owner sketch := by
  have managers : (deployment.managers.modify owner change).map Manager.outline =
      (deployment.managers.map Manager.outline).modify owner sketch := by
    ext1 index
    simp only [List.getElem?_map, List.getElem?_modify]
    cases deployment.managers[index]? with
    | none => rfl
    | some manager => by_cases h : owner = index <;> simp [h, same]
  simp only [outline, updateManager, Outline.update, managers]

/-- A change of a session that is not one of its phases. -/
theorem outline_updateSession (deployment : Deployment σ) (owner : Nat)
    (change : Session → Session) (sameId : ∀ session, (change session).id = session.id)
    (lifecycle : ∀ session, (change session).lifecycle = session.lifecycle) :
    (deployment.updateSession owner change).outline = deployment.outline := by
  have same : ∀ manager : Manager, (manager.withSession change).outline = manager.outline := by
    intro manager
    cases hsession : manager.session <;>
      simp [Manager.outline, Manager.withSession, hsession, sameId, lifecycle]
  rw [updateSession, deployment.outline_updateManager owner _ id same]
  simp [Outline.update]

/-- A change of a session that is one. -/
theorem outline_updateSession_enter (deployment : Deployment σ) (owner : Nat)
    (change : Session → Session) {lifecycle : Lifecycle}
    (sameId : ∀ session, (change session).id = session.id)
    (enters : ∀ session, (change session).lifecycle = lifecycle) :
    (deployment.updateSession owner change).outline = deployment.outline.enter owner lifecycle := by
  apply outline_updateManager
  intro manager
  cases hsession : manager.session <;>
    simp [Manager.outline, Manager.withSession, hsession, sameId, enters]

/-- A session enters a phase in which it is, or that of a manager without a session. -/
theorem enter_eq_self {deployment : Deployment σ} {owner : Nat} {lifecycle : Lifecycle}
    (already : ∀ session, deployment.session? owner = some session →
      session.lifecycle = lifecycle) :
    deployment.outline.enter owner lifecycle = deployment.outline := by
  have managers : (deployment.managers.map Manager.outline).modify owner (fun manager =>
      { manager with session := manager.session.map fun (id, _) => (id, lifecycle) }) =
        deployment.managers.map Manager.outline := by
    ext1 index
    simp only [List.getElem?_modify, List.getElem?_map]
    cases hmanager : deployment.managers[index]? with
    | none => rfl
    | some manager =>
        by_cases h : owner = index
        · subst h
          cases hsession : manager.session with
          | none => simp [Manager.outline, hsession]
          | some session =>
              have same := already session ((session?_of_manager hmanager).trans hsession)
              simp [Manager.outline, hsession, same]
        · simp [h]
  simp only [Outline.enter, Outline.update, outline, managers]

theorem outline_addManager (deployment : Deployment σ) (manager : Manager) :
    (deployment.addManager manager).outline =
      { deployment.outline with
        managers := deployment.outline.managers ++ [manager.outline] } := by
  simp [outline, addManager]

theorem outline_poll (deployment : Deployment σ) (owner : Nat) :
    (deployment.poll owner).outline = deployment.outline :=
  outline_updateSession deployment owner _ (Session.id_polled _) (Session.lifecycle_polled _)

theorem outline_ensureSession (deployment : Deployment σ) (owner : Nat) :
    (deployment.ensureSession owner).outline = deployment.outline.ensure owner := by
  unfold ensureSession Outline.ensure
  rw [outline_managers]
  cases hmanager : deployment.managers[owner]? with
  | none => rfl
  | some manager =>
      cases hsession : manager.session with
      | some session => simp [Manager.outline, hsession]
      | none =>
          have made := deployment.outline_updateManager owner
            (fun manager => { manager with session := some { id := deployment.nextSession } })
            (fun manager =>
              { manager with session := some (deployment.outline.nextSession, .created) })
            fun _ => rfl
          simp only [Option.map_some, Manager.outline, hsession, Option.map_none]
          exact congrArg (fun outline : Outline =>
            { outline with nextSession := ⟨deployment.nextSession.value + 1⟩ }) made

/-- Whether an operation begins a cycle, and which, is told by the outline. -/
theorem opening?_congr {first second : Deployment σ} (same : first.outline = second.outline)
    (owner : Nat) (operation : Operation) :
    first.opening? owner operation = second.opening? owner operation := by
  have managers : (first.managers[owner]?).map Manager.outline =
      (second.managers[owner]?).map Manager.outline := by
    rw [← outline_managers, ← outline_managers, same]
  cases hfirst : first.managers[owner]? with
  | none =>
      rw [hfirst, Option.map_none, eq_comm, Option.map_eq_none_iff] at managers
      cases operation <;> simp [opening?, session?, hfirst, managers]
  | some manager =>
      rw [hfirst, Option.map_some, eq_comm, Option.map_eq_some_iff] at managers
      rcases managers with ⟨other, hsecond, alike⟩
      have flags : other.flags = manager.flags := congrArg ManagerOutline.flags alike
      have sessions := congrArg ManagerOutline.session alike
      cases hsession : manager.session with
      | none =>
          have fresh : other.session = none := by simpa [Manager.outline, hsession] using sessions
          cases operation <;> simp [opening?, session?, hfirst, hsecond, hsession, fresh, flags]
      | some session =>
          rw [Manager.outline, Manager.outline, hsession, Option.map_some,
            Option.map_eq_some_iff] at sessions
          rcases sessions with ⟨twin, htwin, phases⟩
          have lifecycle : twin.lifecycle = session.lifecycle := congrArg Prod.snd phases
          cases operation <;>
            simp [opening?, session?, hfirst, hsecond, hsession, htwin, flags, lifecycle]

theorem map_id_congr {first second : Deployment σ} (same : first.outline = second.outline)
    (owner : Nat) :
    (first.session? owner).map Session.id = (second.session? owner).map Session.id := by
  have ids : ∀ deployment : Deployment σ, (deployment.session? owner).map Session.id =
      (deployment.outline.managers[owner]?).bind fun manager => manager.session.map Prod.fst := by
    intro deployment
    rw [outline_managers, session?]
    cases deployment.managers[owner]? with
    | none => rfl
    | some manager => cases hsession : manager.session <;> simp [Manager.outline, hsession]
  rw [ids, ids, same]

variable [Service σ]

/-! ## Steps that leave the outline alone -/

theorem outline_run (deployment : Deployment σ) (job : Job) :
    (deployment.run job).outline = deployment.outline := by
  rw [run_eq]
  split
  · exact outline_updateSession _ job.owner _ (fun _ => rfl) (fun _ => rfl)
  · rfl

theorem outline_post (deployment : Deployment σ) (dispatcher : Nat) (job : Job) :
    (deployment.post dispatcher job).outline = deployment.outline := by
  simp only [post]
  split
  · rfl
  · split
    · exact outline_run _ job
    · rfl
    · rfl

theorem outline_postRequest (deployment : Deployment σ) (owner : Nat) (request : Request) :
    (deployment.postRequest owner request).outline = deployment.outline := by
  unfold postRequest
  split
  · rfl
  · exact deployment.outline_post _ _

theorem outline_work (deployment : Deployment σ) (dispatcher : Nat) :
    (deployment.work dispatcher).outline = deployment.outline := by
  unfold work
  split
  · rfl
  · exact outline_run _ _

theorem outline_sendBuffer (deployment : Deployment σ) (owner : Nat) (reason : FlushReason) :
    (deployment.sendBuffer owner reason).outline = deployment.outline := by
  have polled := deployment.outline_poll owner
  have emptied : ((deployment.poll owner).updateSession owner Session.emptied).outline =
      deployment.outline :=
    (outline_updateSession _ owner Session.emptied (fun _ => rfl) (fun _ => rfl)).trans polled
  simp only [sendBuffer]
  split
  · exact polled
  · split
    · exact emptied
    · split
      · exact polled
      · exact (outline_postRequest _ owner _).trans emptied

theorem outline_sendEvent (deployment : Deployment σ) (owner : Nat) (kind : EventKind)
    (reason : FlushReason) :
    (deployment.sendEvent owner kind reason).outline = deployment.outline :=
  (outline_sendBuffer _ owner reason).trans
    (outline_updateSession _ owner _ (fun _ => rfl) (fun _ => rfl))

theorem outline_flushSession (deployment : Deployment σ) (owner : Nat) (reason : FlushReason) :
    (deployment.flushSession owner reason).outline = deployment.outline := by
  unfold flushSession
  split
  · rfl
  · split
    · exact deployment.outline_sendBuffer owner reason
    · rfl

theorem outline_put (deployment : Deployment σ) (owner : Nat) (question : Question) :
    (deployment.put owner question).outline = deployment.outline := by
  cases hmanager : deployment.managers[owner]? with
  | none => rw [put_eq_self hmanager]
  | some manager =>
      rw [put_eq hmanager]
      rfl

theorem outline_asking (deployment : Deployment σ) (owner : Nat) (question : Question) :
    (deployment.asking owner question).outline = deployment.outline := by
  cases question with
  | serviceComponentName =>
      have polled := deployment.outline_poll owner
      unfold asking isEnabled
      simp only
      split
      · exact (outline_put _ owner _).trans polled
      · exact polled
  | featureEnabled => exact deployment.outline_put owner _
  | setFeatureEnabled enabled => exact deployment.outline_put owner _

theorem outline_removeUserData (deployment : Deployment σ) (owner : Nat)
    (removal : RemovalRequest) :
    (deployment.removeUserData owner removal).2.outline = deployment.outline := by
  unfold removeUserData
  split
  · rfl
  · split
    · rfl
    · next manager _ =>
        have asked : (deployment.ask (some owner)
            ⟨manager.caller, .removeUserData removal⟩).2.outline = deployment.outline := rfl
        split <;> next hasked => simpa only [hasked] using asked

/-! ## Operations -/

theorem outline_startSession (deployment : Deployment σ) (owner : Nat) (token : ActivityToken)
    (component : ComponentName) (flags : CaptureFlags) :
    (deployment.startSession owner token component flags).outline =
      deployment.outline.enter owner .started := by
  cases hsession : deployment.session? owner with
  | none =>
      rw [startSession_eq_self hsession, enter_eq_self (by simp [hsession])]
  | some session =>
      rcases manager_of_session? hsession with ⟨manager, hmanager, hown⟩
      simp only [startSession, hmanager, hown]
      by_cases started : session.lifecycle = .started
      · rw [if_pos started, enter_eq_self]
        intro found hfound
        rw [hsession, Option.some_inj] at hfound
        exact hfound ▸ started
      · rw [if_neg started]
        split
        · exact outline_updateSession_enter _ owner _ (fun _ => rfl) fun _ => rfl
        · rw [announce_eq, outline_sendEvent, began_eq, outline_postRequest]
          exact outline_updateSession_enter _ owner _ (fun _ => rfl) fun _ => rfl

theorem outline_destroySession (deployment : Deployment σ) (owner : Nat) :
    (deployment.destroySession owner).outline = deployment.outline.enter owner .destroyed := by
  unfold destroySession
  split
  · next absent => rw [enter_eq_self (by simp [absent])]
  · next session hsession =>
      split
      · have reported : ∀ told : Deployment σ,
            (if (told.session? owner).any fun session => !session.disabled then
              told.sendEvent owner .finished .sessionFinished else told).outline =
                told.outline := by
          intro told
          split
          · exact outline_sendEvent _ owner _ _
          · rfl
        have finished : ∀ told : Deployment σ,
            (if session.announced then told.postRequest owner (.finishSession session.id)
              else told).outline = told.outline := by
          intro told
          split
          · exact outline_postRequest _ owner _
          · rfl
        simp only [closeSession]
        rw [outline_updateSession_enter _ owner Session.closed (fun _ => rfl) fun _ => rfl,
          finished, reported, outline_poll]
      · exact outline_updateSession_enter _ owner Session.retired (fun _ => rfl) fun _ => rfl

theorem outline_onStart (deployment : Deployment σ) (owner : Nat) (token : ActivityToken)
    (component : ComponentName) (flags : CaptureFlags) :
    (deployment.onStart owner token component flags).2.outline =
      deployment.outline.after (.onStart owner token component flags) := by
  simp only [onStart, Outline.after]
  cases hfault : startFault? token component with
  | some fault => simp only
  | none =>
      have marked := deployment.outline_updateManager owner
        (fun manager => { manager with flags := manager.flags.merge flags })
        (fun manager => { manager with flags := manager.flags.merge flags }) fun _ => rfl
      simp only [outline_startSession, outline_ensureSession, marked]
      rfl

/-- What an operation does to the outline is told by the outline. -/
theorem outline_perform (deployment : Deployment σ) (operation : Operation) :
    (deployment.perform operation).outline = deployment.outline.after operation := by
  cases operation with
  | join context caller timeout dispatcher => exact outline_addManager deployment _
  | ensureSession owner => exact deployment.outline_ensureSession owner
  | onStart owner token component flags =>
      exact deployment.outline_onStart owner token component flags
  | onStop owner =>
      exact (outline_destroySession _ owner).trans
        (congrArg (Outline.enter · owner .destroyed) (deployment.outline_ensureSession owner))
  | flush owner reason =>
      exact (outline_flushSession _ owner reason).trans (deployment.outline_ensureSession owner)
  | setEnabled owner enabled => exact deployment.outline_updateManager owner _ _ fun _ => rfl
  | removeUserData owner removal => exact deployment.outline_removeUserData owner removal
  | ask owner question => exact deployment.outline_asking owner question
  | isEnabled owner => exact deployment.outline_poll owner
  | report owner => exact deployment.outline_poll owner
  | observeSession owner => exact deployment.outline_poll owner
  | sessionReport owner => exact deployment.outline_poll owner
  | startSession owner token component flags =>
      exact deployment.outline_startSession owner token component flags
  | flushSession owner reason => exact deployment.outline_flushSession owner reason
  | destroySession owner => exact deployment.outline_destroySession owner

end Deployment
end ContentCapture
