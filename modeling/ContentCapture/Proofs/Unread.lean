import ContentCapture.Proofs.Lockstep

namespace ContentCapture

/-!
# Flags that nobody reads

The flags of a manager are read by its starts and by nothing else: not by a job, not by an
observer, not by the end of a cycle, and not by what is done to other managers.  So a step
that is not a start commutes with a change of the flags.  Two deployments that differ in the
flags of a manager differ in nothing else until a start of that manager takes effect.

Each lemma here says of one step that it may be taken before the flags are changed or after.
-/

namespace Deployment

variable {σ : Type}

/-- The deployment with other flags for a manager. -/
def flagged (deployment : Deployment σ) (owner : Nat) (flags : CaptureFlags) : Deployment σ :=
  deployment.updateManager owner fun manager => { manager with flags := flags }

variable (deployment : Deployment σ) (owner : Nat) (flags : CaptureFlags)

/-! ## What is not changed -/

theorem managers_flagged (other : Nat) :
    (deployment.flagged owner flags).managers[other]? =
      (deployment.managers[other]?).map fun manager =>
        if owner = other then { manager with flags := flags } else manager := by
  simp only [flagged, updateManager, List.getElem?_modify]
  cases deployment.managers[other]? with
  | none => rfl
  | some manager => by_cases h : owner = other <;> simp [h]

theorem managers_flagged_self :
    (deployment.flagged owner flags).managers[owner]? =
      (deployment.managers[owner]?).map fun manager => { manager with flags := flags } := by
  simp [managers_flagged]

theorem session?_flagged (other : Nat) :
    (deployment.flagged owner flags).session? other = deployment.session? other := by
  simp only [session?, managers_flagged]
  cases deployment.managers[other]? with
  | none => rfl
  | some manager => by_cases h : owner = other <;> simp [h]

/-- The flags that were set last are the ones that count. -/
@[simp] theorem flagged_flagged (later : CaptureFlags) :
    (deployment.flagged owner flags).flagged owner later = deployment.flagged owner later := by
  simp only [flagged, updateManager, List.modify_modify_eq]
  rfl

variable {deployment owner}

/-- To change the flags of a manager that is there is to set them. -/
theorem mark_eq {manager : Manager} (there : deployment.managers[owner]? = some manager)
    (change : CaptureFlags → CaptureFlags) :
    (deployment.updateManager owner fun manager =>
      { manager with flags := change manager.flags }) =
      deployment.flagged owner (change manager.flags) := by
  have managers : (deployment.managers.modify owner fun manager =>
        { manager with flags := change manager.flags }) =
      deployment.managers.modify owner fun other =>
        { other with flags := change manager.flags } := by
    ext1 index
    rw [List.getElem?_modify, List.getElem?_modify]
    by_cases h : owner = index
    · subst h
      simp [there]
    · simp [h]
  simp only [flagged, updateManager, managers]

theorem flagged_eq_self {manager : Manager}
    (there : deployment.managers[owner]? = some manager) :
    deployment.flagged owner manager.flags = deployment := by
  have same : deployment.managers.modify owner id = deployment.managers := List.modify_id owner _
  calc deployment.flagged owner manager.flags
      = { deployment with managers := deployment.managers.modify owner id } :=
        (mark_eq there fun flags => flags).symm
    _ = deployment := by rw [same]

variable (deployment owner)

/-! ## Changes of managers and sessions -/

/-- A change of another manager, or one that does not mind the flags. -/
theorem updateManager_flagged (who : Nat) (change : Manager → Manager)
    (blind : owner = who → ∀ manager, change { manager with flags := flags } =
      { change manager with flags := flags }) :
    (deployment.flagged owner flags).updateManager who change =
      (deployment.updateManager who change).flagged owner flags := by
  have managers : (deployment.managers.modify owner
        (fun manager => { manager with flags := flags })).modify who change =
      (deployment.managers.modify who change).modify owner
        (fun manager => { manager with flags := flags }) := by
    ext1 index
    simp only [List.getElem?_modify]
    cases deployment.managers[index]? with
    | none => rfl
    | some manager =>
        by_cases own : owner = index
        · by_cases theirs : who = index
          · simp [own, theirs, blind (own.trans theirs.symm)]
          · simp [own, theirs]
        · by_cases theirs : who = index <;> simp [own, theirs]
  simp only [flagged, updateManager, managers]

theorem updateSession_flagged (who : Nat) (change : Session → Session) :
    (deployment.flagged owner flags).updateSession who change =
      (deployment.updateSession who change).flagged owner flags :=
  updateManager_flagged deployment owner flags who _ fun _ _ => rfl

theorem poll_flagged (who : Nat) :
    (deployment.flagged owner flags).poll who = (deployment.poll who).flagged owner flags :=
  updateSession_flagged deployment owner flags who _

/-- A manager that joins is not the one whose flags are changed, if that one is there. -/
theorem addManager_flagged {manager : Manager}
    (there : deployment.managers[owner]? = some manager) (newcomer : Manager) :
    (deployment.flagged owner flags).addManager newcomer =
      (deployment.addManager newcomer).flagged owner flags := by
  have inside : owner < deployment.managers.length := (List.getElem?_eq_some_iff.mp there).1
  have managers : deployment.managers.modify owner
        (fun manager => { manager with flags := flags }) ++ [newcomer] =
      (deployment.managers ++ [newcomer]).modify owner
        (fun manager => { manager with flags := flags }) := by
    ext1 index
    simp only [List.getElem?_append, List.getElem?_modify, List.length_modify]
    by_cases old : index < deployment.managers.length
    · simp [old]
    · have other : owner ≠ index := by omega
      simp [old, other]
  simp only [flagged, addManager, updateManager, managers]

/-- At the place of a manager is the same manager, perhaps with other flags. -/
theorem exists_flagged {who : Nat} {manager : Manager}
    (there : deployment.managers[who]? = some manager) :
    ∃ marked, (deployment.flagged owner flags).managers[who]? =
      some { manager with flags := marked } := by
  by_cases own : owner = who
  · exact ⟨flags, by simp [managers_flagged, there, own]⟩
  · exact ⟨manager.flags, by simp [managers_flagged, there, own]⟩

theorem absent_flagged {who : Nat} (absent : deployment.managers[who]? = none) :
    (deployment.flagged owner flags).managers[who]? = none := by
  simp [managers_flagged, absent]

theorem ensureSession_flagged (who : Nat) :
    (deployment.flagged owner flags).ensureSession who =
      (deployment.ensureSession who).flagged owner flags := by
  cases hmanager : deployment.managers[who]? with
  | none =>
      rw [ensureSession_eq_self hmanager,
        ensureSession_eq_self (deployment.absent_flagged owner flags hmanager)]
  | some manager =>
      obtain ⟨marked, hmarked⟩ := deployment.exists_flagged owner flags hmanager
      cases hsession : manager.session with
      | some session => simp [ensureSession, hmanager, hmarked, hsession]
      | none =>
          have made := deployment.updateManager_flagged owner flags who
            (fun manager => { manager with session := some { id := deployment.nextSession } })
            fun _ _ => rfl
          simp only [ensureSession, hmanager, hmarked, hsession]
          exact congrArg (fun made : Deployment σ =>
            { made with nextSession := ⟨deployment.nextSession.value + 1⟩ }) made

variable [Service σ]

/-! ## Jobs -/

theorem run_flagged (job : Job) :
    (deployment.flagged owner flags).run job = (deployment.run job).flagged owner flags := by
  have line : (deployment.flagged owner flags).runLine job = deployment.runLine job := rfl
  rw [run_eq, run_eq, line]
  split
  · exact updateSession_flagged (deployment.ask (some job.owner) ⟨job.caller, job.request⟩).2
      owner flags job.owner Session.cutOff
  · rfl

theorem post_flagged (dispatcher : Nat) (job : Job) :
    (deployment.flagged owner flags).post dispatcher job =
      (deployment.post dispatcher job).flagged owner flags := by
  have ran := run_flagged (deployment.noted (.posted job)) owner flags job
  have same : ((deployment.flagged owner flags).noted (.posted job)).dispatchers =
      (deployment.noted (.posted job)).dispatchers := rfl
  simp only [post, same]
  split
  · rfl
  · split
    · exact ran
    · rfl
    · rfl

theorem postRequest_flagged (who : Nat) (request : Request) :
    (deployment.flagged owner flags).postRequest who request =
      (deployment.postRequest who request).flagged owner flags := by
  cases hmanager : deployment.managers[who]? with
  | none =>
      have absent := deployment.absent_flagged owner flags hmanager
      simp only [postRequest, hmanager, absent]
  | some manager =>
      obtain ⟨marked, hmarked⟩ := deployment.exists_flagged owner flags hmanager
      simp only [postRequest, hmanager, hmarked]
      exact deployment.post_flagged owner flags manager.dispatcher _

theorem work_flagged (dispatcher : Nat) :
    (deployment.flagged owner flags).work dispatcher =
      (deployment.work dispatcher).flagged owner flags := by
  have same : (deployment.flagged owner flags).dispatchers = deployment.dispatchers := rfl
  cases hpopped : (deployment.dispatchers[dispatcher]?).bind Dispatcher.pop? with
  | none => simp only [work, same, hpopped]
  | some popped =>
      rcases popped with ⟨job, queue⟩
      simp only [work, same, hpopped]
      exact run_flagged { deployment with
        dispatchers := deployment.dispatchers.set dispatcher queue } owner flags job

/-! ## Sessions -/

theorem sendBuffer_flagged (who : Nat) (reason : FlushReason) :
    (deployment.flagged owner flags).sendBuffer who reason =
      (deployment.sendBuffer who reason).flagged owner flags := by
  simp only [sendBuffer, poll_flagged, session?_flagged]
  split
  · rfl
  · split
    · exact updateSession_flagged _ owner flags who Session.emptied
    · split
      · rfl
      · rw [updateSession_flagged, postRequest_flagged]

theorem sendEvent_flagged (who : Nat) (kind : EventKind) (reason : FlushReason) :
    (deployment.flagged owner flags).sendEvent who kind reason =
      (deployment.sendEvent who kind reason).flagged owner flags := by
  simp only [sendEvent, updateSession_flagged, sendBuffer_flagged]
  rfl

omit [Service σ] in
theorem opening_flagged (who : Nat) {manager twin : Manager}
    (timeout : twin.timeout = manager.timeout) (token : ActivityToken)
    (component : ComponentName) (given : CaptureFlags) :
    (deployment.flagged owner flags).opening who twin token component given =
      (deployment.opening who manager token component given).flagged owner flags := by
  rw [opening, timeout]
  exact updateSession_flagged (deployment.newChannel manager.timeout).2 owner flags who _

/-- A session is started with the flags that it is given. -/
theorem startSession_flagged (who : Nat) (token : ActivityToken) (component : ComponentName)
    (given : CaptureFlags) :
    (deployment.flagged owner flags).startSession who token component given =
      (deployment.startSession who token component given).flagged owner flags := by
  cases hmanager : deployment.managers[who]? with
  | none =>
      have absent := deployment.absent_flagged owner flags hmanager
      simp only [startSession, hmanager, absent]
  | some manager =>
      obtain ⟨marked, hmarked⟩ := deployment.exists_flagged owner flags hmanager
      simp only [startSession, hmanager, hmarked]
      split
      · rfl
      · next session hsession =>
          split
          · rfl
          · split
            · exact updateSession_flagged deployment owner flags who _
            · rw [announce_eq, announce_eq, began_eq, began_eq, ← sendEvent_flagged,
                ← postRequest_flagged, ← opening_flagged deployment owner flags who rfl]
              rfl

theorem flushSession_flagged (who : Nat) (reason : FlushReason) :
    (deployment.flagged owner flags).flushSession who reason =
      (deployment.flushSession who reason).flagged owner flags := by
  simp only [flushSession, session?_flagged]
  split
  · rfl
  · split
    · exact deployment.sendBuffer_flagged owner flags who reason
    · rfl

theorem closeSession_flagged (who : Nat) (session : Session) :
    (deployment.flagged owner flags).closeSession who session =
      (deployment.closeSession who session).flagged owner flags := by
  simp only [closeSession, poll_flagged, session?_flagged]
  split <;> split <;>
    simp only [sendEvent_flagged, postRequest_flagged, updateSession_flagged]

theorem destroySession_flagged (who : Nat) :
    (deployment.flagged owner flags).destroySession who =
      (deployment.destroySession who).flagged owner flags := by
  simp only [destroySession, session?_flagged]
  split
  · rfl
  · split
    · exact deployment.closeSession_flagged owner flags who _
    · exact deployment.updateSession_flagged owner flags who Session.retired

/-! ## Observers and questions -/

omit [Service σ] in
theorem isEnabled_flagged (who : Nat) :
    (deployment.flagged owner flags).isEnabled who =
      ((deployment.isEnabled who).1, (deployment.isEnabled who).2.flagged owner flags) := by
  simp only [isEnabled, poll_flagged]
  cases hmanager : (deployment.poll who).managers[who]? with
  | none => rw [absent_flagged _ owner flags hmanager]
  | some manager =>
      obtain ⟨marked, hmarked⟩ := (deployment.poll who).exists_flagged owner flags hmanager
      rw [hmarked]
      rfl

theorem put_flagged (who : Nat) (question : Question) :
    (deployment.flagged owner flags).put who question =
      (deployment.put who question).flagged owner flags := by
  cases hmanager : deployment.managers[who]? with
  | none =>
      rw [put_eq_self hmanager, put_eq_self (deployment.absent_flagged owner flags hmanager)]
  | some manager =>
      obtain ⟨marked, hmarked⟩ := deployment.exists_flagged owner flags hmanager
      rw [put_eq hmanager, put_eq hmarked]
      rfl

theorem asking_flagged (who : Nat) (question : Question) :
    (deployment.flagged owner flags).asking who question =
      (deployment.asking who question).flagged owner flags := by
  cases question with
  | serviceComponentName =>
      simp only [asking, isEnabled_flagged]
      split
      · exact put_flagged _ owner flags who .serviceComponentName
      · rfl
  | featureEnabled => exact deployment.put_flagged owner flags who _
  | setFeatureEnabled enabled => exact deployment.put_flagged owner flags who _

theorem removeUserData_flagged (who : Nat) (removal : RemovalRequest) :
    (deployment.flagged owner flags).removeUserData who removal =
      ((deployment.removeUserData who removal).1,
        (deployment.removeUserData who removal).2.flagged owner flags) := by
  cases names : removal.isEmpty with
  | true => simp [removeUserData, names]
  | false =>
      cases hmanager : deployment.managers[who]? with
      | none =>
          have absent := deployment.absent_flagged owner flags hmanager
          simp [removeUserData, names, hmanager, absent]
      | some manager =>
          obtain ⟨marked, hmarked⟩ := deployment.exists_flagged owner flags hmanager
          rw [removeUserData_eq names hmanager, removeUserData_eq names hmarked]
          rfl

/-! ## Starts -/

/-- Another manager is started with its own flags. -/
theorem onStart_flagged_of_ne {who : Nat} (h : owner ≠ who) (token : ActivityToken)
    (component : ComponentName) (given : CaptureFlags) :
    ((deployment.flagged owner flags).onStart who token component given).2 =
      (deployment.onStart who token component given).2.flagged owner flags := by
  have marked := deployment.updateManager_flagged owner flags who
    (fun manager => { manager with flags := manager.flags.merge given })
    fun own => absurd own h
  unfold onStart
  split
  · rfl
  · simp only [marked, managers_flagged, if_neg h, ensureSession_flagged, startSession_flagged,
      Option.map_id']

variable {deployment owner}

omit [Service σ] in
/-- The app's wish is noted in the flags. -/
theorem setEnabled_eq {manager : Manager} (there : deployment.managers[owner]? = some manager)
    (enabled : Bool) :
    deployment.setEnabled owner enabled =
      deployment.flagged owner (manager.wanting enabled).flags :=
  mark_eq there fun flags =>
    if enabled then flags.remove .disabledByApp else flags.merge .disabledByApp

/-- A start that finds the session started is noted in the flags as well. -/
theorem onStart_of_started {manager : Manager} {session : Session}
    (there : deployment.managers[owner]? = some manager)
    (hsession : manager.session = some session) (started : session.lifecycle = .started)
    {token : ActivityToken} {component : ComponentName}
    (proper : startFault? token component = none) (given : CaptureFlags) :
    (deployment.onStart owner token component given).2 =
      deployment.flagged owner (manager.flags.merge given) := by
  have marked := mark_eq there fun flags => flags.merge given
  have hmanager := deployment.managers_flagged_self owner (manager.flags.merge given)
  rw [there, Option.map_some] at hmanager
  simp only [onStart, proper, marked]
  simp only [ensureSession, startSession, hmanager, hsession, started, if_true]

end Deployment

namespace Deployment

variable {σ : Type} [Service σ] [Autonomous σ]

def takesEffect (deployment : Deployment σ) (owner : Nat) : Event σ → Bool
  | .operation (.onStart who token component flags) =>
      (deployment.opening? owner (.onStart who token component flags)).isSome
  | _ => false

omit [Service σ] [Autonomous σ] in
/-- A start that takes no effect is rejected, or finds the session started. -/
theorem fault_or_started {deployment : Deployment σ} {owner : Nat} {manager : Manager}
    (there : deployment.managers[owner]? = some manager) {token : ActivityToken}
    {component : ComponentName} {given : CaptureFlags}
    (idle : deployment.opening? owner (.onStart owner token component given) = none) :
    (∃ fault, startFault? token component = some fault) ∨
      startFault? token component = none ∧
        ∃ session, manager.session = some session ∧ session.lifecycle = .started := by
  cases hfault : startFault? token component with
  | some fault => exact .inl ⟨fault, rfl⟩
  | none =>
      refine .inr ⟨rfl, ?_⟩
      simpa [opening?, there, hfault, Option.any_eq_true] using idle

/-- A step that is not a start of the manager leads two deployments that differ in its flags
to such again. -/
theorem exists_after_flagged {deployment : Deployment σ} {owner : Nat} {manager : Manager}
    (there : deployment.managers[owner]? = some manager) (flags : CaptureFlags)
    {event : Event σ} (idle : deployment.takesEffect owner event = false) :
    ∃ later, (deployment.flagged owner flags).after event =
      (deployment.after event).flagged owner later := by
  have marked := deployment.managers_flagged_self owner flags
  rw [there, Option.map_some] at marked
  cases event with
  | operation operation =>
      cases operation with
      | join context caller timeout dispatcher =>
          exact ⟨flags, deployment.addManager_flagged owner flags there _⟩
      | ensureSession who => exact ⟨flags, deployment.ensureSession_flagged owner flags who⟩
      | onStart who token component given =>
          by_cases own : owner = who
          · subst own
            rw [takesEffect, Option.isSome_eq_false_iff, Option.isNone_iff_eq_none] at idle
            rcases fault_or_started there idle with
              ⟨fault, faulty⟩ | ⟨proper, session, hsession, started⟩
            · exact ⟨flags, by simp [after, perform, onStart, faulty]⟩
            · refine ⟨flags.merge given, ?_⟩
              simp only [after, perform, onStart_of_started there hsession started proper,
                onStart_of_started marked hsession started proper, flagged_flagged]
          · exact ⟨flags, deployment.onStart_flagged_of_ne owner flags own token component given⟩
      | onStop who =>
          refine ⟨flags, ?_⟩
          simp only [after, perform, onStop, ensureSession_flagged, destroySession_flagged]
      | flush who reason =>
          refine ⟨flags, ?_⟩
          simp only [after, perform, flush, ensureSession_flagged, flushSession_flagged]
      | setEnabled who enabled =>
          by_cases own : owner = who
          · subst own
            refine ⟨(Manager.wanting { manager with flags := flags } enabled).flags, ?_⟩
            simp only [after, perform, setEnabled_eq there, setEnabled_eq marked, flagged_flagged]
          · exact ⟨flags, deployment.updateManager_flagged owner flags who _
              fun same => absurd same own⟩
      | removeUserData who removal =>
          refine ⟨flags, ?_⟩
          simp only [after, perform, removeUserData_flagged]
      | ask who question => exact ⟨flags, deployment.asking_flagged owner flags who question⟩
      | isEnabled who => exact ⟨flags, deployment.poll_flagged owner flags who⟩
      | report who => exact ⟨flags, deployment.poll_flagged owner flags who⟩
      | observeSession who => exact ⟨flags, deployment.poll_flagged owner flags who⟩
      | sessionReport who => exact ⟨flags, deployment.poll_flagged owner flags who⟩
      | startSession who token component given =>
          exact ⟨flags, deployment.startSession_flagged owner flags who token component given⟩
      | flushSession who reason =>
          exact ⟨flags, deployment.flushSession_flagged owner flags who reason⟩
      | destroySession who => exact ⟨flags, deployment.destroySession_flagged owner flags who⟩
  | work dispatcher => exact ⟨flags, deployment.work_flagged owner flags dispatcher⟩
  | act act => exact ⟨flags, rfl⟩
  | elapse now => exact ⟨flags, rfl⟩

end Deployment
end ContentCapture
