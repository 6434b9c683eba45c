import ContentCapture.Proofs.Identity
import ContentCapture.Proofs.Outlines
import ContentCapture.Proofs.Rejections
import ContentCapture.Proofs.Sequences
import ContentCapture.Proofs.Succession

namespace ContentCapture

/-!
# One session a manager

A manager has a session from the moment on at which one is needed, and it has the same one ever
after.  A session is needed when somebody asks for it, when the window is gone, when events are
to be sent, and when a start is accepted.  Nothing else makes one, neither an observer nor a
question nor a start that is rejected, and no session that was made is ever replaced.

Which operation needs a session is read off the outline of the deployment.  That ids are not
given out twice is a matter of their number.
-/

/-- Whether an operation needs the session of a manager. -/
def Operation.Needs (owner : Nat) : Operation → Prop
  | .ensureSession who => who = owner
  | .onStop who => who = owner
  | .flush who _ => who = owner
  | .onStart who token component _ => who = owner ∧ ¬ IsFaultyStart token component
  | _ => False

/-! ## Outlines of sessions -/

namespace Outline

def id? (outline : Outline) (owner : Nat) : Option SessionId :=
  (outline.managers[owner]?).bind fun manager => manager.session.map Prod.fst

/-- A change that leaves the ids what they are. -/
theorem id?_update (outline : Outline) (who owner : Nat) {change : ManagerOutline → ManagerOutline}
    (same : ∀ manager, (change manager).session.map Prod.fst = manager.session.map Prod.fst) :
    (outline.update who change).id? owner = outline.id? owner := by
  simp only [id?, update, List.getElem?_modify]
  cases outline.managers[owner]? with
  | none => rfl
  | some manager => by_cases h : who = owner <;> simp [h, same]

theorem id?_mark (outline : Outline) (who owner : Nat) (change : CaptureFlags → CaptureFlags) :
    (outline.mark who change).id? owner = outline.id? owner :=
  outline.id?_update who owner fun _ => rfl

theorem id?_enter (outline : Outline) (who owner : Nat) (lifecycle : Lifecycle) :
    (outline.enter who lifecycle).id? owner = outline.id? owner := by
  refine outline.id?_update who owner fun manager => ?_
  cases manager.session <;> rfl

theorem id?_ensure_of_ne (outline : Outline) {who owner : Nat} (h : who ≠ owner) :
    (outline.ensure who).id? owner = outline.id? owner := by
  unfold ensure
  split
  · rfl
  · split
    · rfl
    · simp [id?, update, h]

/-- A session is made if there is none. -/
theorem id?_ensure {outline : Outline} {owner : Nat} (there : owner < outline.managers.length) :
    (outline.ensure owner).id? owner = some ((outline.id? owner).getD outline.nextSession) := by
  have hmanager := List.getElem?_eq_getElem there
  cases hsession : (outline.managers[owner]).session <;>
    simp [ensure, id?, update, hmanager, hsession]

theorem ensure_eq_self {outline : Outline} {owner : Nat}
    (absent : ¬ owner < outline.managers.length) : outline.ensure owner = outline := by
  simp [ensure, List.getElem?_eq_none (Nat.le_of_not_lt absent)]

theorem id?_eq_none {outline : Outline} {owner : Nat}
    (absent : ¬ owner < outline.managers.length) : outline.id? owner = none := by
  simp [id?, List.getElem?_eq_none (Nat.le_of_not_lt absent)]

/-- An operation that does not need the session of a manager does not make it. -/
theorem id?_after_of_not_needs (outline : Outline) {operation : Operation} {owner : Nat}
    (spares : ¬ operation.Needs owner) :
    (outline.after operation).id? owner = outline.id? owner := by
  cases operation with
  | join context caller timeout dispatcher =>
      simp only [after, id?, List.getElem?_append]
      split
      · rfl
      · next beyond =>
          rw [List.getElem?_eq_none (Nat.le_of_not_lt beyond)]
          cases owner - outline.managers.length <;> simp
  | ensureSession who => exact outline.id?_ensure_of_ne spares
  | onStart who token component flags =>
      cases faultless : Deployment.startFault? token component with
      | some fault => simp [after, faultless]
      | none =>
          have proper := (Deployment.startFault?_eq_none_iff token component).mp faultless
          have other : who ≠ owner := fun same => spares ⟨same, proper⟩
          simp [after, faultless, id?_enter, id?_ensure_of_ne _ other, id?_mark]
  | onStop who => rw [after, id?_enter, id?_ensure_of_ne _ spares]
  | flush who reason => exact outline.id?_ensure_of_ne spares
  | setEnabled who enabled => exact outline.id?_mark who owner _
  | startSession who token component flags => exact outline.id?_enter who owner _
  | destroySession who => exact outline.id?_enter who owner _
  | _ => rfl

theorem id?_after_of_needs (outline : Outline) {operation : Operation} {owner : Nat}
    (needs : operation.Needs owner) :
    (outline.after operation).id? owner = (outline.ensure owner).id? owner := by
  cases operation with
  | ensureSession who => rw [show who = owner from needs]; rfl
  | onStop who => rw [show who = owner from needs, after, id?_enter]
  | flush who reason => rw [show who = owner from needs]; rfl
  | onStart who token component flags =>
      rcases needs with ⟨rfl, proper⟩
      have faultless := (Deployment.startFault?_eq_none_iff token component).mpr proper
      simp only [after, faultless, id?_enter]
      by_cases there : who < outline.managers.length
      · have marked :
            who < (outline.mark who fun before => before.merge flags).managers.length := by
          simpa [mark, update] using there
        rw [id?_ensure there, id?_ensure marked, id?_mark]
        rfl
      · have marked :
            ¬ who < (outline.mark who fun before => before.merge flags).managers.length := by
          simpa [mark, update] using there
        rw [ensure_eq_self there, ensure_eq_self marked, id?_mark]
  | _ => exact absurd needs (by simp [Operation.Needs])

end Outline

namespace Deployment

variable {σ : Type}

theorem id?_outline (deployment : Deployment σ) (owner : Nat) :
    deployment.outline.id? owner = deployment.id? owner := by
  rw [Outline.id?, outline_managers, id?, session?]
  cases deployment.managers[owner]? with
  | none => rfl
  | some manager => cases hsession : manager.session <;> simp [Manager.outline, hsession]

theorem length_outline (deployment : Deployment σ) :
    deployment.outline.managers.length = deployment.managers.length := by
  simp [outline]

section

variable [Service σ] [Autonomous σ]

/-- Only operations that need a session change which sessions there are. -/
theorem id?_after_of_spares (deployment : Deployment σ) {event : Event σ} {owner : Nat}
    (spares : ∀ operation, event = .operation operation → ¬ operation.Needs owner) :
    (deployment.after event).id? owner = deployment.id? owner := by
  cases event with
  | operation operation =>
      rw [← id?_outline, ← id?_outline, after, outline_perform]
      exact deployment.outline.id?_after_of_not_needs (spares operation rfl)
  | work dispatcher => rw [← id?_outline, ← id?_outline, after, outline_work]
  | act act => rfl
  | elapse now => rfl

omit [Autonomous σ] in
/-- An operation that needs the session of a manager finds it or makes it. -/
theorem id?_perform_of_needs {deployment : Deployment σ} {owner : Nat}
    (there : owner < deployment.managers.length) {operation : Operation}
    (needs : operation.Needs owner) :
    (deployment.perform operation).id? owner =
      some ((deployment.id? owner).getD deployment.nextSession) := by
  rw [← length_outline] at there
  rw [← id?_outline, ← id?_outline, outline_perform, Outline.id?_after_of_needs _ needs,
    Outline.id?_ensure there]
  rfl

omit [Autonomous σ] in
theorem id?_perform_of_absent {deployment : Deployment σ} {owner : Nat}
    (absent : ¬ owner < deployment.managers.length) {operation : Operation}
    (needs : operation.Needs owner) : (deployment.perform operation).id? owner = none := by
  rw [← length_outline] at absent
  rw [← id?_outline, outline_perform, Outline.id?_after_of_needs _ needs,
    Outline.ensure_eq_self absent, Outline.id?_eq_none absent]

/-- The session of a manager was needed in a run, after the manager was made. -/
def Needed (deployment : Deployment σ) (owner : Nat) (events : List (Event σ)) : Prop :=
  ∃ before operation later, events = before ++ .operation operation :: later ∧
    owner < (deployment.follow before).managers.length ∧ operation.Needs owner

theorem needed_concat_iff (deployment : Deployment σ) (owner : Nat) (events : List (Event σ))
    (event : Event σ) :
    deployment.Needed owner (events ++ [event]) ↔
      deployment.Needed owner events ∨ ∃ operation, event = .operation operation ∧
        owner < (deployment.follow events).managers.length ∧ operation.Needs owner := by
  constructor
  · rintro ⟨before, operation, later, split, there, needs⟩
    rcases concat_eq_append_cons_iff.mp split with ⟨rfl, last, -⟩ | ⟨between, earlier, -⟩
    · exact .inr ⟨operation, last, there, needs⟩
    · exact .inl ⟨before, operation, between, earlier, there, needs⟩
  · rintro (⟨before, operation, later, rfl, there, needs⟩ | ⟨operation, rfl, there, needs⟩)
    · exact ⟨before, operation, later ++ [event], by simp, there, needs⟩
    · exact ⟨events, operation, [], rfl, there, needs⟩

/-- A manager has a session exactly if one was needed. -/
theorem isSome_id?_follow_iff {deployment : Deployment σ} (fresh : deployment.Fresh) (owner : Nat)
    (events : List (Event σ)) :
    ((deployment.follow events).id? owner).isSome = true ↔ deployment.Needed owner events := by
  induction events using List.reverseRecOn with
  | nil =>
      have silent : ¬ deployment.Needed owner [] := by
        rintro ⟨before, operation, later, split, -, -⟩
        cases before <;> cases split
      exact iff_of_false (by simp [id?, fresh.session?_eq_none owner]) silent
  | append_singleton events event inductionHypothesis =>
      rw [needed_concat_iff, ← inductionHypothesis, follow_concat]
      by_cases spares : ∀ operation, event = .operation operation → ¬ operation.Needs owner
      · rw [id?_after_of_spares _ spares, or_iff_left]
        rintro ⟨operation, same, -, needs⟩
        exact spares operation same needs
      · obtain ⟨operation, rfl, needs⟩ : ∃ operation, event = .operation operation ∧
            operation.Needs owner := by
          simpa using spares
        by_cases there : owner < (deployment.follow events).managers.length
        · rw [after, id?_perform_of_needs there needs]
          exact iff_of_true rfl (.inr ⟨operation, rfl, there, needs⟩)
        · have absent : (deployment.follow events).id? owner = none := by
            rw [← id?_outline, Outline.id?_eq_none (by rwa [length_outline])]
          rw [after, id?_perform_of_absent there needs, absent]
          refine iff_of_false (by simp) ?_
          rintro (made | ⟨other, -, here, -⟩)
          · cases made
          · exact there here

end

/-! ## The number of sessions -/

/-- The managers that have a session. -/
def provided (deployment : Deployment σ) : List Nat :=
  (List.range deployment.managers.length).filter fun owner => (deployment.session? owner).isSome

theorem isSome_id? (deployment : Deployment σ) (owner : Nat) :
    (deployment.id? owner).isSome = (deployment.session? owner).isSome := by
  simp [id?]

theorem mem_provided_iff (deployment : Deployment σ) (owner : Nat) :
    owner ∈ deployment.provided ↔ (deployment.session? owner).isSome = true := by
  rw [provided, List.mem_filter, List.mem_range, and_iff_right_iff_imp]
  intro present
  by_contra beyond
  rw [session?, List.getElem?_eq_none (Nat.le_of_not_lt beyond)] at present
  cases present

/-- As many ids were given out as there are sessions. -/
theorem Issued.length_eq {base : UInt64} {order : List Nat} {deployment : Deployment σ}
    (issued : Issued base order deployment) : order.length = deployment.provided.length := by
  have distinct : deployment.provided.Nodup := List.nodup_range.filter _
  refine ((List.perm_ext_iff_of_nodup issued.once distinct).mpr fun owner => ?_).length_eq
  rw [mem_provided_iff, ← isSome_id?]
  constructor
  · intro member
    rcases List.mem_iff_getElem?.mp member with ⟨index, hindex⟩
    rw [issued.ids index owner hindex]
    rfl
  · intro present
    rcases Option.isSome_iff_exists.mp present with ⟨id, given⟩
    exact issued.owners owner id given

/-! ## Asking for the session -/

/-- Whoever asks for the session of a manager gets the one it has, or else a new one. -/
theorem exists_session?_ensureSession {deployment : Deployment σ} {owner : Nat}
    (there : owner < deployment.managers.length) :
    ∃ session, (deployment.ensureSession owner).session? owner = some session ∧
      session.id = (deployment.id? owner).getD deployment.nextSession := by
  have hmanager := List.getElem?_eq_getElem there
  cases present : deployment.session? owner with
  | none =>
      have absent : (deployment.managers[owner]).session = none := by
        simpa [session?, hmanager] using present
      exact ⟨_, session?_ensureSession hmanager absent, by simp [id?, present]⟩
  | some session =>
      exact ⟨session, by rw [ensureSession_of_session? present, present], by simp [id?, present]⟩

section

variable [Service σ] [Autonomous σ]

/-- A session that a manager has is the one it has at every later point of the run. -/
theorem session?_of_prefix (deployment : Deployment σ) {events more : List (Event σ)}
    (earlier : events <+: more) {owner : Nat} {session : Session}
    (present : (deployment.follow events).session? owner = some session) :
    ∃ later, (deployment.follow more).session? owner = some later ∧ later.id = session.id := by
  rcases manager_of_session? present with ⟨manager, hmanager, hsession⟩
  rcases (deployment.precedes_of_prefix earlier).extension owner manager hmanager with
    ⟨found, hfound, -, -, sessions⟩
  rcases sessions session hsession with ⟨later, hlater, same⟩
  exact ⟨later, by rw [session?, hfound, Option.bind_some, hlater], same⟩

/-- A manager has a session if and only if one was needed.  From then on it has that session, and
asking for it gives that session and changes nothing.  If there is none, asking makes one with the
next id, and ids were given out to the sessions that are there and to no others.  Sessions of
different managers have different ids as long as not more were made than there are ids. -/
theorem one_session_of_follow {deployment : Deployment σ} (fresh : deployment.Fresh)
    (events : List (Event σ)) :
    let now := deployment.follow events
    (∀ owner, (∃ session, now.session? owner = some session) ↔ deployment.Needed owner events) ∧
      (∀ owner session, now.session? owner = some session → ∀ more,
        let later := deployment.follow (events ++ more)
        later.ensureSession owner = later ∧
          ∃ same, later.session? owner = some same ∧ same.id = session.id) ∧
      (∀ owner, owner < now.managers.length →
        ∃ session, (now.ensureSession owner).session? owner = some session ∧
          session.id = (now.id? owner).getD now.nextSession) ∧
      now.nextSession = ⟨deployment.nextSession.value + UInt64.ofNat now.provided.length⟩ ∧
      (now.provided.length ≤ UInt64.size → now.DistinctIds) := by
  intro now
  rcases exists_issued fresh events with ⟨order, issued⟩
  refine ⟨fun owner => ?_, fun owner session present more => ?_,
    fun owner there => exists_session?_ensureSession there, ?_, fun few => ?_⟩
  · rw [← isSome_id?_follow_iff fresh owner events, isSome_id?, Option.isSome_iff_exists]
  · rcases deployment.session?_of_prefix (List.prefix_append events more) present with
      ⟨same, hsame, sameId⟩
    exact ⟨ensureSession_of_session? hsame, same, hsame, sameId⟩
  · rw [← issued.length_eq]
    exact issued.next
  · exact issued.distinctIds_of_length (issued.length_eq ▸ few)

end

/-- Two managers are made.  One is started with an empty token and asked all kinds of things, and
the other is flushed before it has been started, stopped, and started in the end. -/
def idleAndHasty : List (Event ScriptedService) :=
  [.operation (.join ⟨"com.example.notes", 0⟩ "com.example.notes" ⟨0⟩ 0),
    .operation (.onStart 1 ⟨""⟩ ⟨"p", "A"⟩ .empty), .operation (.setEnabled 1 false),
    .operation (.ask 1 .featureEnabled), .operation (.isEnabled 1), .operation (.report 1),
    .operation (.flush 0 .fullBuffer), .operation (.onStop 0), .work 0,
    .operation (.onStart 0 ⟨"a"⟩ ⟨"p", "A"⟩ .empty)]

theorem one_session_of_follow_idleAndHasty :
    let now := (solitary ScriptedService.standard).follow idleAndHasty
    ¬ (∃ session, now.session? 1 = some session) ∧
      now.id? 0 = some ⟨1⟩ ∧ now.nextSession = ⟨2⟩ ∧ now.DistinctIds ∧
      ∃ made, (now.ensureSession 1).session? 1 = some made ∧ made.id = ⟨2⟩ := by
  intro now
  rcases one_session_of_follow (fresh_solitary ScriptedService.standard) idleAndHasty with
    ⟨-, -, asked, next, distinct⟩
  have absent : now.session? 1 = none := by decide +kernel
  have one : now.provided.length = 1 := by decide +kernel
  have there : 1 < now.managers.length := by decide +kernel
  rcases asked 1 there with ⟨made, hmade, given⟩
  refine ⟨by simp [absent], by decide +kernel, ?_, ?_, made, hmade, ?_⟩
  · rw [next, one]
    rfl
  · exact distinct (by rw [one]; decide)
  · rw [given, id?, absent, next, one]
    rfl

end Deployment
end ContentCapture
