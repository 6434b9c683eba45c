import ContentCapture.Proofs.Accounts
import ContentCapture.Proofs.Looks

namespace ContentCapture

/-!
# Observers are transparent

Whether capture is on, the state of a session and the reports can be asked for at any
time.  Each of these observers looks at the answer to a start.  A run with observers and
the run without them lead to deployments that nothing tells apart, and everybody else is
answered the same on the way.
-/

/-- Whether an operation does nothing but observe. -/
def Operation.isObservation : Operation → Bool
  | .isEnabled _ => true
  | .report _ => true
  | .observeSession _ => true
  | .sessionReport _ => true
  | _ => false

def Event.isObservation {σ : Type} [Autonomous σ] : Event σ → Bool
  | .operation performed => performed.isObservation
  | _ => false

/-- A run without its observers. -/
def unobserved {σ : Type} [Autonomous σ] (events : List (Event σ)) : List (Event σ) :=
  events.filter fun event => !event.isObservation

/-- What is told to those who perform an operation. -/
inductive Response where
  | nothing
  | made (session : Option SessionId)
  | attempted (result : Except Failure Unit)
  /-- Where the answer to a question will be, if the question was put. -/
  | put (channel : Option (Except Failure ChannelId))
  | enabled (enabled : Bool)
  | session (session : Option Session)
  | lines (lines : List String)

/-- What is seen of a session without a look at the answer to its start. -/
structure Glance where
  id : SessionId
  lifecycle : Lifecycle
  flags : CaptureFlags
  buffered : Nat
  deriving DecidableEq, Repr

/-- What is seen of the session at a glance. -/
def Session.glance (session : Session) : Glance :=
  ⟨session.id, session.lifecycle, session.flags, session.buffer.length⟩

namespace Deployment

variable {σ : Type} [Service σ]

/-- Where the answer to a question will be. -/
def issued? (deployment : Deployment σ) (owner : Nat) (question : Question) :
    Option (Except Failure ChannelId) :=
  (deployment.managers[owner]?).map fun manager =>
    (deployment.issue owner manager question.request).1

/-- What is told to those who perform an operation. -/
def response (deployment : Deployment σ) : Operation → Response
  | .ensureSession owner =>
      .made (((deployment.ensureSession owner).session? owner).map Session.id)
  | .onStart owner token component flags =>
      .attempted (deployment.onStart owner token component flags).1
  | .removeUserData owner removal => .attempted (deployment.removeUserData owner removal).1
  | .ask owner .serviceComponentName =>
      let (enabled, observed) := deployment.isEnabled owner
      .put (if enabled then observed.issued? owner .serviceComponentName else none)
  | .ask owner question => .put (deployment.issued? owner question)
  | .isEnabled owner => .enabled (deployment.isEnabled owner).1
  | .report owner => .lines (deployment.report owner).1
  | .observeSession owner => .session (deployment.observeSession owner).1
  | .sessionReport owner => .lines (deployment.sessionReport owner).1
  | _ => .nothing

/-- What is told to those who perform the operations of a run, observers left out. -/
def responses [Autonomous σ] (deployment : Deployment σ) : List (Event σ) → List Response
  | [] => []
  | .operation operation :: rest =>
      (if operation.isObservation then [] else [deployment.response operation]) ++
        (deployment.perform operation).responses rest
  | event :: rest => (deployment.after event).responses rest

/-! ## What is told in lockstep -/

theorem SameSight.glance {kept : ChannelId → Prop} {first second : Deployment σ}
    (same : SameSight kept first second) (owner : Nat) :
    (second.session? owner).map Session.glance = (first.session? owner).map Session.glance := by
  rcases same.sessions owner with ⟨hfirst, hsecond⟩ | ⟨session, twin, hfirst, hsecond, alike⟩
  · rw [hfirst, hsecond]
  · have glance : session.glance = twin.glance := (congrArg Session.glance alike :)
    rw [hfirst, hsecond, Option.map_some, Option.map_some, glance]

namespace Lockstep

variable {kept : ChannelId → Prop} {rel : Option Nat → Deployment σ → Deployment σ → Prop}
  {first second : Deployment σ}

theorem issued? (lockstep : Lockstep kept rel) (related : rel none first second) (owner : Nat)
    (question : Question) : second.issued? owner question = first.issued? owner question := by
  unfold Deployment.issued?
  rcases (lockstep.same related).managers owner with
    ⟨hfirst, hsecond⟩ | ⟨manager, twin, hfirst, hsecond, alike⟩
  · rw [hfirst, hsecond]
    rfl
  · rw [hfirst, hsecond, Option.map_some, Option.map_some,
      (lockstep.issue related owner alike question.request).1]

/-- The same is told to whoever performs an operation. -/
theorem response (lockstep : Lockstep kept rel) (related : rel none first second)
    (operation : Operation) : second.response operation = first.response operation := by
  have same := lockstep.same related
  cases operation with
  | ensureSession owner =>
      have ids := congrArg (Option.map Glance.id)
        ((lockstep.same (lockstep.ensureSession related owner)).glance owner)
      rw [Option.map_map, Option.map_map] at ids
      exact congrArg Response.made ids
  | onStart owner token component flags =>
      simp only [Deployment.response, Deployment.onStart]
      split <;> rfl
  | removeUserData owner removal =>
      simp only [Deployment.response, (lockstep.removeUserData related owner removal).1]
  | ask owner question =>
      cases question with
      | serviceComponentName =>
          have put := lockstep.issued? (lockstep.poll owner related) owner .serviceComponentName
          simp only [Deployment.response, same.isEnabled_fst]
          split
          · exact congrArg Response.put put
          · rfl
      | featureEnabled => exact congrArg Response.put (lockstep.issued? related owner _)
      | setFeatureEnabled enabled => exact congrArg Response.put (lockstep.issued? related owner _)
  | isEnabled owner => exact congrArg Response.enabled (same.isEnabled_fst owner)
  | report owner =>
      have identity := (lockstep.same (lockstep.poll owner related)).identity
      simp only [Deployment.response, Deployment.report, same.looked, identity]
  | observeSession owner => exact congrArg Response.session (same.session?_poll owner)
  | sessionReport owner =>
      simp only [Deployment.response, Deployment.sessionReport, Deployment.observeSession,
        same.session?_poll]
  | _ => rfl

section

variable (lockstep : Lockstep kept rel) {meanwhile others : Deployment σ → Deployment σ}
  (progress : ∀ before beforeToo, rel none before beforeToo →
    rel none (meanwhile before) (others beforeToo))

include lockstep progress

/-- A question that is put on both sides is answered the same, if what happens meanwhile keeps
the relation. -/
theorem inquire {α : Type} (related : rel none first second) (owner : Nat)
    {manager twin : Manager} (alike : manager.contour = twin.contour)
    (request : ChannelId → Request) {read : Deployment σ → ChannelId → Except Failure α}
    (blind : ∀ {before beforeToo : Deployment σ}, SameSight kept before beforeToo →
      ∀ {channel}, kept channel → read beforeToo channel = read before channel) :
    (second.inquire owner twin request others read).1 =
      (first.inquire owner manager request meanwhile read).1 := by
  rcases lockstep.issue related owner alike request with ⟨result, issued⟩
  unfold Deployment.inquire
  cases hfirst : first.issue owner manager request with
  | mk outcome after =>
      cases hsecond : second.issue owner twin request with
      | mk outcomeToo afterToo =>
          rw [hfirst, hsecond] at result issued
          simp only at result issued
          subst result
          cases outcomeToo with
          | error failure => rfl
          | ok channel =>
              have keeps := lockstep.kept_of_issue related (congrArg Prod.fst hfirst)
              have waited := lockstep.await channel keeps (progress after afterToo issued)
              exact blind (lockstep.same waited) keeps

theorem isFeatureEnabled (related : rel none first second) (owner : Nat) :
    (second.isFeatureEnabled owner others).1 = (first.isFeatureEnabled owner meanwhile).1 := by
  unfold Deployment.isFeatureEnabled
  rcases (lockstep.same related).managers owner with
    ⟨hfirst, hsecond⟩ | ⟨manager, twin, hfirst, hsecond, alike⟩
  · rw [hfirst, hsecond]
  · rw [hfirst, hsecond]
    exact lockstep.inquire progress related owner alike _ SameSight.answerOf

theorem setFeatureEnabled (related : rel none first second) (owner : Nat) (enabled : Bool) :
    (second.setFeatureEnabled owner enabled others).1 =
      (first.setFeatureEnabled owner enabled meanwhile).1 := by
  unfold Deployment.setFeatureEnabled
  rcases (lockstep.same related).managers owner with
    ⟨hfirst, hsecond⟩ | ⟨manager, twin, hfirst, hsecond, alike⟩
  · rw [hfirst, hsecond]
  · rw [hfirst, hsecond]
    exact lockstep.inquire progress related owner alike _ SameSight.answerOf

theorem serviceComponentName (related : rel none first second) (owner : Nat) :
    (second.serviceComponentName owner others).1 =
      (first.serviceComponentName owner meanwhile).1 := by
  have polled := lockstep.poll owner related
  have enabled := (lockstep.same related).isEnabled_fst owner
  simp only [Deployment.serviceComponentName, enabled]
  rcases (lockstep.same polled).managers owner with
    ⟨hfirst, hsecond⟩ | ⟨manager, twin, hfirst, hsecond, alike⟩
  · simp only [Deployment.isEnabled, hfirst, hsecond]
  · simp only [Deployment.isEnabled, hfirst, hsecond]
    split
    · exact lockstep.inquire progress polled owner alike _ SameSight.payloadOf
    · rfl

end

end Lockstep

/-! ## Runs with and without observers -/

variable [Autonomous σ]

/-- An observation is not noticed. -/
theorem agrees_after_of_isObservation (deployment : Deployment σ) {event : Event σ}
    (observation : event.isObservation = true) :
    Agrees none deployment (deployment.after event) := by
  cases event with
  | operation operation =>
      cases operation with
      | isEnabled owner => exact deployment.agrees_poll owner
      | report owner => exact deployment.agrees_poll owner
      | observeSession owner => exact deployment.agrees_poll owner
      | sessionReport owner => exact deployment.agrees_poll owner
      | _ => cases observation
  | _ => cases observation

theorem responses_cons (deployment : Deployment σ) (event : Event σ) (rest : List (Event σ)) :
    deployment.responses (event :: rest) =
      (if event.isObservation then [] else deployment.responses [event]) ++
        (deployment.after event).responses rest := by
  cases event with
  | operation operation =>
      cases hobservation : operation.isObservation <;>
        simp [responses, Event.isObservation, hobservation, after]
  | _ => rfl

namespace Agrees

variable {first second : Deployment σ}

theorem responses_singleton (agrees : Agrees none first second) (event : Event σ) :
    second.responses [event] = first.responses [event] := by
  cases event with
  | operation operation => simp only [responses, lockstep_agrees.response agrees]
  | _ => rfl

/-- A run agrees with the same run without its observers, and so do the responses. -/
theorem unobserved (agrees : Agrees none first second) (events : List (Event σ)) :
    Agrees none (first.follow events) (second.follow (unobserved events)) ∧
      second.responses (ContentCapture.unobserved events) = first.responses events := by
  -- An observer moves the first deployment alone, so the induction is for any two that agree.
  induction events generalizing first second with
  | nil => exact ⟨agrees, rfl⟩
  | cons event rest inductionHypothesis =>
      rw [first.responses_cons]
      cases hobservation : event.isObservation with
      | true =>
          have noticed := first.agrees_after_of_isObservation hobservation
          have skipped : ContentCapture.unobserved (event :: rest) =
              ContentCapture.unobserved rest := by
            simp [ContentCapture.unobserved, hobservation]
          rw [skipped]
          exact inductionHypothesis (noticed.symm.trans agrees)
      | false =>
          have taken : ContentCapture.unobserved (event :: rest) =
              event :: ContentCapture.unobserved rest := by
            simp [ContentCapture.unobserved, hobservation]
          rcases inductionHypothesis (agrees.after event) with ⟨later, responses⟩
          rw [taken, second.responses_cons, hobservation, responses, agrees.responses_singleton]
          exact ⟨later, rfl⟩

theorem follow (agrees : Agrees none first second) {events more : List (Event σ)}
    (same : ContentCapture.unobserved events = ContentCapture.unobserved more) :
    Agrees none (first.follow events) (second.follow more) := by
  have bare := (agrees.unobserved events).1
  have bareToo := ((refl none second).unobserved more).1
  rw [same] at bare
  exact bare.trans bareToo.symm

end Agrees

/-- Nothing that can be seen from outside tells two deployments apart. -/
structure Indistinguishable (first second : Deployment σ) : Prop where
  journal : second.journal = first.journal
  response : ∀ operation, second.response operation = first.response operation
  flags : ∀ owner : Nat,
    (second.managers[owner]?).map Manager.flags = (first.managers[owner]?).map Manager.flags
  glance : ∀ owner, (second.session? owner).map Session.glance =
    (first.session? owner).map Session.glance
  isFeatureEnabled : ∀ owner meanwhile others, unobserved meanwhile = unobserved others →
    (second.isFeatureEnabled owner (·.follow others)).1 =
      (first.isFeatureEnabled owner (·.follow meanwhile)).1
  setFeatureEnabled : ∀ owner enabled meanwhile others, unobserved meanwhile = unobserved others →
    (second.setFeatureEnabled owner enabled (·.follow others)).1 =
      (first.setFeatureEnabled owner enabled (·.follow meanwhile)).1
  serviceComponentName : ∀ owner meanwhile others, unobserved meanwhile = unobserved others →
    (second.serviceComponentName owner (·.follow others)).1 =
      (first.serviceComponentName owner (·.follow meanwhile)).1

theorem Agrees.indistinguishable {first second : Deployment σ} (agrees : Agrees none first second) :
    Indistinguishable first second where
  journal := agrees.journal
  response := lockstep_agrees.response agrees
  flags := agrees.sameSight.flags
  glance := agrees.sameSight.glance
  isFeatureEnabled owner _ _ same :=
    lockstep_agrees.isFeatureEnabled (fun _ _ before => before.follow same) agrees owner
  setFeatureEnabled owner enabled _ _ same :=
    lockstep_agrees.setFeatureEnabled (fun _ _ before => before.follow same) agrees owner enabled
  serviceComponentName owner _ _ same :=
    lockstep_agrees.serviceComponentName (fun _ _ before => before.follow same) agrees owner

/-- Two runs that differ in their observers only lead to deployments that nothing tells apart, and
all others are told the same on the way. -/
theorem indistinguishable_of_unobserved (deployment : Deployment σ) {events more : List (Event σ)}
    (same : unobserved events = unobserved more) :
    Indistinguishable (deployment.follow events) (deployment.follow more) ∧
      deployment.responses events = deployment.responses more := by
  have responses := ((Agrees.refl none deployment).unobserved events).2
  have responsesToo := ((Agrees.refl none deployment).unobserved more).2
  refine ⟨((Agrees.refl none deployment).follow same).indistinguishable, ?_⟩
  rw [← responses, ← responsesToo, same]

/-- A start that is refused, which nobody has seen. -/
def unseenRefusal : List (Event ScriptedService) :=
  [.act (ScriptedAct.cue .startSession ⟨.complete (.ofCode 4), none⟩),
    .operation (.ensureSession 0), .operation (.startSession 0 ⟨"a"⟩ ⟨"p", "A"⟩ .empty),
    .work 0, .work 0]

theorem indistinguishable_of_unobserved_unseenRefusal :
    let before := solitary ScriptedService.standard
    let seen := unseenRefusal ++ [.operation (.isEnabled 0)]
    (before.follow seen).session? 0 ≠ (before.follow unseenRefusal).session? 0 ∧
      ((before.follow unseenRefusal).isEnabled 0).1 = false ∧
      Indistinguishable (before.follow seen) (before.follow unseenRefusal) := by
  intro before seen
  have same : unobserved seen = unobserved unseenRefusal := rfl
  exact ⟨by decide +kernel, by decide +kernel, (indistinguishable_of_unobserved before same).1⟩

end Deployment
end ContentCapture
