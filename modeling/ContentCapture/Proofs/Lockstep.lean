import ContentCapture.Proofs.Turns

namespace ContentCapture

/-!
# Deployments in lockstep

Two deployments may differ in something that nobody sees, and go on to differ in nothing
else whatever is done to both.  An operation is put together from a few changes of managers,
sessions, queues and channels.  A relation that each of these keeps is kept by every
operation, and the same is told on both sides.

What a session has not looked at by the end of a cycle is lost with the channel.  So a
relation may spare the session of one manager, whose differences are gone once it was
looked at.  The end of a cycle relies on that, and nothing else does.
-/

theorem twins_of_map_eq {α β : Type} {f : α → β} {first second : Option α}
    (same : first.map f = second.map f) :
    (first = none ∧ second = none) ∨
      ∃ a b, first = some a ∧ second = some b ∧ f a = f b := by
  cases first with
  | none =>
      rw [Option.map_none, eq_comm, Option.map_eq_none_iff] at same
      exact .inl ⟨rfl, same⟩
  | some a =>
      rw [Option.map_some, eq_comm, Option.map_eq_some_iff] at same
      rcases same with ⟨b, hb, same⟩
      exact .inr ⟨a, b, rfl, hb, same.symm⟩

namespace Session

/-- A session without what a look at the answer to its start may change. -/
def contour (session : Session) : Session :=
  { session with startReply := none, state := .unknown, disabled := false }

/-- A change of a session that minds neither the answer to its start nor the channel for it. -/
structure Aloof (change : Session → Session) : Prop where
  startReply : ∀ session, (change session).startReply = session.startReply
  informed : ∀ session answer, (change session).informed answer = change (session.informed answer)

theorem aloof_recorded (time : UInt64) (kind : EventKind) :
    Aloof fun session => session.recorded time kind :=
  ⟨fun _ => rfl, fun _ answer => by cases answer <;> rfl⟩

theorem aloof_emptied : Aloof emptied :=
  ⟨fun _ => rfl, fun _ answer => by cases answer <;> rfl⟩

theorem aloof_retired : Aloof retired :=
  ⟨fun _ => rfl, fun _ answer => by cases answer <;> rfl⟩

theorem aloof_cutOff : Aloof cutOff :=
  ⟨fun _ => rfl, fun _ answer => by cases answer <;> rfl⟩

end Session

/-- A manager without what a look may change in its session. -/
def Manager.contour (manager : Manager) : Manager :=
  manager.withSession Session.contour

namespace Deployment

variable {σ : Type} [Service σ]

theorem removeUserData_eq {deployment : Deployment σ} {owner : Nat} {manager : Manager}
    {removal : RemovalRequest} (names : removal.isEmpty = false)
    (hmanager : deployment.managers[owner]? = some manager) :
    deployment.removeUserData owner removal =
      let asked := deployment.ask (some owner) ⟨manager.caller, .removeUserData removal⟩
      (asked.1.mapError Failure.unreachable, asked.2) := by
  simp only [removeUserData, names, hmanager, Bool.false_eq_true, if_false]
  split <;> next hasked => rw [hasked]; rfl

theorem issue_eq (deployment : Deployment σ) (owner : Nat) (manager : Manager)
    (request : ChannelId → Request) :
    deployment.issue owner manager request =
      let (channel, opened) := deployment.newChannel manager.timeout
      let asked := opened.ask (some owner) ⟨manager.caller, request channel⟩
      ((asked.1.map fun _ => channel).mapError Failure.unreachable, asked.2) := by
  simp only [issue]
  split <;> next hasked => rw [hasked]; rfl

/-- What is the same in two deployments that differ in nothing that anybody sees.  Nobody
looks at channels that are not kept. -/
structure SameSight (kept : ChannelId → Prop) (first second : Deployment σ) : Prop where
  contour : ∀ owner : Nat, (second.managers[owner]?).map Manager.contour =
    (first.managers[owner]?).map Manager.contour
  looked : ∀ owner : Nat,
    (second.poll owner).managers[owner]? = (first.poll owner).managers[owner]?
  dispatchers : second.dispatchers = first.dispatchers
  nextSession : second.nextSession = first.nextSession
  journal : second.journal = first.journal
  now : second.exchange.now = first.exchange.now
  channel : ∀ channel, kept channel →
    second.exchange.channel? channel = first.exchange.channel? channel
  newChannel : ∀ timeout, (second.newChannel timeout).1 = (first.newChannel timeout).1
  fresh : ∀ timeout, kept (first.newChannel timeout).1
  ask : ∀ asker envelope, (second.ask asker envelope).1 = (first.ask asker envelope).1
  identity : Service.identity second.service = Service.identity first.service

/-- What a step does to related deployments leads to related ones. -/
abbrev Preserves (rel : Option Nat → Deployment σ → Deployment σ → Prop)
    (step : Deployment σ → Deployment σ) : Prop :=
  ∀ {spared : Option Nat} {first second : Deployment σ}, rel spared first second →
    rel spared (step first) (step second)

/-- A relation of deployments that look the same, which everything keeps that operations are
put together from. -/
structure Lockstep (kept : ChannelId → Prop)
    (rel : Option Nat → Deployment σ → Deployment σ → Prop) : Prop where
  same : ∀ {spared first second}, rel spared first second → SameSight kept first second
  noted : ∀ entry, Preserves rel fun deployment => deployment.noted entry
  withDispatcher : ∀ dispatcher queue,
    Preserves rel fun deployment => deployment.withDispatcher dispatcher queue
  renumber : ∀ next, Preserves rel fun deployment => { deployment with nextSession := next }
  newChannel : ∀ timeout, Preserves rel fun deployment => (deployment.newChannel timeout).2
  discard : ∀ request, Preserves rel fun deployment => deployment.discard request
  ask : ∀ asker envelope, Preserves rel fun deployment => (deployment.ask asker envelope).2
  await : ∀ channel, kept channel → Preserves rel fun deployment => deployment.await channel
  addManager : ∀ manager : Manager, manager.session = none →
    Preserves rel fun deployment => deployment.addManager manager
  mark : ∀ owner (change : CaptureFlags → CaptureFlags), Preserves rel fun deployment =>
    deployment.updateManager owner fun manager => { manager with flags := change manager.flags }
  make : ∀ owner id, Preserves rel fun deployment =>
    deployment.updateManager owner fun manager => { manager with session := some { id := id } }
  poll : ∀ owner, Preserves rel fun deployment => deployment.poll owner
  aloof : ∀ {change}, Session.Aloof change → ∀ owner,
    Preserves rel fun deployment => deployment.updateSession owner change
  opening : ∀ owner manager token component flags,
    Preserves rel fun deployment => deployment.opening owner manager token component flags
  openedOff : ∀ owner token component flags, Preserves rel fun deployment =>
    deployment.updateSession owner fun session => session.openedOff token component flags
  spare : ∀ {first second} (owner : Nat), rel none first second →
    rel (some owner) (first.poll owner) (second.poll owner)
  closed : ∀ {first second} (owner : Nat), rel (some owner) first second →
    rel (some owner) (first.updateSession owner Session.closed)
      (second.updateSession owner Session.closed)
  relax : ∀ {spared first second}, rel spared first second → rel none first second

namespace SameSight

variable {kept : ChannelId → Prop} {first second : Deployment σ}

/-- The managers at one place differ in their sessions only. -/
theorem managers (same : SameSight kept first second) (owner : Nat) :
    (first.managers[owner]? = none ∧ second.managers[owner]? = none) ∨
      ∃ manager twin, first.managers[owner]? = some manager ∧
        second.managers[owner]? = some twin ∧ manager.contour = twin.contour :=
  twins_of_map_eq (same.contour owner).symm

theorem sessions (same : SameSight kept first second) (owner : Nat) :
    (first.session? owner = none ∧ second.session? owner = none) ∨
      ∃ session twin, first.session? owner = some session ∧ second.session? owner = some twin ∧
        session.contour = twin.contour := by
  rcases same.managers owner with ⟨hfirst, hsecond⟩ | ⟨manager, twin, hfirst, hsecond, alike⟩
  · simp [session?, hfirst, hsecond]
  · rw [session?_of_manager hfirst, session?_of_manager hsecond]
    exact twins_of_map_eq (congrArg Manager.session alike)

theorem session?_poll (same : SameSight kept first second) (owner : Nat) :
    (second.poll owner).session? owner = (first.poll owner).session? owner := by
  rw [session?, session?, same.looked]

theorem isEnabled_fst (same : SameSight kept first second) (owner : Nat) :
    (second.isEnabled owner).1 = (first.isEnabled owner).1 := by
  simp only [Deployment.isEnabled, same.looked]

theorem flags (same : SameSight kept first second) (owner : Nat) :
    (second.managers[owner]?).map Manager.flags = (first.managers[owner]?).map Manager.flags := by
  have contours := congrArg (Option.map Manager.flags) (same.contour owner)
  rw [Option.map_map, Option.map_map] at contours
  exact contours

theorem answerOf (same : SameSight kept first second) {channel : ChannelId}
    (keeps : kept channel) : second.answerOf channel = first.answerOf channel := by
  rw [Deployment.answerOf, Deployment.answerOf, same.channel channel keeps]

theorem payloadOf (same : SameSight kept first second) {channel : ChannelId}
    (keeps : kept channel) : second.payloadOf channel = first.payloadOf channel := by
  rw [Deployment.payloadOf, Deployment.payloadOf, same.channel channel keeps]

end SameSight

namespace Lockstep

variable {kept : ChannelId → Prop} {rel : Option Nat → Deployment σ → Deployment σ → Prop}
  {spared : Option Nat} {first second : Deployment σ}

/-! ## Jobs -/

theorem run (lockstep : Lockstep kept rel) (related : rel spared first second) (job : Job) :
    rel spared (first.run job) (second.run job) := by
  have asked := lockstep.ask (some job.owner) ⟨job.caller, job.request⟩ related
  have line : second.runLine job = first.runLine job := by
    rw [runLine, runLine, (lockstep.same related).ask]
  rw [run_eq, run_eq, line]
  simp only
  split
  · exact lockstep.aloof Session.aloof_cutOff job.owner asked
  · exact asked

theorem post (lockstep : Lockstep kept rel) (related : rel spared first second)
    (dispatcher : Nat) (job : Job) :
    rel spared (first.post dispatcher job) (second.post dispatcher job) := by
  have noted := lockstep.noted (.posted job) related
  have same : second.dispatchers[dispatcher]? = first.dispatchers[dispatcher]? := by
    rw [(lockstep.same related).dispatchers]
  have discarded := lockstep.discard job.request noted
  cases hqueue : first.dispatchers[dispatcher]? with
  | none => simpa [Deployment.post, Deployment.noted, same, hqueue] using discarded
  | some queue =>
      have pushed := lockstep.withDispatcher dispatcher (queue.push job) noted
      cases hmode : queue.mode with
      | immediate =>
          simpa [Deployment.post, Deployment.noted, same, hqueue, hmode] using
            lockstep.run noted job
      | queued =>
          simpa [Deployment.post, Deployment.noted, same, hqueue, hmode,
            Deployment.withDispatcher] using pushed
      | stopped => simpa [Deployment.post, Deployment.noted, same, hqueue, hmode] using discarded

theorem postRequest (lockstep : Lockstep kept rel) (related : rel spared first second)
    (owner : Nat) (request : Request) :
    rel spared (first.postRequest owner request) (second.postRequest owner request) := by
  unfold Deployment.postRequest
  rcases (lockstep.same related).managers owner with
    ⟨hfirst, hsecond⟩ | ⟨manager, twin, hfirst, hsecond, alike⟩
  · rw [hfirst, hsecond]
    exact related
  · have dispatcher : manager.dispatcher = twin.dispatcher := (congrArg Manager.dispatcher alike :)
    have caller : manager.caller = twin.caller := (congrArg Manager.caller alike :)
    rw [hfirst, hsecond]
    simp only [dispatcher, caller]
    exact lockstep.post related twin.dispatcher _

theorem work (lockstep : Lockstep kept rel) (related : rel none first second)
    (dispatcher : Nat) : rel none (first.work dispatcher) (second.work dispatcher) := by
  have same : second.dispatchers[dispatcher]? = first.dispatchers[dispatcher]? := by
    rw [(lockstep.same related).dispatchers]
  cases hpopped : (first.dispatchers[dispatcher]?).bind Dispatcher.pop? with
  | none => simpa [Deployment.work, same, hpopped] using related
  | some popped =>
      have taken := lockstep.withDispatcher dispatcher popped.2 related
      simpa [Deployment.work, same, hpopped, Deployment.withDispatcher] using
        lockstep.run taken popped.1

/-! ## Sessions -/

theorem sendBuffer (lockstep : Lockstep kept rel) (related : rel spared first second)
    (owner : Nat) (reason : FlushReason) :
    rel spared (first.sendBuffer owner reason) (second.sendBuffer owner reason) := by
  have polled := lockstep.poll owner related
  have emptied := lockstep.aloof Session.aloof_emptied owner polled
  simp only [Deployment.sendBuffer, (lockstep.same related).session?_poll]
  cases (first.poll owner).session? owner with
  | none => exact polled
  | some session =>
      simp only
      split
      · exact emptied
      · split
        · exact polled
        · exact lockstep.postRequest emptied owner _

theorem sendEvent (lockstep : Lockstep kept rel) (related : rel spared first second)
    (owner : Nat) (kind : EventKind) (reason : FlushReason) :
    rel spared (first.sendEvent owner kind reason) (second.sendEvent owner kind reason) := by
  have recorded := lockstep.aloof
    (Session.aloof_recorded first.exchange.now.milliseconds kind) owner related
  simp only [Deployment.sendEvent, (lockstep.same related).now]
  exact lockstep.sendBuffer recorded owner reason

theorem announce (lockstep : Lockstep kept rel) (related : rel spared first second)
    (owner : Nat) {manager twin : Manager} (timeout : manager.timeout = twin.timeout)
    {session other : Session} (id : session.id = other.id) (token : ActivityToken)
    (component : ComponentName) (flags : CaptureFlags) :
    rel spared (first.announce owner manager session token component flags)
      (second.announce owner twin other token component flags) := by
  have opened := lockstep.opening owner twin token component flags related
  simp only [Deployment.opening, (lockstep.same related).newChannel] at opened
  simp only [Deployment.announce, timeout, id, (lockstep.same related).newChannel]
  exact lockstep.sendEvent (lockstep.postRequest opened owner _) owner _ _

theorem startSession (lockstep : Lockstep kept rel) (related : rel spared first second)
    (owner : Nat) (token : ActivityToken) (component : ComponentName) (flags : CaptureFlags) :
    rel spared (first.startSession owner token component flags)
      (second.startSession owner token component flags) := by
  unfold Deployment.startSession
  rcases (lockstep.same related).managers owner with
    ⟨hfirst, hsecond⟩ | ⟨manager, twin, hfirst, hsecond, alike⟩
  · rw [hfirst, hsecond]
    exact related
  · rw [hfirst, hsecond]
    simp only
    rcases twins_of_map_eq (congrArg Manager.session alike) with
      ⟨hnone, hother⟩ | ⟨session, other, hsession, hother, twins⟩
    · rw [hnone, hother]
      exact related
    · have lifecycle : session.lifecycle = other.lifecycle := (congrArg Session.lifecycle twins :)
      have id : session.id = other.id := (congrArg Session.id twins :)
      have timeout : manager.timeout = twin.timeout := (congrArg Manager.timeout alike :)
      rw [hsession, hother]
      simp only [lifecycle]
      split
      · exact related
      · split
        · exact lockstep.openedOff owner token component flags related
        · exact lockstep.announce related owner timeout id token component flags

theorem flushSession (lockstep : Lockstep kept rel) (related : rel spared first second)
    (owner : Nat) (reason : FlushReason) :
    rel spared (first.flushSession owner reason) (second.flushSession owner reason) := by
  unfold Deployment.flushSession
  rcases (lockstep.same related).sessions owner with
    ⟨hfirst, hsecond⟩ | ⟨session, twin, hfirst, hsecond, alike⟩
  · rw [hfirst, hsecond]
    exact related
  · have lifecycle : session.lifecycle = twin.lifecycle := (congrArg Session.lifecycle alike :)
    rw [hfirst, hsecond]
    simp only [lifecycle]
    split
    · exact lockstep.sendBuffer related owner reason
    · exact related

/-- The end of a cycle begins with a look at the session. -/
theorem closeSession (lockstep : Lockstep kept rel) (related : rel none first second)
    (owner : Nat) {session twin : Session} (id : session.id = twin.id)
    (announced : session.announced = twin.announced) :
    rel none (first.closeSession owner session) (second.closeSession owner twin) := by
  have looked := lockstep.spare owner related
  simp only [Deployment.closeSession, id, announced, (lockstep.same related).session?_poll]
  have spoken : rel (some owner)
      (if ((first.poll owner).session? owner).any (fun session => !session.disabled) then
        (first.poll owner).sendEvent owner .finished .sessionFinished
      else first.poll owner)
      (if ((first.poll owner).session? owner).any (fun session => !session.disabled) then
        (second.poll owner).sendEvent owner .finished .sessionFinished
      else second.poll owner) := by
    split
    · exact lockstep.sendEvent looked owner .finished .sessionFinished
    · exact looked
  apply lockstep.relax
  apply lockstep.closed
  split
  · exact lockstep.postRequest spoken owner _
  · exact spoken

theorem destroySession (lockstep : Lockstep kept rel) (related : rel none first second)
    (owner : Nat) : rel none (first.destroySession owner) (second.destroySession owner) := by
  unfold Deployment.destroySession
  rcases (lockstep.same related).sessions owner with
    ⟨hfirst, hsecond⟩ | ⟨session, twin, hfirst, hsecond, alike⟩
  · rw [hfirst, hsecond]
    exact related
  · have lifecycle : session.lifecycle = twin.lifecycle := (congrArg Session.lifecycle alike :)
    rw [hfirst, hsecond]
    simp only [lifecycle]
    split
    · exact lockstep.closeSession related owner (congrArg Session.id alike :)
        (congrArg Session.announced alike :)
    · exact lockstep.aloof Session.aloof_retired owner related

/-! ## Managers -/

theorem ensureSession (lockstep : Lockstep kept rel) (related : rel spared first second)
    (owner : Nat) : rel spared (first.ensureSession owner) (second.ensureSession owner) := by
  rcases (lockstep.same related).managers owner with
    ⟨hfirst, hsecond⟩ | ⟨manager, twin, hfirst, hsecond, alike⟩
  · rw [ensureSession_eq_self hfirst, ensureSession_eq_self hsecond]
    exact related
  · rcases twins_of_map_eq (congrArg Manager.session alike) with
      ⟨hnone, hother⟩ | ⟨session, other, hsession, hother, -⟩
    · have next := (lockstep.same related).nextSession
      have made := lockstep.renumber ⟨first.nextSession.value + 1⟩
        (lockstep.make owner first.nextSession related)
      simpa [Deployment.ensureSession, hfirst, hsecond, hnone, hother, next] using made
    · have there : first.session? owner = some session :=
        (session?_of_manager hfirst).trans hsession
      have thereToo : second.session? owner = some other :=
        (session?_of_manager hsecond).trans hother
      rw [ensureSession_of_session? there, ensureSession_of_session? thereToo]
      exact related

theorem onStart (lockstep : Lockstep kept rel) (related : rel spared first second)
    (owner : Nat) (token : ActivityToken) (component : ComponentName) (flags : CaptureFlags) :
    rel spared (first.onStart owner token component flags).2
      (second.onStart owner token component flags).2 := by
  unfold Deployment.onStart
  split
  · exact related
  · have marked := lockstep.mark owner (fun before => before.merge flags) related
    simp only [(lockstep.same marked).flags]
    exact lockstep.startSession (lockstep.ensureSession marked owner) owner token component _

theorem removeUserData (lockstep : Lockstep kept rel) (related : rel spared first second)
    (owner : Nat) (removal : RemovalRequest) :
    (second.removeUserData owner removal).1 = (first.removeUserData owner removal).1 ∧
      rel spared (first.removeUserData owner removal).2
        (second.removeUserData owner removal).2 := by
  cases empty : removal.isEmpty with
  | true => simpa [Deployment.removeUserData, empty] using related
  | false =>
      rcases (lockstep.same related).managers owner with
        ⟨hfirst, hsecond⟩ | ⟨manager, twin, hfirst, hsecond, alike⟩
      · simpa [Deployment.removeUserData, empty, hfirst, hsecond] using related
      · have caller : manager.caller = twin.caller := (congrArg Manager.caller alike :)
        rw [removeUserData_eq empty hfirst, removeUserData_eq empty hsecond, caller]
        simp only [(lockstep.same related).ask]
        exact ⟨trivial, lockstep.ask _ _ related⟩

/-! ## Questions -/

theorem issue (lockstep : Lockstep kept rel) (related : rel spared first second) (owner : Nat)
    {manager twin : Manager} (alike : manager.contour = twin.contour)
    (request : ChannelId → Request) :
    (second.issue owner twin request).1 = (first.issue owner manager request).1 ∧
      rel spared (first.issue owner manager request).2 (second.issue owner twin request).2 := by
  have caller : manager.caller = twin.caller := (congrArg Manager.caller alike :)
  have timeout : manager.timeout = twin.timeout := (congrArg Manager.timeout alike :)
  have opened := lockstep.newChannel twin.timeout related
  rw [issue_eq, issue_eq, timeout, caller]
  simp only [(lockstep.same related).newChannel, (lockstep.same opened).ask]
  exact ⟨trivial, lockstep.ask _ _ opened⟩

/-- The channel of a question is a new one. -/
theorem kept_of_issue (lockstep : Lockstep kept rel) (related : rel spared first second)
    {owner : Nat} {manager : Manager} {request : ChannelId → Request} {channel : ChannelId}
    (issued : (first.issue owner manager request).1 = .ok channel) : kept channel := by
  have fresh := (lockstep.same related).fresh manager.timeout
  rw [issue_eq] at issued
  cases hasked : ((first.newChannel manager.timeout).2.ask (some owner)
      ⟨manager.caller, request (first.newChannel manager.timeout).1⟩).1 with
  | error failure => simp [hasked, Except.map, Except.mapError] at issued
  | ok _ =>
      simp only [hasked, Except.map, Except.mapError, Except.ok.injEq] at issued
      rwa [issued] at fresh

theorem put (lockstep : Lockstep kept rel) (related : rel spared first second) (owner : Nat)
    (question : Question) : rel spared (first.put owner question) (second.put owner question) := by
  unfold Deployment.put
  rcases (lockstep.same related).managers owner with
    ⟨hfirst, hsecond⟩ | ⟨manager, twin, hfirst, hsecond, alike⟩
  · rw [hfirst, hsecond]
    exact related
  · rw [hfirst, hsecond]
    exact (lockstep.issue related owner alike question.request).2

theorem asking (lockstep : Lockstep kept rel) (related : rel spared first second) (owner : Nat)
    (question : Question) :
    rel spared (first.asking owner question) (second.asking owner question) := by
  cases question with
  | serviceComponentName =>
      have polled := lockstep.poll owner related
      simp only [Deployment.asking, (lockstep.same related).isEnabled_fst]
      split
      · exact lockstep.put polled owner .serviceComponentName
      · exact polled
  | featureEnabled => exact lockstep.put related owner _
  | setFeatureEnabled enabled => exact lockstep.put related owner _

/-! ## Operations -/

theorem perform (lockstep : Lockstep kept rel) (related : rel none first second)
    (operation : Operation) : rel none (first.perform operation) (second.perform operation) := by
  cases operation with
  | join context caller timeout dispatcher => exact lockstep.addManager _ rfl related
  | ensureSession owner => exact lockstep.ensureSession related owner
  | onStart owner token component flags =>
      exact lockstep.onStart related owner token component flags
  | onStop owner => exact lockstep.destroySession (lockstep.ensureSession related owner) owner
  | flush owner reason =>
      exact lockstep.flushSession (lockstep.ensureSession related owner) owner reason
  | setEnabled owner enabled =>
      exact lockstep.mark owner (fun flags =>
        if enabled then flags.remove .disabledByApp else flags.merge .disabledByApp) related
  | removeUserData owner removal => exact (lockstep.removeUserData related owner removal).2
  | ask owner question => exact lockstep.asking related owner question
  | isEnabled owner => exact lockstep.poll owner related
  | report owner => exact lockstep.poll owner related
  | observeSession owner => exact lockstep.poll owner related
  | sessionReport owner => exact lockstep.poll owner related
  | startSession owner token component flags =>
      exact lockstep.startSession related owner token component flags
  | flushSession owner reason => exact lockstep.flushSession related owner reason
  | destroySession owner => exact lockstep.destroySession related owner

end Lockstep

end Deployment
end ContentCapture
