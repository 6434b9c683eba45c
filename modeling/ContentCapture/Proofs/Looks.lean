import ContentCapture.Proofs.Lockstep

namespace ContentCapture

/-!
# Looks

A look at the answer to a start changes the session that is looked at.  Nobody but the
one who looks can tell: deployments agree if their sessions are the same once all of
them were looked at, and every step keeps that.

The end of a cycle is the delicate step.  It throws away the channel for the answer, so
that what was not seen before is never seen.  But a session is looked at when its cycle
is about to end, and from then on the session is really the same.
-/

namespace Session

/-- A look is as good as an earlier one and itself. -/
theorem polled_polled_of_precedes {first second : Exchange} (precedes : first.Precedes second)
    (session : Session) : (session.polled first).polled second = session.polled second := by
  cases hreply : session.startReply with
  | none => rw [polled_of_startReply hreply]
  | some channel =>
      cases hanswer : first.peek channel with
      | none => simp [polled, hreply, hanswer]
      | some answer =>
          have also := precedes channel answer hanswer
          rw [polled_of_peek hreply hanswer, polled_of_peek hreply also, informed_eq]
          exact polled_of_startReply rfl

/-- What a look makes of the session of a manager.  That of `spared` is left alone. -/
def seen (exchange : Exchange) (spared : Option Nat) (owner : Nat) (session : Session) : Session :=
  if spared = some owner then session else session.polled exchange

@[simp] theorem seen_self (exchange : Exchange) (owner : Nat) (session : Session) :
    session.seen exchange (some owner) owner = session :=
  if_pos rfl

@[simp] theorem seen_none (exchange : Exchange) (owner : Nat) (session : Session) :
    session.seen exchange none owner = session.polled exchange := by
  simp [seen]

/-- A look changes nothing but what the answer is about. -/
theorem seen_eq (exchange : Exchange) (spared : Option Nat) (owner : Nat) (session : Session) :
    session.seen exchange spared owner =
      { session with
        startReply := (session.seen exchange spared owner).startReply
        state := (session.seen exchange spared owner).state
        disabled := (session.seen exchange spared owner).disabled } := by
  unfold seen
  split
  · rfl
  · exact polled_eq exchange session

theorem seen_seen {first second : Exchange} (precedes : first.Precedes second)
    (spared : Option Nat) (owner : Nat) (session : Session) :
    (session.seen first spared owner).seen second spared owner =
      session.seen second spared owner := by
  unfold seen
  split
  · rfl
  · exact session.polled_polled_of_precedes precedes

theorem polled_seen (exchange : Exchange) (spared : Option Nat) (owner : Nat) (session : Session) :
    (session.seen exchange spared owner).polled exchange = session.polled exchange := by
  unfold seen
  split
  · rfl
  · exact session.polled_polled exchange

/-- A change of the session of a manager that is indifferent to looks. -/
def Indifferent (exchange : Exchange) (spared : Option Nat) (owner : Nat)
    (change : Session → Session) : Prop :=
  ∀ session : Session, (change (session.seen exchange spared owner)).seen exchange spared owner =
    (change session).seen exchange spared owner

/-- The spared session may be changed in any way. -/
theorem indifferent_spared (exchange : Exchange) (owner : Nat) (change : Session → Session) :
    Indifferent exchange (some owner) owner change := by
  intro session
  simp

/-- So may any session in a way that minds neither the answer nor the channel for it. -/
theorem Aloof.indifferent {change : Session → Session} (aloof : Aloof change)
    (exchange : Exchange) (spared : Option Nat) (owner : Nat) :
    Indifferent exchange spared owner change := by
  intro session
  have comm : ∀ session : Session,
      (change session).polled exchange = change (session.polled exchange) :=
    fun session => session.polled_comm exchange change (aloof.startReply session)
      (aloof.informed session)
  unfold seen
  split
  · rfl
  · rw [comm, polled_polled, ← comm]

/-- And so may any session in a way that overwrites all that a look may have changed. -/
theorem indifferent_of_eq {exchange : Exchange} {change : Session → Session}
    (same : ∀ session : Session, change (session.polled exchange) = change session)
    (spared : Option Nat) (owner : Nat) : Indifferent exchange spared owner change := by
  intro session
  unfold seen
  split
  · rfl
  · rw [same]

theorem indifferent_polled (exchange : Exchange) (spared : Option Nat) (owner : Nat) :
    Indifferent exchange spared owner (polled exchange) :=
  indifferent_of_eq (fun session => session.polled_polled exchange) spared owner

theorem indifferent_opened (exchange : Exchange) (spared : Option Nat) (owner : Nat)
    (token : ActivityToken) (component : ComponentName) (flags : CaptureFlags)
    (channel : ChannelId) :
    Indifferent exchange spared owner fun session =>
      session.opened token component flags channel := by
  apply indifferent_of_eq
  intro session
  rw [polled_eq]
  rfl

theorem indifferent_openedOff (exchange : Exchange) (spared : Option Nat) (owner : Nat)
    (token : ActivityToken) (component : ComponentName) (flags : CaptureFlags) :
    Indifferent exchange spared owner fun session => session.openedOff token component flags := by
  apply indifferent_of_eq
  intro session
  rw [polled_eq]
  rfl

theorem contour_seen (exchange : Exchange) (spared : Option Nat) (owner : Nat)
    (session : Session) : (session.seen exchange spared owner).contour = session.contour := by
  rw [seen_eq]
  rfl

end Session

namespace Manager

def seen (exchange : Exchange) (spared : Option Nat) (owner : Nat) (manager : Manager) : Manager :=
  manager.withSession (Session.seen exchange spared owner)

theorem seen_self (exchange : Exchange) (owner : Nat) (manager : Manager) :
    manager.seen exchange (some owner) owner = manager := by
  rcases manager with ⟨context, caller, timeout, dispatcher, flags, session⟩
  cases session <;> simp [seen, withSession]

theorem seen_seen {first second : Exchange} (precedes : first.Precedes second)
    (spared : Option Nat) (owner : Nat) (manager : Manager) :
    (manager.seen first spared owner).seen second spared owner =
      manager.seen second spared owner := by
  cases hsession : manager.session <;>
    simp [seen, withSession, hsession, Session.seen_seen precedes spared owner]

/-- Two managers that are the same after a look. -/
def Twins (exchange : Exchange) (spared : Option Nat) (owner : Nat) (manager twin : Manager) :
    Prop :=
  manager.seen exchange spared owner = twin.seen exchange spared owner

theorem contour_seen (exchange : Exchange) (spared : Option Nat) (owner : Nat)
    (manager : Manager) : (manager.seen exchange spared owner).contour = manager.contour := by
  cases hsession : manager.session <;>
    simp [contour, seen, withSession, hsession, Session.contour_seen]

theorem seen_none_seen (exchange : Exchange) (spared : Option Nat) (owner : Nat)
    (manager : Manager) :
    (manager.seen exchange spared owner).seen exchange none owner =
      manager.seen exchange none owner := by
  cases hsession : manager.session <;>
    simp [seen, withSession, hsession, Session.polled_seen exchange spared owner]

end Manager

namespace Deployment

variable {σ : Type}

def sight (deployment : Deployment σ) (spared : Option Nat) (owner : Nat) : Option Manager :=
  (deployment.managers[owner]?).map (Manager.seen deployment.exchange spared owner)

def withManagers (deployment : Deployment σ) (managers : List Manager) : Deployment σ :=
  { deployment with managers := managers }

/-- Two deployments that are the same once all sessions were looked at but that of `spared`,
which is the same at once. -/
inductive Agrees (spared : Option Nat) (first : Deployment σ) : Deployment σ → Prop
  | intro (managers : List Manager)
      (sight : ∀ owner,
        first.sight spared owner = (first.withManagers managers).sight spared owner) :
      Agrees spared first (first.withManagers managers)

/-- A step that has nothing to do with managers. -/
structure Remote (step : Deployment σ → Deployment σ) : Prop where
  ignores : ∀ deployment managers,
    step (deployment.withManagers managers) = (step deployment).withManagers managers
  precedes : ∀ deployment : Deployment σ,
    deployment.exchange.Precedes (step deployment).exchange

theorem Remote.managers {step : Deployment σ → Deployment σ} (remote : Remote step)
    (deployment : Deployment σ) : (step deployment).managers = deployment.managers := by
  have same := congrArg Deployment.managers (remote.ignores deployment deployment.managers)
  exact same

theorem Remote.sight {step : Deployment σ → Deployment σ} (remote : Remote step)
    (deployment : Deployment σ) (spared : Option Nat) (owner : Nat) :
    (step deployment).sight spared owner =
      (deployment.sight spared owner).map
        (Manager.seen (step deployment).exchange spared owner) := by
  rw [Deployment.sight, Deployment.sight, remote.managers, Option.map_map]
  congr 1
  funext manager
  exact (manager.seen_seen (remote.precedes deployment) spared owner).symm

namespace Agrees

variable {spared : Option Nat} {first second third : Deployment σ}

theorem refl (spared : Option Nat) (deployment : Deployment σ) :
    Agrees spared deployment deployment :=
  .intro deployment.managers fun _ => rfl

theorem symm (agrees : Agrees spared first second) : Agrees spared second first := by
  cases agrees with
  | intro managers sight =>
      exact @intro σ spared (first.withManagers managers) first.managers fun owner =>
        (sight owner).symm

theorem trans (earlier : Agrees spared first second) (later : Agrees spared second third) :
    Agrees spared first third := by
  cases earlier with
  | intro managers sight =>
      cases later with
      | intro others same => exact .intro others fun owner => (sight owner).trans (same owner)

theorem remote (agrees : Agrees spared first second) {step : Deployment σ → Deployment σ}
    (remote : Remote step) : Agrees spared (step first) (step second) := by
  cases agrees with
  | intro managers sight =>
      rw [remote.ignores]
      refine .intro managers fun owner => ?_
      -- The step may have brought answers, but what is seen now swallows what was seen before.
      rw [← remote.ignores, remote.sight, remote.sight, sight, remote.ignores]
      rfl

/-- The two managers at one place. -/
theorem twins (agrees : Agrees spared first second) (owner : Nat) :
    (first.managers[owner]? = none ∧ second.managers[owner]? = none) ∨
      ∃ manager twin, first.managers[owner]? = some manager ∧
        second.managers[owner]? = some twin ∧
        Manager.Twins first.exchange spared owner manager twin := by
  cases agrees with
  | intro managers sight => exact twins_of_map_eq (sight owner)

theorem updateManager (agrees : Agrees spared first second) (owner : Nat)
    {change : Manager → Manager}
    (keeps : ∀ manager twin, Manager.Twins first.exchange spared owner manager twin →
      Manager.Twins first.exchange spared owner (change manager) (change twin)) :
    Agrees spared (first.updateManager owner change) (second.updateManager owner change) := by
  have both := agrees.twins owner
  cases agrees with
  | intro managers sight =>
      change Agrees spared (first.updateManager owner change)
        ((first.updateManager owner change).withManagers (managers.modify owner change))
      refine .intro _ fun index => ?_
      have same := sight index
      simp only [Deployment.sight, Deployment.updateManager, withManagers] at same ⊢
      by_cases hindex : owner = index
      · subst hindex
        rcases both with ⟨hfirst, hsecond⟩ | ⟨manager, twin, hfirst, hsecond, alike⟩
        · simp only [withManagers] at hsecond
          simp [hfirst, hsecond]
        · simp only [withManagers] at hsecond
          have kept := keeps manager twin alike
          unfold Manager.Twins at kept
          simp [hfirst, hsecond, kept]
      · simpa [List.getElem?_modify, hindex] using same

theorem exchange (agrees : Agrees spared first second) : second.exchange = first.exchange := by
  cases agrees
  rfl

theorem journal (agrees : Agrees spared first second) : second.journal = first.journal := by
  cases agrees
  rfl

theorem updateSession (agrees : Agrees spared first second) {owner : Nat}
    {change : Session → Session}
    (indifferent : Session.Indifferent first.exchange spared owner change) :
    Agrees spared (first.updateSession owner change) (second.updateSession owner change) := by
  refine agrees.updateManager owner fun manager twin alike => ?_
  have changed : ∀ manager : Manager,
      (manager.withSession change).seen first.exchange spared owner =
        ((manager.seen first.exchange spared owner).withSession change).seen first.exchange spared
          owner := by
    intro manager
    cases hsession : manager.session with
    | none => simp [Manager.seen, Manager.withSession, hsession]
    | some session => simp [Manager.seen, Manager.withSession, hsession, indifferent session]
  unfold Manager.Twins at alike ⊢
  rw [changed manager, changed twin, alike]

theorem mark (agrees : Agrees spared first second) (owner : Nat)
    (change : CaptureFlags → CaptureFlags) :
    Agrees spared
      (first.updateManager owner fun manager => { manager with flags := change manager.flags })
      (second.updateManager owner fun manager =>
        { manager with flags := change manager.flags }) := by
  refine agrees.updateManager owner fun manager twin alike => ?_
  exact congrArg (fun seen : Manager => { seen with flags := change seen.flags }) alike

/-! ## Looks -/

theorem poll (agrees : Agrees spared first second) (owner : Nat) :
    Agrees spared (first.poll owner) (second.poll owner) := by
  have exchange := agrees.exchange
  unfold Deployment.poll
  rw [exchange]
  exact agrees.updateSession (Session.indifferent_polled first.exchange spared owner)

end Agrees

/-- A look is not noticed. -/
theorem agrees_poll (deployment : Deployment σ) (owner : Nat) :
    Agrees none deployment (deployment.poll owner) := by
  have looked : ∀ manager : Manager,
      (manager.withSession (Session.polled deployment.exchange)).seen deployment.exchange none
        owner = manager.seen deployment.exchange none owner := by
    intro manager
    cases hsession : manager.session <;> simp [Manager.seen, Manager.withSession, hsession,
      Session.polled_polled]
  refine .intro (deployment.managers.modify owner
    (Manager.withSession · (Session.polled deployment.exchange))) fun index => ?_
  simp only [sight, withManagers, List.getElem?_modify]
  by_cases hindex : owner = index
  · subst hindex
    cases deployment.managers[owner]? with
    | none => rfl
    | some manager => simp [looked]
  · simp [hindex]

/-- A look at a session that is spared from then on is a look at all of them. -/
theorem sight_poll (deployment : Deployment σ) (owner index : Nat) :
    (deployment.poll owner).sight (some owner) index = deployment.sight none index := by
  simp only [sight, poll, updateSession, updateManager, List.getElem?_modify]
  by_cases hindex : owner = index
  · subst hindex
    cases deployment.managers[owner]? with
    | none => rfl
    | some manager =>
        cases hsession : manager.session <;> simp [Manager.seen, Manager.withSession, hsession]
  · have same : Manager.seen deployment.exchange (some owner) index =
        Manager.seen deployment.exchange none index := by
      funext manager
      have spared : Session.seen deployment.exchange (some owner) index =
          Session.seen deployment.exchange none index := by
        funext session
        simp [Session.seen, hindex]
      rw [Manager.seen, spared]
      rfl
    simp [hindex, same]

namespace Agrees

variable {spared : Option Nat} {first second : Deployment σ}

/-- From a look on the session that is looked at is really the same. -/
theorem spare (agrees : Agrees none first second) (owner : Nat) :
    Agrees (some owner) (first.poll owner) (second.poll owner) := by
  cases agrees with
  | intro managers sight =>
      refine .intro ((first.withManagers managers).poll owner).managers fun index => ?_
      have same := (first.withManagers managers).sight_poll owner index
      rw [sight_poll, sight]
      exact same.symm

/-- What is really the same is so after a look. -/
theorem relax (agrees : Agrees spared first second) : Agrees none first second := by
  cases agrees with
  | intro managers sight =>
      have seen : ∀ (deployment : Deployment σ) (owner : Nat), deployment.sight none owner =
          (deployment.sight spared owner).map (Manager.seen deployment.exchange none owner) := by
        intro deployment owner
        rw [Deployment.sight, Deployment.sight, Option.map_map]
        congr 1
        funext manager
        exact (manager.seen_none_seen deployment.exchange spared owner).symm
      refine .intro managers fun owner => ?_
      rw [seen, seen, sight]
      rfl

/-- The manager whose session was looked at is the same on both sides, whatever was spared. -/
theorem getElem?_poll (agrees : Agrees spared first second) (owner : Nat) :
    (second.poll owner).managers[owner]? = (first.poll owner).managers[owner]? := by
  have polled : ∀ deployment : Deployment σ, (deployment.poll owner).managers[owner]? =
      deployment.sight none owner := by
    intro deployment
    have looked := deployment.sight_poll owner owner
    rw [← looked, sight]
    have unseen : Manager.seen (deployment.poll owner).exchange (some owner) owner = id := by
      funext manager
      exact manager.seen_self _ owner
    rw [unseen, Option.map_id]
    rfl
  rw [polled, polled]
  cases agrees.relax with
  | intro managers sight => exact (sight owner).symm

end Agrees

/-! ## Steps that have nothing to do with managers -/

theorem remote_noted (entry : Entry) :
    Remote fun deployment : Deployment σ => deployment.noted entry :=
  ⟨fun _ _ => rfl, fun deployment => .refl deployment.exchange⟩

theorem remote_newChannel (timeout : Span) :
    Remote fun deployment : Deployment σ => (deployment.newChannel timeout).2 :=
  ⟨fun _ _ => rfl, fun deployment => deployment.exchange.precedes_newChannel timeout⟩

theorem remote_discard (request : Request) :
    Remote fun deployment : Deployment σ => deployment.discard request :=
  ⟨fun _ _ => rfl, fun deployment => deployment.exchange.precedes_answerAll _⟩

theorem remote_elapse (now : Span) :
    Remote fun deployment : Deployment σ =>
      { deployment with exchange := deployment.exchange.reached now } :=
  ⟨fun _ _ => rfl, fun deployment => deployment.exchange.precedes_reached now⟩

theorem remote_await (channel : ChannelId) :
    Remote fun deployment : Deployment σ => deployment.await channel := by
  refine ⟨fun _ _ => rfl, fun deployment => ?_⟩
  simp only [await, Exchange.await]
  split
  · exact .refl deployment.exchange
  · exact deployment.exchange.precedes_reached _

theorem remote_withDispatcher (dispatcher : Nat) (queue : Dispatcher Job) :
    Remote fun deployment : Deployment σ => deployment.withDispatcher dispatcher queue :=
  ⟨fun _ _ => rfl, fun deployment => .refl deployment.exchange⟩

theorem remote_renumber (next : SessionId) :
    Remote fun deployment : Deployment σ => { deployment with nextSession := next } :=
  ⟨fun _ _ => rfl, fun deployment => .refl deployment.exchange⟩

theorem remote_acted [Autonomous σ] (act : Autonomous.Act σ) :
    Remote fun deployment : Deployment σ => deployment.acted act :=
  ⟨fun _ _ => rfl, fun deployment => deployment.exchange.precedes_answerAll _⟩

variable [Service σ]

theorem remote_ask (asker : Option Nat) (envelope : Envelope) :
    Remote fun deployment : Deployment σ => (deployment.ask asker envelope).2 :=
  ⟨fun _ _ => rfl, fun deployment => deployment.precedes_ask asker envelope⟩

/-! ## Deployments that agree go on in lockstep -/

namespace Agrees

variable {spared : Option Nat} {first second : Deployment σ}

omit [Service σ] in
theorem contour (agrees : Agrees spared first second) (owner : Nat) :
    (second.managers[owner]?).map Manager.contour =
      (first.managers[owner]?).map Manager.contour := by
  rcases agrees.twins owner with ⟨hfirst, hsecond⟩ | ⟨manager, twin, hfirst, hsecond, alike⟩
  · rw [hfirst, hsecond]
  · have contours := congrArg Manager.contour alike
    rw [Manager.contour_seen, Manager.contour_seen] at contours
    rw [hfirst, hsecond, Option.map_some, Option.map_some, contours]

theorem sameSight (agrees : Agrees spared first second) :
    SameSight (fun _ => True) first second := by
  have contour := agrees.contour
  have looked := agrees.getElem?_poll
  cases agrees
  exact ⟨contour, looked, rfl, rfl, rfl, rfl, fun _ _ => rfl, fun _ => rfl, fun _ => trivial,
    fun _ _ => rfl, rfl⟩

omit [Service σ] in
theorem length_managers (agrees : Agrees spared first second) :
    second.managers.length = first.managers.length := by
  have iff : ∀ owner : Nat, second.managers[owner]? = none ↔ first.managers[owner]? = none := by
    intro owner
    rcases agrees.twins owner with ⟨hfirst, hsecond⟩ | ⟨manager, twin, hfirst, hsecond, -⟩ <;>
      simp [hfirst, hsecond]
  apply Nat.le_antisymm
  · exact List.getElem?_eq_none_iff.mp ((iff _).mpr (List.getElem?_eq_none (Nat.le_refl _)))
  · exact List.getElem?_eq_none_iff.mp ((iff _).mp (List.getElem?_eq_none (Nat.le_refl _)))

omit [Service σ] in
theorem addManager (agrees : Agrees spared first second) (manager : Manager) :
    Agrees spared (first.addManager manager) (second.addManager manager) := by
  have length := agrees.length_managers
  cases agrees with
  | intro managers sight =>
      change Agrees spared (first.addManager manager)
        ((first.addManager manager).withManagers (managers ++ [manager]))
      refine .intro _ fun owner => ?_
      have same := sight owner
      simp only [Deployment.sight, Deployment.addManager, withManagers, List.getElem?_append] at *
      rw [length]
      split
      · exact same
      · rfl

omit [Service σ] in
theorem make (agrees : Agrees spared first second) (owner : Nat) (id : SessionId) :
    Agrees spared
      (first.updateManager owner fun manager => { manager with session := some { id := id } })
      (second.updateManager owner fun manager =>
        { manager with session := some { id := id } }) := by
  refine agrees.updateManager owner fun manager twin alike => ?_
  exact congrArg (fun seen : Manager => { seen with
    session := some (Session.seen first.exchange spared owner { id := id }) }) alike

theorem opening (agrees : Agrees spared first second) (owner : Nat) (manager : Manager)
    (token : ActivityToken) (component : ComponentName) (flags : CaptureFlags) :
    Agrees spared (first.opening owner manager token component flags)
      (second.opening owner manager token component flags) := by
  have made : (second.newChannel manager.timeout).1 = (first.newChannel manager.timeout).1 :=
    agrees.sameSight.newChannel manager.timeout
  unfold Deployment.opening
  rw [made]
  exact (agrees.remote (remote_newChannel manager.timeout)).updateSession
    (Session.indifferent_opened _ spared owner token component flags _)

end Agrees

/-- Operations go on in lockstep where all differences are gone after a look. -/
theorem lockstep_agrees : Lockstep (fun _ => True) (@Agrees σ) where
  same := Agrees.sameSight
  noted entry _ _ _ agrees := agrees.remote (remote_noted entry)
  withDispatcher dispatcher queue _ _ _ agrees :=
    agrees.remote (remote_withDispatcher dispatcher queue)
  renumber next _ _ _ agrees := agrees.remote (remote_renumber next)
  newChannel timeout _ _ _ agrees := agrees.remote (remote_newChannel timeout)
  discard request _ _ _ agrees := agrees.remote (remote_discard request)
  ask asker envelope _ _ _ agrees := agrees.remote (remote_ask asker envelope)
  await channel _ _ _ _ agrees := agrees.remote (remote_await channel)
  addManager manager _ _ _ _ agrees := agrees.addManager manager
  mark owner change _ _ _ agrees := agrees.mark owner change
  make owner id _ _ _ agrees := agrees.make owner id
  poll owner _ _ _ agrees := agrees.poll owner
  aloof aloof owner _ _ _ agrees := agrees.updateSession (aloof.indifferent _ _ owner)
  opening owner manager token component flags _ _ _ agrees :=
    agrees.opening owner manager token component flags
  openedOff owner token component flags _ _ _ agrees :=
    agrees.updateSession (Session.indifferent_openedOff _ _ owner token component flags)
  spare owner agrees := agrees.spare owner
  closed owner agrees := agrees.updateSession (Session.indifferent_spared _ owner Session.closed)
  relax := Agrees.relax

theorem Agrees.after [Autonomous σ] {first second : Deployment σ}
    (agrees : Agrees none first second) (event : Event σ) :
    Agrees none (first.after event) (second.after event) := by
  cases event with
  | operation operation => exact lockstep_agrees.perform agrees operation
  | work dispatcher => exact lockstep_agrees.work agrees dispatcher
  | act act => exact agrees.remote (remote_acted act)
  | elapse now => exact agrees.remote (remote_elapse now)

end Deployment
end ContentCapture
