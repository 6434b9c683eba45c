import ContentCapture.Proofs.Accounts
import ContentCapture.Proofs.Outlines
import ContentCapture.Proofs.Succession
import ContentCapture.Proofs.Unread

namespace ContentCapture

/-!
# Where flags come from

A manager never forgets a flag that an accepted start has brought, with one exception: the
flag by which the app turns capture off goes when the app turns it on again.  The session has
the flags that its manager had right after its last start, which is not to say that those are
the flags of the manager now.  A start that finds the session started and the wish of the app
are noted in the flags of the manager, and the session hears of neither until it is started
again.
-/

namespace CaptureFlags

/-! ## Single flags -/

/-- Whether the flag at a place is set. -/
def has (flags : CaptureFlags) (place : Nat) : Bool :=
  flags.bits.toBitVec.getLsbD place

@[simp] theorem has_empty (place : Nat) : empty.has place = false := by
  simp [has, empty]

theorem has_merge (flags other : CaptureFlags) (place : Nat) :
    (flags.merge other).has place = (flags.has place || other.has place) := by
  simp [has, merge]

theorem has_disabledByApp (place : Nat) : disabledByApp.has place = decide (place = 0) := by
  simp [has, disabledByApp]

/-- Only the flag itself goes when the app turns capture on. -/
theorem has_remove_disabledByApp (flags : CaptureFlags) (place : Nat) :
    (flags.remove disabledByApp).has place = (flags.has place && decide (place ≠ 0)) := by
  have first := has_disabledByApp place
  have inside : flags.has place = true → place < 32 := fun set =>
    BitVec.lt_of_getLsbD set
  simp only [has] at first inside ⊢
  simp only [remove, UInt32.toBitVec_and, UInt32.toBitVec_not, BitVec.getLsbD_and,
    BitVec.getLsbD_not, first]
  cases set : flags.bits.toBitVec.getLsbD place with
  | false => rfl
  | true => simp [inside set]

/-- The flag by which the app turns capture off stands first. -/
theorem isDisabledByApp_eq (flags : CaptureFlags) : flags.isDisabledByApp = flags.has 0 :=
  flags.isDisabledByApp_eq_getLsbD

end CaptureFlags

/-! ## Marks -/

/-- Something that is noted in the flags of a manager. -/
inductive Mark where
  /-- An accepted start has brought some flags. -/
  | carried (flags : CaptureFlags)
  /-- The app has said whether it wants capture. -/
  | wanted (enabled : Bool)
  deriving DecidableEq, Repr

namespace Mark

def applied (flags : CaptureFlags) : Mark → CaptureFlags
  | .carried given => flags.merge given
  | .wanted enabled =>
      if enabled then flags.remove .disabledByApp else flags.merge .disabledByApp

/-- Whether a mark brings the flag at a place. -/
def brings (place : Nat) : Mark → Bool
  | .carried flags => flags.has place
  | .wanted enabled => !enabled && decide (place = 0)

/-- Whether the app has turned capture on. -/
def reenables : Mark → Bool
  | .carried _ => false
  | .wanted enabled => enabled

theorem brings_zero_iff (mark : Mark) :
    mark.brings 0 = true ↔ mark = .wanted false ∨
      ∃ given, mark = .carried given ∧ given.isDisabledByApp = true := by
  cases mark with
  | carried given => simp [brings, CaptureFlags.isDisabledByApp_eq]
  | wanted enabled => simp [brings]

/-- No flag but the first is brought by the app's wish. -/
theorem brings_iff {place : Nat} (other : place ≠ 0) (mark : Mark) :
    mark.brings place = true ↔ ∃ given, mark = .carried given ∧ given.has place = true := by
  cases mark with
  | carried given => simp [brings]
  | wanted enabled => simp [brings, other]

theorem has_applied (flags : CaptureFlags) (mark : Mark) (place : Nat) :
    (mark.applied flags).has place =
      (flags.has place && !(mark.reenables && decide (place = 0)) || mark.brings place) := by
  cases mark with
  | carried given => simp [applied, reenables, brings, CaptureFlags.has_merge]
  | wanted enabled =>
      cases enabled with
      | true => simp [applied, reenables, brings, CaptureFlags.has_remove_disabledByApp]
      | false =>
          simp [applied, reenables, brings, CaptureFlags.has_merge,
            CaptureFlags.has_disabledByApp]

/-- The first flag is set if something has brought it since the app last turned capture
on. -/
theorem has_zero_foldl (marks : List Mark) :
    (marks.foldl applied .empty).has 0 = (behindLast reenables marks).any (brings 0) := by
  induction marks using List.reverseRecOn with
  | nil => simp
  | append_singleton marks mark inductionHypothesis =>
      rw [List.foldl_append, List.foldl_cons, List.foldl_nil, has_applied, inductionHypothesis,
        behindLast_concat]
      cases mark with
      | carried given => simp [reenables]
      | wanted enabled => cases enabled <;> simp [reenables, brings]

/-- Any other flag is set if a start has ever brought it. -/
theorem has_foldl_of_ne_zero {place : Nat} (other : place ≠ 0) (marks : List Mark) :
    (marks.foldl applied .empty).has place = marks.any (brings place) := by
  induction marks using List.reverseRecOn with
  | nil => simp
  | append_singleton marks mark inductionHypothesis =>
      rw [List.foldl_append, List.foldl_cons, List.foldl_nil, has_applied, inductionHypothesis]
      simp [other]

end Mark

/-! ## Marks of operations -/

/-- What an operation notes in the flags of a manager.  A start that is rejected notes
nothing. -/
def Operation.mark? (owner : Nat) : Operation → Option Mark
  | .onStart who token component flags =>
      if who = owner ∧ Deployment.startFault? token component = none then some (.carried flags)
      else none
  | .setEnabled who enabled => if who = owner then some (.wanted enabled) else none
  | _ => none

namespace Outline

def flags? (outline : Outline) (owner : Nat) : Option CaptureFlags :=
  (outline.managers[owner]?).map ManagerOutline.flags

theorem flags?_update (outline : Outline) (who owner : Nat)
    (change : ManagerOutline → ManagerOutline) (change' : CaptureFlags → CaptureFlags)
    (same : ∀ manager, (change manager).flags = change' manager.flags) :
    (outline.update who change).flags? owner =
      (outline.flags? owner).map fun flags => if who = owner then change' flags else flags := by
  simp only [flags?, update, List.getElem?_modify]
  cases outline.managers[owner]? with
  | none => rfl
  | some manager => by_cases own : who = owner <;> simp [own, same]

/-- The flags do not change when the session of a manager is made or enters a phase. -/
theorem flags?_update_of_eq (outline : Outline) (who owner : Nat)
    {change : ManagerOutline → ManagerOutline}
    (same : ∀ manager, (change manager).flags = manager.flags) :
    (outline.update who change).flags? owner = outline.flags? owner := by
  rw [outline.flags?_update who owner change id same]
  simp

theorem flags?_ensure (outline : Outline) (who owner : Nat) :
    (outline.ensure who).flags? owner = outline.flags? owner := by
  unfold ensure
  split
  · rfl
  · split
    · rfl
    · exact outline.flags?_update_of_eq who owner fun _ => rfl

theorem flags?_enter (outline : Outline) (who owner : Nat) (lifecycle : Lifecycle) :
    (outline.enter who lifecycle).flags? owner = outline.flags? owner :=
  outline.flags?_update_of_eq who owner fun _ => rfl

theorem flags?_mark (outline : Outline) (who owner : Nat) (change : CaptureFlags → CaptureFlags) :
    (outline.mark who change).flags? owner =
      (outline.flags? owner).map fun flags => if who = owner then change flags else flags :=
  outline.flags?_update who owner _ change fun _ => rfl

theorem flags?_onStart (outline : Outline) (who owner : Nat) {token : ActivityToken}
    {component : ComponentName} (proper : Deployment.startFault? token component = none)
    (given : CaptureFlags) :
    (outline.after (.onStart who token component given)).flags? owner =
      (outline.flags? owner).map fun flags =>
        if who = owner then flags.merge given else flags := by
  simp only [after, proper, flags?_enter, flags?_ensure, flags?_mark]

theorem flags?_join (outline : Outline) (owner dispatcher : Nat) :
    let joined : Outline :=
      { outline with managers := outline.managers ++ [⟨dispatcher, .empty, none⟩] }
    (joined.flags? owner).getD .empty = (outline.flags? owner).getD .empty := by
  intro joined
  rcases Nat.lt_trichotomy owner outline.managers.length with inside | last | outside
  · simp [joined, flags?, List.getElem?_append_left inside]
  · subst last
    simp [joined, flags?]
  · have absent : outline.managers[owner]? = none := List.getElem?_eq_none (Nat.le_of_lt outside)
    have still : (outline.managers ++ [⟨dispatcher, .empty, none⟩])[owner]? = none := by
      apply List.getElem?_eq_none
      rw [List.length_append, List.length_singleton]
      omega
    simp [joined, flags?, absent, still]

/-- What an operation makes of the flags of a manager.  A manager that is not there has
none, and it has none when it comes. -/
theorem flags?_after (outline : Outline) (owner : Nat) (operation : Operation) :
    ((outline.after operation).flags? owner).getD .empty =
      (((outline.flags? owner).bind fun _ => operation.mark? owner).map
        (Mark.applied ((outline.flags? owner).getD .empty))).getD
          ((outline.flags? owner).getD .empty) := by
  cases operation with
  | join context caller timeout dispatcher =>
      rw [after, flags?_join]
      simp [Operation.mark?]
  | onStart who token component flags =>
      cases hfault : Deployment.startFault? token component with
      | some fault => simp [after, Operation.mark?, hfault]
      | none =>
          simp only [outline.flags?_onStart who owner hfault, Operation.mark?, hfault, and_true]
          cases outline.flags? owner with
          | none => rfl
          | some before => by_cases own : who = owner <;> simp [own, Mark.applied]
  | setEnabled who enabled =>
      simp only [after, flags?_mark, Operation.mark?]
      cases outline.flags? owner with
      | none => rfl
      | some before => by_cases own : who = owner <;> simp [own, Mark.applied]
  | onStop who => simp [after, flags?_enter, flags?_ensure, Operation.mark?]
  | ensureSession who => simp [after, flags?_ensure, Operation.mark?]
  | flush who reason => simp [after, flags?_ensure, Operation.mark?]
  | startSession who token component flags => simp [after, flags?_enter, Operation.mark?]
  | destroySession who => simp [after, flags?_enter, Operation.mark?]
  | _ => simp [after, Operation.mark?]

end Outline

/-! ## Runs -/

namespace Deployment

variable {σ : Type}

def flags? (deployment : Deployment σ) (owner : Nat) : Option CaptureFlags :=
  (deployment.managers[owner]?).map Manager.flags

theorem flags?_outline (deployment : Deployment σ) (owner : Nat) :
    deployment.outline.flags? owner = deployment.flags? owner := by
  rw [Outline.flags?, outline_managers, Option.map_map]
  rfl

variable [Service σ] [Autonomous σ]

/-- What is read off from the steps of a run, in order. -/
def readings {α : Type} (read? : Deployment σ → Event σ → Option α) (deployment : Deployment σ) :
    List (Event σ) → List α
  | [] => []
  | event :: rest => (read? deployment event).toList ++ readings read? (deployment.after event) rest

theorem readings_concat {α : Type} (read? : Deployment σ → Event σ → Option α)
    (deployment : Deployment σ) (events : List (Event σ)) (event : Event σ) :
    deployment.readings read? (events ++ [event]) =
      deployment.readings read? events ++ (read? (deployment.follow events) event).toList := by
  induction events generalizing deployment with
  | nil => simp [readings]
  | cons first rest inductionHypothesis =>
      simp only [List.cons_append, readings, inductionHypothesis, List.append_assoc]
      rfl

/-- What an event notes in the flags of a manager that is there. -/
def mark? (deployment : Deployment σ) (owner : Nat) : Event σ → Option Mark
  | .operation operation => (deployment.flags? owner).bind fun _ => operation.mark? owner
  | _ => none

/-- What a run notes in the flags of a manager, in order. -/
def marks (deployment : Deployment σ) (owner : Nat) (events : List (Event σ)) : List Mark :=
  deployment.readings (fun now event => now.mark? owner event) events

theorem marks_concat (deployment : Deployment σ) (owner : Nat) (events : List (Event σ))
    (event : Event σ) :
    deployment.marks owner (events ++ [event]) =
      deployment.marks owner events ++ ((deployment.follow events).mark? owner event).toList :=
  readings_concat _ deployment events event

/-- The flags that a manager has right after a start that takes effect. -/
def startFlags? (deployment : Deployment σ) (owner : Nat) (event : Event σ) :
    Option CaptureFlags :=
  if deployment.takesEffect owner event then (deployment.after event).flags? owner else none

/-- The flags that a manager has right after each of its starts that take effect, in
order. -/
def startFlags (deployment : Deployment σ) (owner : Nat) (events : List (Event σ)) :
    List CaptureFlags :=
  deployment.readings (fun now event => now.startFlags? owner event) events

theorem startFlags_concat (deployment : Deployment σ) (owner : Nat) (events : List (Event σ))
    (event : Event σ) :
    deployment.startFlags owner (events ++ [event]) =
      deployment.startFlags owner events ++
        ((deployment.follow events).startFlags? owner event).toList :=
  readings_concat _ deployment events event

/-- An event changes the flags of a manager by what it notes in them. -/
theorem flags?_after (deployment : Deployment σ) (owner : Nat) (event : Event σ) :
    ((deployment.after event).flags? owner).getD .empty =
      ((deployment.mark? owner event).map
        (Mark.applied ((deployment.flags? owner).getD .empty))).getD
          ((deployment.flags? owner).getD .empty) := by
  cases event with
  | operation operation =>
      have outlined := deployment.outline.flags?_after owner operation
      simp only [← outline_perform, flags?_outline] at outlined
      exact outlined
  | work dispatcher =>
      change ((deployment.work dispatcher).flags? owner).getD .empty = _
      rw [← flags?_outline, outline_work, flags?_outline]
      rfl
  | act act => rfl
  | elapse now => rfl

/-- The flags of a manager are what a run has noted in them. -/
theorem flags?_follow {deployment : Deployment σ}
    (unmarked : ∀ manager ∈ deployment.managers, manager.flags = .empty)
    (events : List (Event σ)) (owner : Nat) :
    ((deployment.follow events).flags? owner).getD .empty =
      (deployment.marks owner events).foldl Mark.applied .empty := by
  induction events using List.reverseRecOn with
  | nil =>
      cases hmanager : deployment.managers[owner]? with
      | none => simp [flags?, marks, readings, hmanager]
      | some manager =>
          have empty := unmarked manager (List.mem_of_getElem? hmanager)
          simp [flags?, marks, readings, hmanager, empty]
  | append_singleton events event inductionHypothesis =>
      rw [follow_concat, flags?_after, inductionHypothesis, marks_concat, List.foldl_append]
      cases (deployment.follow events).mark? owner event <;> rfl

/-! ## Flags of sessions -/

/-- A cycle that a start of the manager begins has the flags of the manager after it. -/
theorem startFlags?_of_opening? {deployment : Deployment σ} {owner : Nat} {operation : Operation}
    {cycle : Cycle} (opening : deployment.opening? owner operation = some cycle)
    (managed : ∀ token component flags, operation ≠ .startSession owner token component flags) :
    deployment.startFlags? owner (.operation operation) = some cycle.flags := by
  cases operation with
  | onStart who token component given =>
      have effective : deployment.takesEffect owner
          (.operation (.onStart who token component given)) = true := by
        rw [takesEffect, opening]
        rfl
      cases hmanager : deployment.managers[owner]? with
      | none => simp [opening?, hmanager] at opening
      | some manager =>
          simp only [opening?, hmanager, Option.ite_none_right_eq_some, Option.some_inj] at opening
          rcases opening with ⟨⟨own, proper, -⟩, rfl⟩
          rw [startFlags?, if_pos effective, after, ← flags?_outline, outline_perform,
            Outline.flags?_onStart _ who owner proper, flags?_outline, flags?, hmanager]
          simp [own]
  | startSession who token component given =>
      cases hsession : deployment.session? owner with
      | none => simp [opening?, hsession] at opening
      | some session =>
          simp only [opening?, hsession, Option.ite_none_right_eq_some] at opening
          exact absurd (by rw [opening.1.1]) (managed token component given)
  | _ => cases opening

omit [Service σ] in
theorem takesEffect_eq_false {deployment : Deployment σ} {owner : Nat}
    {operation : Operation} (idle : deployment.opening? owner operation = none) :
    deployment.takesEffect owner (.operation operation) = false := by
  cases operation with
  | onStart who token component given => rw [takesEffect, idle]; rfl
  | _ => rfl

/-- If a session is started only through its manager, its cycles have the flags that the
manager had after the starts that took effect. -/
theorem map_flags_cycles (deployment : Deployment σ) {owner : Nat} {events : List (Event σ)}
    (managed : ∀ token component flags,
      .operation (.startSession owner token component flags) ∉ events) :
    (deployment.cycles owner events).map Cycle.flags = deployment.startFlags owner events := by
  induction events using List.reverseRecOn with
  | nil => rfl
  | append_singleton events event inductionHypothesis =>
      have earlier := inductionHypothesis fun token component flags member =>
        managed token component flags (List.mem_append_left _ member)
      rw [cycles_concat, startFlags_concat]
      cases event with
      | operation operation =>
          simp only [recount, recounted]
          cases opening : (deployment.follow events).opening? owner operation with
          | some cycle =>
              have own : ∀ token component flags,
                  operation ≠ .startSession owner token component flags := by
                intro token component flags same
                exact managed token component flags (by simp [same])
              rw [startFlags?_of_opening? opening own, List.map_append, earlier]
              rfl
          | none =>
              have idle := takesEffect_eq_false opening
              rw [startFlags?, idle]
              simp only [Bool.false_eq_true, if_false, Option.toList_none, List.append_nil,
                ← earlier]
              split
              · rw [List.map_map]
                rfl
              · rfl
      | _ => simpa [recount, startFlags?, takesEffect] using earlier

end Deployment

namespace Session

@[simp] theorem flags_polled (exchange : Exchange) (session : Session) :
    (session.polled exchange).flags = session.flags := by
  rw [polled_eq]

end Session

namespace Deployment

theorem Sequel.map_flags {owner : Nat} {requests : List Request} {first second : Deployment σ}
    (sequel : Sequel owner requests first second) :
    (second.session? owner).map Session.flags = (first.session? owner).map Session.flags := by
  rcases sequel.session with ⟨cut, hsession, -⟩
  rw [hsession, Option.map_map]
  rfl

/-- The flags of a session, and none if it is not there. -/
def sessionFlags (deployment : Deployment σ) (owner : Nat) : CaptureFlags :=
  ((deployment.session? owner).map Session.flags).getD .empty

/-- The flags of the last of some cycles, and none if there is none. -/
def lastFlags (cycles : List Cycle) : CaptureFlags :=
  ((cycles.map Cycle.flags).getLast?).getD .empty

theorem lastFlags_concat (cycles : List Cycle) (cycle : Cycle) :
    lastFlags (cycles ++ [cycle]) = cycle.flags := by
  simp [lastFlags]

theorem lastFlags_endedBy (cycles : List Cycle) (disabled : Bool) :
    lastFlags (cycles.map (Cycle.endedBy disabled)) = lastFlags cycles := by
  rw [lastFlags, List.map_map]
  rfl

theorem map_flags_poll (deployment : Deployment σ) (owner : Nat) :
    ((deployment.poll owner).session? owner).map Session.flags =
      (deployment.session? owner).map Session.flags := by
  rw [session?_poll, Option.map_map]
  simp [Function.comp_def]

variable [Service σ]

theorem map_flags_sendEvent {deployment : Deployment σ} {owner : Nat} {session : Session}
    (hsession : deployment.session? owner = some session) (empty : session.buffer = [])
    (kind : EventKind) (reason : FlushReason) :
    ((deployment.sendEvent owner kind reason).session? owner).map Session.flags =
      some session.flags := by
  have polled := deployment.map_flags_poll owner
  rw [hsession, Option.map_some] at polled
  rw [sendEvent_eq hsession empty]
  split
  · exact polled
  · have there : (deployment.poll owner).session? owner =
        some (session.polled deployment.exchange) := by
      rw [session?_poll, hsession]
      rfl
    exact (sequel_postRequest there rfl).map_flags.trans polled

/-- No turn of a session but a start gives it other flags. -/
theorem sessionFlags_turn {owner : Nat} {first second : Deployment σ × List Cycle}
    (accounted : Accounted first.1 owner first.2) (turn : Turn owner first second)
    (same : first.1.sessionFlags owner = lastFlags first.2) :
    second.1.sessionFlags owner = lastFlags second.2 := by
  cases turn with
  | aside cycles chain sequel =>
      rw [← same]
      exact congrArg (Option.getD · _) sequel.map_flags
  | look deployment cycles =>
      rw [← same]
      exact congrArg (Option.getD · _) (deployment.map_flags_poll owner)
  | make cycles hmanager fresh silent unsevered =>
      have none := accounted.absent ((session?_of_manager hmanager).trans fresh)
      simp only at none
      rw [none, sessionFlags, session?_ensureSession hmanager fresh]
      rfl
  | off cycles hsession idle token component disabling =>
      rw [lastFlags_concat, sessionFlags, session?_updateSession_self, hsession]
      rfl
  | on cycles hmanager hsession idle token component enabling =>
      obtain ⟨cut, hnow, -, -⟩ := exists_began hmanager hsession token component _
      rw [lastFlags_concat, announce_eq, sessionFlags, map_flags_sendEvent hnow rfl]
      rfl
  | close cycles hsession started =>
      obtain ⟨told, closing, hclosed⟩ :=
        exists_closing hsession (accounted.present _ hsession).buffer
      have kept := closing.map_flags.trans (map_flags_poll _ owner)
      rw [lastFlags_endedBy, ← same, hclosed, sessionFlags, session?_updateSession_self,
        Option.map_map]
      exact congrArg (Option.getD · _) kept
  | retire cycles hsession idle =>
      rw [lastFlags_endedBy, ← same, sessionFlags, session?_updateSession_self, sessionFlags,
        Option.map_map]
      rfl
  | void cycles absent =>
      rw [lastFlags_endedBy]
      exact same

/-- A session has the flags of its last cycle, and none before the first one. -/
theorem sessionFlags_follow [Autonomous σ] {deployment : Deployment σ} (fresh : deployment.Fresh)
    (events : List (Event σ)) (owner : Nat) :
    (deployment.follow events).sessionFlags owner = lastFlags (deployment.cycles owner events) := by
  let kept : Deployment σ × List Cycle → Prop := fun now =>
    now.1.sessionFlags owner = lastFlags now.2
  have holds : kept (deployment, []) := by
    change deployment.sessionFlags owner = lastFlags []
    rw [sessionFlags, fresh.session?_eq_none owner]
    rfl
  have aside : ∀ {between : Deployment σ} {cycles : List Cycle} (event : Event σ),
      Accounted between owner cycles → Sequel owner [] between (between.after event) →
        kept (between, cycles) → kept (between.after event, cycles) := by
    intro between cycles event _ sequel same
    exact (congrArg (Option.getD · CaptureFlags.empty) sequel.map_flags).trans same
  have turn : ∀ {first second : Deployment σ × List Cycle}, Accounted first.1 owner first.2 →
      Turn owner first second → kept first → kept second := sessionFlags_turn
  exact chronicle_keeps fresh aside turn holds events

end Deployment

/-! ## What only the flags hear of -/

/-- Whether an operation only notes something in the flags of a manager: the app says whether
it wants capture, or the manager is started and its session is started already. -/
def Operation.OnlyMarks (owner : Nat) (manager : Manager) : Operation → Prop
  | .setEnabled who _ => who = owner
  | .onStart who _ _ _ =>
      who = owner ∧ ∃ session, manager.session = some session ∧ session.lifecycle = .started
  | _ => False

namespace Deployment

variable {σ : Type} [Service σ]

theorem exists_flagged_of_onlyMarks {deployment : Deployment σ} {owner : Nat} {manager : Manager}
    (there : deployment.managers[owner]? = some manager) {operation : Operation}
    (marks : operation.OnlyMarks owner manager) :
    ∃ flags, deployment.perform operation = deployment.flagged owner flags := by
  cases operation with
  | setEnabled who enabled =>
      cases marks
      exact ⟨_, setEnabled_eq there enabled⟩
  | onStart who token component given =>
      rcases marks with ⟨rfl, session, hsession, started⟩
      cases hfault : startFault? token component with
      | some fault =>
          refine ⟨manager.flags, ?_⟩
          simp only [perform, onStart, hfault, flagged_eq_self there]
      | none => exact ⟨_, onStart_of_started there hsession started hfault given⟩
  | _ => cases marks

variable [Autonomous σ]

/-- A start that takes effect is seen from the flags that are read off from the run. -/
theorem takesEffect_eq_false_of_startFlags? {deployment : Deployment σ} {owner : Nat}
    {event : Event σ} (idle : deployment.startFlags? owner event = none) :
    deployment.takesEffect owner event = false := by
  cases event with
  | operation operation =>
      cases operation with
      | onStart who token component given =>
          cases opening : deployment.opening? owner (.onStart who token component given) with
          | none => exact takesEffect_eq_false opening
          | some cycle =>
              rw [startFlags?_of_opening? opening (by simp)] at idle
              cases idle
      | _ => rfl
  | _ => rfl

/-- Until a start of the manager takes effect, two runs that begin with different flags
differ in those flags only. -/
theorem exists_follow_flagged {deployment : Deployment σ} {owner : Nat} {manager : Manager}
    (there : deployment.managers[owner]? = some manager) (flags : CaptureFlags)
    {rest : List (Event σ)} (idle : deployment.startFlags owner rest = []) :
    ∃ later, (deployment.flagged owner flags).follow rest =
      (deployment.follow rest).flagged owner later := by
  induction rest generalizing deployment manager flags with
  | nil => exact ⟨flags, rfl⟩
  | cons event rest inductionHypothesis =>
      rw [startFlags, readings, List.append_eq_nil_iff, Option.toList_eq_nil_iff] at idle
      have effectless := takesEffect_eq_false_of_startFlags? idle.1
      rcases exists_after_flagged there flags effectless with ⟨next, hnext⟩
      rcases (deployment.precedes_after event).extension owner manager there with
        ⟨later, still, -⟩
      rcases inductionHypothesis still next idle.2 with ⟨last, hlast⟩
      refine ⟨last, ?_⟩
      calc (deployment.flagged owner flags).follow (event :: rest)
          = ((deployment.flagged owner flags).after event).follow rest := rfl
        _ = ((deployment.after event).flagged owner next).follow rest := by rw [hnext]
        _ = (deployment.follow (event :: rest)).flagged owner last := hlast

/-- Whatever the service does and however the steps are interleaved, the flag by which the app
turns capture off is set in a manager exactly if the app has turned capture off, or an accepted
start has brought that flag, since the app last turned capture on.  Any other flag is set exactly
if an accepted start has ever brought it.  If the session is started only through its manager, it
has the flags that the manager had right after the last start that took effect.  What only the
flags of the manager hear of changes nothing else, however the run goes on, until a start takes
effect again. -/
theorem flags_of_follow {deployment : Deployment σ} (fresh : deployment.Fresh)
    (unmarked : ∀ manager ∈ deployment.managers, manager.flags = .empty)
    {events : List (Event σ)} {owner : Nat} {manager : Manager}
    (there : (deployment.follow events).managers[owner]? = some manager)
    (managed : ∀ token component flags,
      .operation (.startSession owner token component flags) ∉ events) :
    let now := deployment.follow events
    let marks := deployment.marks owner events
    (manager.flags.isDisabledByApp = true ↔ ∃ mark ∈ behindLast Mark.reenables marks,
      mark = .wanted false ∨ ∃ given, mark = .carried given ∧ given.isDisabledByApp = true) ∧
    (∀ place, place ≠ 0 → (manager.flags.has place = true ↔
      ∃ given, .carried given ∈ marks ∧ given.has place = true)) ∧
    (∀ session, manager.session = some session →
      session.flags = (deployment.startFlags owner events).getLast?.getD .empty) ∧
    ∀ operation : Operation, operation.OnlyMarks owner manager →
      ∀ rest, now.startFlags owner rest = [] →
        let plain := now.follow rest
        let marked := (now.perform operation).follow rest
        (∃ flags, marked = plain.flagged owner flags) ∧
        marked.session? owner = plain.session? owner ∧
        (marked.isEnabled owner).1 = (plain.isEnabled owner).1 ∧
        marked.journal = plain.journal ∧ marked.service = plain.service := by
  intro now marks
  have noted : manager.flags = marks.foldl Mark.applied .empty := by
    have read := flags?_follow unmarked events owner
    rwa [flags?, there] at read
  refine ⟨?first, ?others, ?session, ?aside⟩
  case first =>
    simp only [CaptureFlags.isDisabledByApp_eq, noted, Mark.has_zero_foldl, List.any_eq_true,
      Mark.brings_zero_iff]
  case others =>
    intro place other
    simp only [noted, Mark.has_foldl_of_ne_zero other, List.any_eq_true, Mark.brings_iff other]
    constructor
    · rintro ⟨mark, member, given, rfl, set⟩
      exact ⟨given, member, set⟩
    · rintro ⟨given, member, set⟩
      exact ⟨.carried given, member, given, rfl, set⟩
  case session =>
    intro session hsession
    have read := sessionFlags_follow fresh events owner
    rw [sessionFlags, session?_of_manager there, hsession, lastFlags,
      map_flags_cycles deployment managed] at read
    exact read
  case aside =>
    intro operation onlyMarks rest idle plain marked
    rcases exists_flagged_of_onlyMarks there onlyMarks with ⟨flags, hflags⟩
    rcases exists_follow_flagged there flags idle with ⟨later, hlater⟩
    have same : marked = plain.flagged owner later := by rw [← hlater, ← hflags]
    refine ⟨⟨later, same⟩, ?_⟩
    rw [same, session?_flagged, isEnabled_flagged]
    exact ⟨rfl, rfl, rfl, rfl⟩

/-- A session that is started with one flag.  Its manager comes by a second one, is not
disabled by a start that is rejected, and is turned off and on again. -/
def driftingFlags : List (Event LocalService) :=
  [.operation (.onStart 0 ⟨"a"⟩ ⟨"p", "A"⟩ ⟨4⟩), .work 0,
    .operation (.onStart 0 ⟨"b"⟩ ⟨"p", "B"⟩ ⟨9⟩), .operation (.onStart 0 ⟨""⟩ ⟨"p", "B"⟩ ⟨16⟩),
    .operation (.setEnabled 0 false), .operation (.setEnabled 0 true)]

theorem flags_of_follow_driftingFlags :
    let before := solitary (LocalService.new {})
    let now := before.follow driftingFlags
    ∃ manager session, now.managers[0]? = some manager ∧ manager.session = some session ∧
      manager.flags = ⟨12⟩ ∧ manager.flags.isDisabledByApp = false ∧ session.flags = ⟨4⟩ ∧
      before.startFlags 0 driftingFlags = [⟨4⟩] ∧
      ((now.perform (.setEnabled 0 false)).isEnabled 0).1 = (now.isEnabled 0).1 := by
  intro before now
  have there : ((now.managers[0]?).bind fun manager => manager.session.map fun session =>
      (manager.flags, session.flags)) = some (⟨12⟩, ⟨4⟩) := by decide +kernel
  rcases Option.bind_eq_some_iff.mp there with ⟨manager, hmanager, both⟩
  rcases Option.map_eq_some_iff.mp both with ⟨session, hsession, same⟩
  rw [Prod.mk.injEq] at same
  have managed : ∀ token component flags,
      .operation (.startSession 0 token component flags) ∉ driftingFlags := by
    simp [driftingFlags]
  have unmarked : ∀ manager ∈ before.managers, manager.flags = .empty := by
    simp [before, solitary]
  have history := flags_of_follow (fresh_solitary _) unmarked hmanager managed
  have aside := history.2.2.2 (.setEnabled 0 false) rfl [] rfl
  simp only [follow_nil] at aside
  have starts : before.startFlags 0 driftingFlags = [⟨4⟩] := by decide +kernel
  refine ⟨manager, session, hmanager, hsession, same.1, ?_, ?_, starts, aside.2.2.1⟩
  · rw [same.1]
    decide
  · rw [history.2.2.1 session hsession, starts]
    rfl

end Deployment
end ContentCapture
