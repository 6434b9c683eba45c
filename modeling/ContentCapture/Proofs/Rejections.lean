import ContentCapture.Proofs.Accounts
import ContentCapture.Proofs.Lockstep
import Mathlib.Data.List.TakeWhile

namespace ContentCapture

/-!
# Arguments that are rejected

A start names the token of a window and a component, and a request to remove data names
the data.  Both are looked at before anything else is done.  A start is rejected if the
token is the empty text or if one part of the component's name is blank, and a removal
if it names no data.

What is rejected leaves no trace.  The deployment afterwards is the one before it, with
the flags of the manager, its session or the lack of one, every queue, every channel and
the service.  So the rejected operations can be left out of a run, and no later step
tells the difference.
-/

/-! ## What counts as missing -/

theorem ActivityToken.isEmpty_iff (token : ActivityToken) :
    token.isEmpty = true ↔ token.text = "" :=
  String.isEmpty_iff

/-- Trimming empties a text exactly when all of its characters are blank. -/
theorem Text.trim_eq_nil_iff (text : List Char) :
    Text.trim text = [] ↔ ∀ c ∈ text, Text.isBlank c = true := by
  rw [Text.trim, List.reverse_eq_nil_iff, List.dropWhile_eq_nil_iff]
  constructor
  · intro blank
    refine List.dropWhile_eq_nil_iff.mp (Classical.byContradiction fun left => ?_)
    have first := List.head_dropWhile_not Text.isBlank left
    rw [blank _ (List.mem_reverse.mpr (List.head_mem left))] at first
    cases first
  · intro blank
    simp [List.dropWhile_eq_nil_iff.mpr blank]

theorem Text.blank_iff_trim (text : String) :
    Text.blank text = true ↔ Text.trim text.toList = [] :=
  List.isEmpty_iff

theorem ComponentName.isValid_eq_false_iff (component : ComponentName) :
    component.isValid = false ↔
      Text.trim component.packageName.toList = [] ∨ Text.trim component.className.toList = [] := by
  rw [← Text.blank_iff_trim, ← Text.blank_iff_trim, ComponentName.isValid]
  cases Text.blank component.packageName <;> cases Text.blank component.className <;> decide

theorem RemovalRequest.isEmpty_iff (removal : RemovalRequest) :
    removal.isEmpty = true ↔ removal.everything = false ∧ removal.loci = [] := by
  simp [RemovalRequest.isEmpty]

/-- The arguments of a start are missing something. -/
def IsFaultyStart (token : ActivityToken) (component : ComponentName) : Prop :=
  token.text = "" ∨ Text.trim component.packageName.toList = [] ∨
    Text.trim component.className.toList = []

namespace Deployment

/-! ## The faults of a start -/

theorem startFault?_of_isEmpty {token : ActivityToken} (empty : token.text = "")
    (component : ComponentName) : startFault? token component = some .emptyToken := by
  rw [startFault?, if_pos (token.isEmpty_iff.mpr empty)]

/-- The token comes first.  The component is complained of only if there is a token. -/
theorem startFault?_of_blank {token : ActivityToken} (there : token.text ≠ "")
    {component : ComponentName} (invalid : component.isValid = false) :
    startFault? token component = some (.invalidComponent component) := by
  have full : ¬ token.isEmpty = true := fun empty => there (token.isEmpty_iff.mp empty)
  simp [startFault?, full, invalid]

theorem startFault?_eq_none_iff (token : ActivityToken) (component : ComponentName) :
    startFault? token component = none ↔ ¬ IsFaultyStart token component := by
  rw [IsFaultyStart, ← component.isValid_eq_false_iff]
  constructor
  · intro faultless faulty
    by_cases empty : token.text = ""
    · rw [startFault?_of_isEmpty empty] at faultless
      cases faultless
    · rw [startFault?_of_blank empty (faulty.resolve_left empty)] at faultless
      cases faultless
  · intro proper
    rw [not_or, Bool.not_eq_false, ← token.isEmpty_iff] at proper
    simp [startFault?, proper.1, proper.2]

variable {σ : Type} [Service σ]

/-! ## Starts -/

theorem onStart_of_startFault? (deployment : Deployment σ) (owner : Nat) {token : ActivityToken}
    {component : ComponentName} {fault : ArgumentFault}
    (faulty : startFault? token component = some fault) (flags : CaptureFlags) :
    deployment.onStart owner token component flags =
      (.error (.invalidArgument fault), deployment) := by
  simp [onStart, faulty]

theorem onStart_fst_of_proper (deployment : Deployment σ) (owner : Nat) {token : ActivityToken}
    {component : ComponentName} (proper : startFault? token component = none)
    (flags : CaptureFlags) : (deployment.onStart owner token component flags).1 = .ok () := by
  simp [onStart, proper]

/-- A start is rejected exactly if its arguments are faulty. -/
theorem onStart_rejects_iff (deployment : Deployment σ) (owner : Nat) (token : ActivityToken)
    (component : ComponentName) (flags : CaptureFlags) :
    (∃ fault, (deployment.onStart owner token component flags).1 =
      .error (.invalidArgument fault)) ↔ IsFaultyStart token component := by
  constructor
  · rintro ⟨fault, rejected⟩
    by_contra proper
    rw [onStart_fst_of_proper _ _ ((startFault?_eq_none_iff token component).mpr proper)]
      at rejected
    cases rejected
  · intro faulty
    cases hfault : startFault? token component with
    | none => exact absurd faulty ((startFault?_eq_none_iff token component).mp hfault)
    | some fault =>
        rw [onStart_of_startFault? deployment owner hfault]
        exact ⟨fault, rfl⟩

theorem onStart_eq_self (deployment : Deployment σ) (owner : Nat) {token : ActivityToken}
    {component : ComponentName} (faulty : IsFaultyStart token component) (flags : CaptureFlags) :
    (deployment.onStart owner token component flags).2 = deployment := by
  rcases (deployment.onStart_rejects_iff owner token component flags).mpr faulty
    with ⟨fault, rejected⟩
  cases hfault : startFault? token component with
  | none =>
      rw [onStart_fst_of_proper _ _ hfault] at rejected
      cases rejected
  | some fault => rw [onStart_of_startFault? deployment owner hfault]

/-! ## Removals -/

theorem removeUserData_of_isEmpty (deployment : Deployment σ) (owner : Nat)
    {removal : RemovalRequest} (empty : removal.isEmpty = true) :
    deployment.removeUserData owner removal =
      (.error (.invalidArgument .nothingToRemove), deployment) := by
  simp [removeUserData, empty]

/-- A removal is rejected exactly if it names no data.  That a service cannot be reached
is another matter. -/
theorem removeUserData_rejects_iff (deployment : Deployment σ) (owner : Nat)
    (removal : RemovalRequest) :
    (∃ fault, (deployment.removeUserData owner removal).1 = .error (.invalidArgument fault)) ↔
      removal.everything = false ∧ removal.loci = [] := by
  rw [← removal.isEmpty_iff]
  constructor
  · rintro ⟨fault, rejected⟩
    by_contra names
    rw [Bool.not_eq_true] at names
    cases hmanager : deployment.managers[owner]? with
    | none => simp [removeUserData, names, hmanager] at rejected
    | some manager =>
        rw [removeUserData_eq names hmanager] at rejected
        cases htold : (deployment.ask (some owner)
            ⟨manager.caller, .removeUserData removal⟩).1 <;>
          simp [htold, Except.mapError] at rejected
  · intro empty
    exact ⟨.nothingToRemove, by rw [removeUserData_of_isEmpty deployment owner empty]⟩

/-- No manager, no session and no queue is touched by a removal. -/
theorem removeUserData_frame (deployment : Deployment σ) (owner : Nat)
    (removal : RemovalRequest) :
    (deployment.removeUserData owner removal).2.managers = deployment.managers ∧
      (deployment.removeUserData owner removal).2.dispatchers = deployment.dispatchers := by
  cases names : removal.isEmpty with
  | true => rw [removeUserData_of_isEmpty deployment owner names]; exact ⟨rfl, rfl⟩
  | false =>
      cases hmanager : deployment.managers[owner]? with
      | none => simp [removeUserData, names, hmanager]
      | some manager => rw [removeUserData_eq names hmanager]; exact ⟨rfl, rfl⟩

/-! ## Runs -/

end Deployment

/-- Whether an event is an operation whose arguments are rejected. -/
def Event.isRejected {σ : Type} [Autonomous σ] : Event σ → Bool
  | .operation (.onStart _ token component _) =>
      (Deployment.startFault? token component).isSome
  | .operation (.removeUserData _ removal) => removal.isEmpty
  | _ => false

namespace Deployment

variable {σ : Type} [Service σ] [Autonomous σ]

theorem after_of_isRejected (deployment : Deployment σ) {event : Event σ}
    (rejected : event.isRejected = true) : deployment.after event = deployment := by
  unfold Event.isRejected at rejected
  split at rejected
  · next owner token component flags =>
      rcases Option.isSome_iff_exists.mp rejected with ⟨fault, faulty⟩
      change (deployment.onStart owner token component flags).2 = deployment
      rw [onStart_of_startFault? deployment owner faulty]
  · next owner removal =>
      change (deployment.removeUserData owner removal).2 = deployment
      rw [removeUserData_of_isEmpty deployment owner rejected]
  · cases rejected

/-- The rejected operations of a run might as well not have been tried. -/
theorem follow_filter_isRejected (deployment : Deployment σ) (events : List (Event σ)) :
    deployment.follow (events.filter fun event => !event.isRejected) =
      deployment.follow events := by
  induction events generalizing deployment with
  | nil => rfl
  | cons event rest inductionHypothesis =>
      cases rejected : event.isRejected with
      | true =>
          rw [List.filter_cons_of_neg (by simp [rejected])]
          calc deployment.follow (rest.filter fun event => !event.isRejected)
              = deployment.follow rest := inductionHypothesis deployment
            _ = (deployment.after event).follow rest := by
                rw [after_of_isRejected deployment rejected]
      | false =>
          rw [List.filter_cons_of_pos (by simp [rejected])]
          exact inductionHypothesis (deployment.after event)

/-- In every state of every run, a start is rejected exactly if the token is the empty text
or a part of the component's name is blank, and a removal exactly if it names no data.  What
is rejected changes nothing at all, now or later.  Any other start is accepted.  Any other
removal asks the service once, for just that removal and nothing else, passes on whether the
service was reached, and leaves all managers and their sessions alone. -/
theorem traceless_of_rejected {deployment : Deployment σ} {events : List (Event σ)} {owner : Nat}
    {manager : Manager} (there : (deployment.follow events).managers[owner]? = some manager) :
    let now := deployment.follow events
    (∀ token component flags,
      let started := now.onStart owner token component flags
      ((∃ fault, started.1 = .error (.invalidArgument fault)) ↔ IsFaultyStart token component) ∧
      (IsFaultyStart token component → started.2 = now) ∧
      (¬ IsFaultyStart token component → started.1 = .ok ())) ∧
    (∀ removal,
      let removed := now.removeUserData owner removal
      ((∃ fault, removed.1 = .error (.invalidArgument fault)) ↔
        removal.everything = false ∧ removal.loci = []) ∧
      (removal.everything = false ∧ removal.loci = [] → removed.2 = now) ∧
      (¬ (removal.everything = false ∧ removal.loci = []) →
        let envelope := ⟨manager.caller, .removeUserData removal⟩
        let reception := Service.receive now.service envelope
        removed.1 = reception.result.mapError .unreachable ∧
        removed.2.service = reception.service ∧
        removed.2.journal = now.journal ++ [.asked (some owner) envelope reception.result]) ∧
      removed.2.managers = now.managers ∧ removed.2.dispatchers = now.dispatchers) ∧
    ∀ rest : List (Event σ),
      now.follow (rest.filter fun event => !event.isRejected) = now.follow rest := by
  intro now
  refine ⟨?starts, ?removals, now.follow_filter_isRejected⟩
  case starts =>
    intro token component flags
    refine ⟨now.onStart_rejects_iff owner token component flags,
      fun faulty => now.onStart_eq_self owner faulty flags, fun proper => ?_⟩
    exact now.onStart_fst_of_proper owner ((startFault?_eq_none_iff token component).mpr proper)
      flags
  case removals =>
    intro removal
    refine ⟨now.removeUserData_rejects_iff owner removal, fun empty => ?_, fun names => ?_,
      now.removeUserData_frame owner removal⟩
    · rw [removeUserData_of_isEmpty now owner (removal.isEmpty_iff.mpr empty)]
    · rw [← removal.isEmpty_iff, Bool.not_eq_true] at names
      rw [removeUserData_eq names there]
      exact ⟨rfl, rfl, rfl⟩

/-- A manager that is started with a package of nothing but an em space, and then properly,
and that asks for nothing to be removed. -/
def blankVisit : List (Event LocalService) :=
  [.operation (.onStart 0 ⟨"a"⟩ ⟨"\u2003", "A"⟩ ⟨4⟩),
    .operation (.onStart 0 ⟨"a"⟩ ⟨"p", "A"⟩ ⟨8⟩),
    .operation (.removeUserData 0 (.forLoci "com.example.notes"))]

theorem traceless_of_rejected_blankVisit :
    let now := (solitary (LocalService.new {})).follow blankVisit
    ∃ manager, now.managers[0]? = some manager ∧ manager.flags = ⟨8⟩ ∧
      now.service.inbox = [] ∧
      (now.onStart 0 ⟨"b"⟩ ⟨"p", "\u3000"⟩ ⟨1⟩).2 = now ∧
      (now.removeUserData 0 (.forEverything "com.example.notes")).2.managers = now.managers := by
  intro now
  have there : (now.managers[0]?).isSome = true := by decide +kernel
  have flags : (now.managers[0]?).map Manager.flags = some ⟨8⟩ := by decide +kernel
  rcases Option.isSome_iff_exists.mp there with ⟨manager, hmanager⟩
  rw [hmanager, Option.map_some, Option.some_inj] at flags
  have traceless := traceless_of_rejected hmanager
  exact ⟨manager, hmanager, flags, by decide +kernel,
    (traceless.1 ⟨"b"⟩ ⟨"p", "\u3000"⟩ ⟨1⟩).2.1 (.inr (.inr (by decide))),
    (traceless.2.1 (.forEverything "com.example.notes")).2.2.2.1⟩

end Deployment
end ContentCapture
