import ContentCapture.Proofs.Run
import Mathlib.Data.List.Induction

namespace ContentCapture

/-!
# Cycles

A cycle of a session begins with a start that takes effect, which is one that
finds the session not started, and is over with the next destruction.  Which
cycles there were is a matter of the operations of a run alone: it is told here
without looking at what the session posts.
-/

/-- A cycle of a session, as the operations tell it. -/
structure Cycle where
  token : ActivityToken
  component : ComponentName
  /-- The flags that the session was started with. -/
  flags : CaptureFlags
  /-- If the cycle is over, whether the session was disabled when it was
  destroyed. -/
  ending : Option Bool := none
  deriving DecidableEq, Repr

namespace Cycle

/-- Whether the service is asked to start the session for the cycle. -/
def isAnnounced (cycle : Cycle) : Bool :=
  !cycle.flags.isDisabling

def start (cycle : Cycle) (session : SessionId) : SessionStart :=
  ⟨session, cycle.token, cycle.component, cycle.flags⟩

def isOver (cycle : Cycle) : Bool :=
  cycle.ending.isSome

/-- The cycle after a destruction of its session.  A cycle that is over stays as
it is. -/
def endedBy (disabled : Bool) (cycle : Cycle) : Cycle :=
  { cycle with ending := some (cycle.ending.getD disabled) }

@[simp] theorem isAnnounced_endedBy (disabled : Bool) (cycle : Cycle) :
    (cycle.endedBy disabled).isAnnounced = cycle.isAnnounced := rfl

@[simp] theorem start_endedBy (disabled : Bool) (cycle : Cycle) :
    (cycle.endedBy disabled).start = cycle.start := rfl

/-- The cycle as it was when it began. -/
def beginning (cycle : Cycle) : Cycle :=
  { cycle with ending := none }

@[simp] theorem beginning_endedBy (disabled : Bool) (cycle : Cycle) :
    (cycle.endedBy disabled).beginning = cycle.beginning := rfl

theorem flags_eq_of_beginning {first second : Cycle} (same : first.beginning = second.beginning) :
    first.flags = second.flags :=
  (Cycle.mk.inj same).2.2.1

/-- Whether a cycle is announced shows when it begins. -/
theorem length_filter_beginning (cycles : List Cycle) :
    ((cycles.map beginning).filter isAnnounced).length = (cycles.filter isAnnounced).length := by
  rw [List.filter_map, List.length_map]
  rfl

/-- If more cycles have begun, the last one is what it was when it began, or another one has
begun since. -/
theorem getLast?_of_prefix {first second : List Cycle}
    (h : first.map beginning <+: second.map beginning) {cycle : Cycle}
    (last : first.getLast? = some cycle) :
    ∃ final, second.getLast? = some final ∧
      (final.beginning = cycle.beginning ∧ first.length = second.length ∨
        (first.filter isAnnounced).length + (if final.isAnnounced then 1 else 0) ≤
          (second.filter isAnnounced).length) := by
  rcases h with ⟨rest, hrest⟩
  have lasts := congrArg List.getLast? hrest
  have counts := congrArg (fun cycles => (cycles.filter isAnnounced).length) hrest
  simp only [List.filter_append, List.length_append, length_filter_beginning] at counts
  rw [List.getLast?_map] at lasts
  rcases rest.eq_nil_or_concat with rfl | ⟨begun, latest, rfl⟩
  · rw [List.append_nil, List.getLast?_map, last] at lasts
    rcases Option.map_eq_some_iff.mp lasts.symm with ⟨final, hfinal, same⟩
    have lengths := congrArg List.length hrest
    rw [List.append_nil, List.length_map, List.length_map] at lengths
    exact ⟨final, hfinal, .inl ⟨same, lengths⟩⟩
  · rw [List.concat_eq_append] at lasts counts
    rw [← List.append_assoc, List.getLast?_concat] at lasts
    rcases Option.map_eq_some_iff.mp lasts.symm with ⟨final, hfinal, rfl⟩
    refine ⟨final, hfinal, .inr ?_⟩
    rw [← counts, List.filter_append, List.length_append]
    have counted : ([final.beginning].filter isAnnounced).length =
        if final.isAnnounced then 1 else 0 := by
      have same : final.beginning.isAnnounced = final.isAnnounced := rfl
      cases announced : final.isAnnounced <;> simp [same, announced]
    omega

theorem endedBy_eq_self {disabled : Bool} {cycle : Cycle} (ended : cycle.isOver = true) :
    cycle.endedBy disabled = cycle := by
  rcases Option.isSome_iff_exists.mp ended with ⟨ending, hending⟩
  cases cycle
  simp_all [endedBy]

end Cycle

namespace Deployment

variable {σ : Type} [Service σ]

/-- The cycle that an operation begins for the session of a manager, if it is a
start that takes effect.  The session of a manager is made for its start if there
is none; the start of a session itself needs one. -/
def opening? (deployment : Deployment σ) (owner : Nat) : Operation → Option Cycle
  | .onStart who token component flags =>
      match deployment.managers[owner]? with
      | none => none
      | some manager =>
          if who = owner ∧ startFault? token component = none ∧
              ¬ (manager.session.any fun session => session.lifecycle = .started) then
            some ⟨token, component, manager.flags.merge flags, none⟩
          else none
  | .startSession who token component flags =>
      match deployment.session? owner with
      | none => none
      | some session =>
          if who = owner ∧ session.lifecycle ≠ .started then
            some ⟨token, component, flags, none⟩
          else none
  | _ => none

def destroys (owner : Nat) : Operation → Bool
  | .onStop who => who = owner
  | .destroySession who => who = owner
  | _ => false

/-- Whether the session of a manager is disabled, to one who looks now. -/
def isDisabled (deployment : Deployment σ) (owner : Nat) : Bool :=
  ((deployment.observeSession owner).1.map Session.disabled).getD false

/-- The cycles of a session after an operation, given those before it. -/
def recounted (deployment : Deployment σ) (owner : Nat) (cycles : List Cycle)
    (operation : Operation) : List Cycle :=
  match deployment.opening? owner operation with
  | some cycle => cycles ++ [cycle]
  | none =>
      if destroys owner operation then
        cycles.map (Cycle.endedBy (deployment.isDisabled owner))
      else cycles

omit [Service σ] in
theorem ending_of_opening? {deployment : Deployment σ} {owner : Nat} {operation : Operation}
    {cycle : Cycle} (opening : deployment.opening? owner operation = some cycle) :
    cycle.ending = none := by
  cases operation with
  | onStart who token component flags =>
      cases hmanager : deployment.managers[owner]? with
      | none => simp [opening?, hmanager] at opening
      | some manager =>
          simp only [opening?, hmanager, Option.ite_none_right_eq_some, Option.some_inj] at opening
          rw [← opening.2]
  | startSession who token component flags =>
      cases hsession : deployment.session? owner with
      | none => simp [opening?, hsession] at opening
      | some session =>
          simp only [opening?, hsession, Option.ite_none_right_eq_some, Option.some_inj] at opening
          rw [← opening.2]
  | _ => cases opening

variable [Autonomous σ]

/-- The cycles of a session after an event, given those before it. -/
def recount (deployment : Deployment σ) (owner : Nat) (cycles : List Cycle) :
    Event σ → List Cycle
  | .operation operation => deployment.recounted owner cycles operation
  | _ => cycles

/-- The deployment after some events, and the cycles of a session meanwhile. -/
def chronicle (deployment : Deployment σ) (owner : Nat) (events : List (Event σ)) :
    Deployment σ × List Cycle :=
  events.foldl
    (fun (deployment, cycles) event =>
      (deployment.after event, deployment.recount owner cycles event))
    (deployment, [])

/-- The cycles of the session of a manager over some events, the first one first. -/
def cycles (deployment : Deployment σ) (owner : Nat) (events : List (Event σ)) : List Cycle :=
  (deployment.chronicle owner events).2

@[simp] theorem cycles_nil (deployment : Deployment σ) (owner : Nat) :
    deployment.cycles owner [] = [] := rfl

theorem chronicle_fst (deployment : Deployment σ) (owner : Nat) (events : List (Event σ)) :
    (deployment.chronicle owner events).1 = deployment.follow events := by
  induction events using List.reverseRecOn with
  | nil => rfl
  | append_singleton events event inductionHypothesis =>
      rw [chronicle, List.foldl_append, follow_concat, ← inductionHypothesis]
      rfl

theorem cycles_concat (deployment : Deployment σ) (owner : Nat) (events : List (Event σ))
    (event : Event σ) :
    deployment.cycles owner (events ++ [event]) =
      (deployment.follow events).recount owner (deployment.cycles owner events) event := by
  rw [cycles, chronicle, List.foldl_append, ← chronicle_fst deployment owner events]
  rfl

omit [Service σ] in
/-- An event leaves the cycles what they were, ends those that last, or begins another
one. -/
theorem recount_cases (deployment : Deployment σ) (owner : Nat) (cycles : List Cycle)
    (event : Event σ) :
    deployment.recount owner cycles event = cycles ∨
      deployment.recount owner cycles event =
        cycles.map (Cycle.endedBy (deployment.isDisabled owner)) ∨
      ∃ cycle, cycle.ending = none ∧ deployment.recount owner cycles event = cycles ++ [cycle] := by
  cases event with
  | operation operation =>
      simp only [recount, recounted]
      split
      · next cycle opening => exact .inr (.inr ⟨cycle, ending_of_opening? opening, rfl⟩)
      · split
        · exact .inr (.inl rfl)
        · exact .inl rfl
  | _ => exact .inl rfl

/-- Cycles are only added, and stay what they were when they began. -/
theorem beginning_prefix (deployment : Deployment σ) (owner : Nat) {events more : List (Event σ)}
    (h : events <+: more) :
    (deployment.cycles owner events).map Cycle.beginning <+:
      (deployment.cycles owner more).map Cycle.beginning := by
  rcases h with ⟨rest, rfl⟩
  induction rest using List.reverseRecOn with
  | nil => simp
  | append_singleton rest event inductionHypothesis =>
      rw [← List.append_assoc, cycles_concat]
      refine inductionHypothesis.trans ?_
      rcases (deployment.follow (events ++ rest)).recount_cases owner
        (deployment.cycles owner (events ++ rest)) event with same | ended | ⟨cycle, -, begun⟩
      · simp only [same, List.prefix_rfl]
      · rw [ended, List.map_map]
        exact List.prefix_refl _
      · rw [begun, List.map_append]
        exact List.prefix_append _ _

end Deployment
end ContentCapture
