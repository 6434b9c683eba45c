import ContentCapture.Proofs.Elementary
import Mathlib.Data.List.Nodup
import Mathlib.Data.List.Perm.Subperm

namespace ContentCapture

/-!
# Sessions are told apart by their ids

Ids are given out one after another, and begin again only when all of them were
given out.  A manager has at most one session, so the ids are distinct as long as
there are not more managers than ids.
-/

namespace Deployment

variable {σ : Type}

/-- No two sessions have the same id. -/
def DistinctIds (deployment : Deployment σ) : Prop :=
  ∀ owner other session found, deployment.session? owner = some session →
    deployment.session? other = some found → session.id = found.id → owner = other

def id? (deployment : Deployment σ) (owner : Nat) : Option SessionId :=
  (deployment.session? owner).map Session.id

/-- No session was made, and none has another id than before. -/
structure SameIds (first second : Deployment σ) : Prop where
  managers : first.managers.length ≤ second.managers.length
  sessions : ∀ owner, second.id? owner = first.id? owner
  next : second.nextSession = first.nextSession

namespace SameIds

variable {first second third : Deployment σ}

theorem of_eq (managers : second.managers = first.managers)
    (next : second.nextSession = first.nextSession) : SameIds first second where
  managers := Nat.le_of_eq (congrArg List.length managers.symm)
  sessions := fun owner => by simp only [id?, session?, managers]
  next := next

theorem trans (before : SameIds first second) (after : SameIds second third) :
    SameIds first third where
  managers := Nat.le_trans before.managers after.managers
  sessions := fun owner => (after.sessions owner).trans (before.sessions owner)
  next := after.next.trans before.next

end SameIds

theorem sameIds_updateSession (deployment : Deployment σ) (owner : Nat)
    {change : Session → Session} (same : ∀ session, (change session).id = session.id) :
    SameIds deployment (deployment.updateSession owner change) where
  managers := by simp [updateSession, updateManager]
  sessions := by
    intro other
    rw [id?, id?, session?_updateSession, Option.map_map]
    congr 1
    funext session
    simp only [Function.comp_apply]
    split
    · exact same session
    · rfl
  next := rfl

section

variable [Service σ]

theorem sameIds_ask (deployment : Deployment σ) (asker : Option Nat) (envelope : Envelope) :
    SameIds deployment (deployment.ask asker envelope).2 :=
  .of_eq rfl rfl

theorem sameIds_run (deployment : Deployment σ) (job : Job) :
    SameIds deployment (deployment.run job) := by
  have asked := deployment.sameIds_ask (some job.owner) ⟨job.caller, job.request⟩
  unfold run
  split
  · next hasked => simpa only [hasked] using asked
  · next hasked =>
      rw [hasked] at asked
      split
      · exact asked.trans (sameIds_updateSession _ _ fun _ => rfl)
      · exact asked

theorem sameIds_post (deployment : Deployment σ) (dispatcher : Nat) (job : Job) :
    SameIds deployment (deployment.post dispatcher job) := by
  have noted : SameIds deployment (deployment.noted (.posted job)) := .of_eq rfl rfl
  simp only [post]
  split
  · exact .of_eq rfl rfl
  · split
    · exact noted.trans (sameIds_run _ job)
    · exact .of_eq rfl rfl
    · exact .of_eq rfl rfl

theorem sameIds_postRequest (deployment : Deployment σ) (owner : Nat) (request : Request) :
    SameIds deployment (deployment.postRequest owner request) := by
  unfold postRequest
  split
  · exact .of_eq rfl rfl
  · exact sameIds_post _ _ _

theorem sameIds_work (deployment : Deployment σ) (dispatcher : Nat) :
    SameIds deployment (deployment.work dispatcher) := by
  unfold work
  split
  · exact .of_eq rfl rfl
  · next job queue _ =>
      have taken : SameIds deployment
          { deployment with dispatchers := deployment.dispatchers.set dispatcher queue } :=
        .of_eq rfl rfl
      exact taken.trans (sameIds_run _ job)

theorem sameIds_put (deployment : Deployment σ) (owner : Nat) (question : Question) :
    SameIds deployment (deployment.put owner question) := by
  cases hmanager : deployment.managers[owner]? with
  | none =>
      rw [put_eq_self hmanager]
      exact .of_eq rfl rfl
  | some manager =>
      rw [put_eq hmanager]
      exact .of_eq rfl rfl

end

/-- The sessions were made for some managers in some order, and their ids were given
out in that order. -/
structure Issued (base : UInt64) (order : List Nat) (deployment : Deployment σ) : Prop where
  once : order.Nodup
  managers : ∀ owner ∈ order, owner < deployment.managers.length
  ids : ∀ (index : Nat) owner, order[index]? = some owner →
    deployment.id? owner = some ⟨base + UInt64.ofNat index⟩
  owners : ∀ owner id, deployment.id? owner = some id → owner ∈ order
  next : deployment.nextSession = ⟨base + UInt64.ofNat order.length⟩

namespace Issued

variable {base : UInt64} {order : List Nat} {first second : Deployment σ}

theorem keep (issued : Issued base order first) (same : SameIds first second) :
    Issued base order second where
  once := issued.once
  managers := fun owner member =>
    Nat.lt_of_lt_of_le (issued.managers owner member) same.managers
  ids := fun index owner place => (same.sessions owner).trans (issued.ids index owner place)
  owners := fun owner id given => issued.owners owner id ((same.sessions owner).symm.trans given)
  next := same.next.trans issued.next

/-- Not more sessions were made than there are managers. -/
theorem length_le (issued : Issued base order first) : order.length ≤ first.managers.length := by
  have subset : order ⊆ List.range first.managers.length :=
    fun owner member => List.mem_range.mpr (issued.managers owner member)
  simpa using (issued.once.subperm subset).length_le

/-- No id was given out twice, if not more were given out than there are. -/
theorem distinctIds_of_length (issued : Issued base order first)
    (few : order.length ≤ UInt64.size) : first.DistinctIds := by
  intro owner other session found hsession hfound same
  have hid : first.id? owner = some session.id := by simp [id?, hsession]
  have hother : first.id? other = some session.id := by simp [id?, hfound, same]
  rcases List.mem_iff_getElem?.mp (issued.owners owner _ hid) with ⟨index, hindex⟩
  rcases List.mem_iff_getElem?.mp (issued.owners other _ hother) with ⟨position, hposition⟩
  have within : index < UInt64.size :=
    Nat.lt_of_lt_of_le (List.getElem?_eq_some_iff.mp hindex).1 few
  have inside : position < UInt64.size :=
    Nat.lt_of_lt_of_le (List.getElem?_eq_some_iff.mp hposition).1 few
  have ids := ((issued.ids index owner hindex).symm.trans (hid.trans hother.symm)).trans
    (issued.ids position other hposition)
  have equal : UInt64.ofNat index = UInt64.ofNat position := by simpa using ids
  have places := congrArg UInt64.toNat equal
  rw [UInt64.toNat_ofNat_of_lt' within, UInt64.toNat_ofNat_of_lt' inside] at places
  subst places
  exact Option.some.inj (hindex.symm.trans hposition)

theorem distinctIds (issued : Issued base order first)
    (bound : first.managers.length ≤ UInt64.size) : first.DistinctIds :=
  issued.distinctIds_of_length (Nat.le_trans issued.length_le bound)

/-- The next id goes to the session that is made next. -/
theorem make (issued : Issued base order first) {owner : Nat} {manager : Manager}
    (hmanager : first.managers[owner]? = some manager) (absent : manager.session = none) :
    Issued base (order ++ [owner]) (first.ensureSession owner) := by
  have made : first.ensureSession owner =
      { first.updateManager owner fun manager =>
          { manager with session := some { id := first.nextSession } } with
        nextSession := ⟨first.nextSession.value + 1⟩ } := by
    simp [ensureSession, hmanager, absent]
  have given : (first.ensureSession owner).id? owner = some first.nextSession := by
    rw [id?, session?_ensureSession hmanager absent]
    rfl
  have others : ∀ other, owner ≠ other →
      (first.ensureSession owner).id? other = first.id? other := by
    intro other different
    rw [id?, id?, session?_ensureSession_of_ne first different]
  have notMade : owner ∉ order := by
    intro member
    rcases List.mem_iff_getElem?.mp member with ⟨index, hindex⟩
    have there := issued.ids index owner hindex
    simp [id?, session?, hmanager, absent] at there
  constructor
  · refine List.nodup_append.mpr ⟨issued.once, List.nodup_singleton owner, ?_⟩
    intro other member found same
    rw [List.mem_singleton] at same
    rintro rfl
    exact notMade (same ▸ member)
  · intro other member
    have bound : other < first.managers.length := by
      rcases List.mem_append.mp member with member | member
      · exact issued.managers other member
      · rw [List.mem_singleton.mp member]
        exact (List.getElem?_eq_some_iff.mp hmanager).1
    simpa [made, updateManager] using bound
  · intro index other place
    rw [List.getElem?_append] at place
    split at place
    · have different : owner ≠ other := by
        rintro rfl
        exact notMade (List.mem_of_getElem? place)
      rw [others other different]
      exact issued.ids index other place
    · next beyond =>
        rcases List.getElem?_eq_some_iff.mp place with ⟨last, hother⟩
        rw [List.length_singleton] at last
        have here : index = order.length := by omega
        subst here
        have same : owner = other := by simpa using hother
        rw [← same, given, issued.next]
  · intro other id found
    by_cases same : owner = other
    · simp [same]
    · rw [others other same] at found
      exact List.mem_append_left [owner] (issued.owners other id found)
  · rw [made]
    simp [issued.next, UInt64.ofNat_add, UInt64.add_assoc]

section

variable [Service σ]

theorem elementary (issued : Issued base order first) {owner : Nat}
    (step : Elementary owner first second) : ∃ order, Issued base order second := by
  cases step with
  | join manager fresh =>
      refine ⟨order, issued.keep ⟨?_, ?_, rfl⟩⟩
      · simp [addManager]
      · intro other
        rw [id?, id?, session?_addManager first fresh]
  | make hmanager fresh => exact ⟨order ++ [owner], issued.make hmanager fresh⟩
  | mark change =>
      refine ⟨order, issued.keep ⟨?_, ?_, rfl⟩⟩
      · simp [updateManager]
      · intro other
        rw [id?, id?, session?_mark]
  | revise change same => exact ⟨order, issued.keep (sameIds_updateSession first owner same)⟩
  | @began manager session hmanager hsession token component flags =>
      have made : SameIds first (first.newChannel manager.timeout).2 := .of_eq rfl rfl
      have opened : SameIds (first.newChannel manager.timeout).2
          (first.opening owner manager token component flags) :=
        sameIds_updateSession _ owner fun _ => rfl
      rw [began_eq]
      exact ⟨order, issued.keep ((made.trans opened).trans (sameIds_postRequest _ owner _))⟩
  | post hsession hrequest silent =>
      exact ⟨order, issued.keep (sameIds_postRequest first owner _)⟩
  | put question => exact ⟨order, issued.keep (sameIds_put first owner question)⟩
  | remove removal hmanager => exact ⟨order, issued.keep (sameIds_ask first (some owner) _)⟩

theorem after [Autonomous σ] (issued : Issued base order first) (event : Event σ) :
    ∃ order, Issued base order (first.after event) := by
  have elementary : ∀ owner (first second : Deployment σ), Elementary owner first second →
      (∃ order, Issued base order first) → ∃ order, Issued base order second := by
    intro owner first second step made
    rcases made with ⟨order, issued⟩
    exact issued.elementary step
  have work : ∀ (deployment : Deployment σ) dispatcher, (∃ order, Issued base order deployment) →
      ∃ order, Issued base order (deployment.work dispatcher) := by
    intro deployment dispatcher made
    rcases made with ⟨order, issued⟩
    exact ⟨order, issued.keep (sameIds_work deployment dispatcher)⟩
  have acted : ∀ (deployment : Deployment σ) act, (∃ order, Issued base order deployment) →
      ∃ order, Issued base order (deployment.acted act) := by
    intro deployment act made
    rcases made with ⟨order, issued⟩
    exact ⟨order, issued.keep (.of_eq rfl rfl)⟩
  have elapse : ∀ (deployment : Deployment σ) now, (∃ order, Issued base order deployment) →
      ∃ order, Issued base order
        { deployment with exchange := deployment.exchange.reached now } := by
    intro deployment now made
    rcases made with ⟨order, issued⟩
    exact ⟨order, issued.keep (.of_eq rfl rfl)⟩
  exact after_keeps elementary work acted elapse event ⟨order, issued⟩

end

end Issued

theorem Fresh.issued {deployment : Deployment σ} (fresh : deployment.Fresh) :
    Issued deployment.nextSession.value [] deployment := by
  refine ⟨List.nodup_nil, by simp, by simp, ?_, by simp⟩
  intro owner id given
  simp [id?, fresh.session?_eq_none] at given

theorem exists_issued [Service σ] [Autonomous σ] {deployment : Deployment σ}
    (fresh : deployment.Fresh) (events : List (Event σ)) :
    ∃ order, Issued deployment.nextSession.value order (deployment.follow events) := by
  have after : ∀ (between : Deployment σ) (event : Event σ),
      (∃ order, Issued deployment.nextSession.value order between) →
        ∃ order, Issued deployment.nextSession.value order (between.after event) := by
    intro between event made
    rcases made with ⟨order, issued⟩
    exact issued.after event
  exact follow_keeps after ⟨[], fresh.issued⟩ events

/-- Sessions have distinct ids as long as there are not more managers than ids. -/
theorem distinctIds_follow [Service σ] [Autonomous σ] {deployment : Deployment σ}
    (fresh : deployment.Fresh) (events : List (Event σ))
    (bound : (deployment.follow events).managers.length ≤ UInt64.size) :
    (deployment.follow events).DistinctIds := by
  rcases exists_issued fresh events with ⟨order, issued⟩
  exact issued.distinctIds bound

end Deployment
end ContentCapture
