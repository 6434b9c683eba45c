import ContentCapture.Dispatch.JobTree
import Mathlib.Data.List.Basic
import Mathlib.Data.List.Nodup

namespace ContentCapture

/-!
# Places of jobs

Jobs may have the same name, so that the notes alone do not tell them apart.  The place of
a job does: it says which of the posted trees the job belongs to, and which child to turn
to at every fork on the way down.

A job is posted, it begins, and perhaps it notes its end.  These moments carry the place of
the job.  What a dispatcher notes is what its moments say, in the same order.

When jobs are run where they are posted, the moments of a tree follow its structure.  All
that is said of them here is shown by induction over the trees.
-/

/-- The index of a posted tree, and then the indices of children. -/
abbrev Place := List Nat

/-- What happens to a job. -/
inductive Moment where
  | posted (place : Place)
  | began (place : Place) (name : String)
  | ended (place : Place) (name : String)
  deriving DecidableEq, Repr

namespace Moment

def place : Moment → Place
  | .posted place => place
  | .began place _ => place
  | .ended place _ => place

/-- What is noted. -/
def text? : Moment → Option String
  | .posted _ => none
  | .began _ name => some name
  | .ended _ name => some ("end " ++ name)

/-- The place of the job that is posted. -/
def posted? : Moment → Option Place
  | .posted place => some place
  | _ => none

/-- The place of the job that begins. -/
def began? : Moment → Option Place
  | .began place _ => some place
  | _ => none

/-- The end of a job, if it notes it. -/
def finish (place : Place) (name : String) (marked : Bool) : List Moment :=
  if marked then [.ended place name] else []

theorem filterMap_text?_finish (place : Place) (name : String) (marked : Bool) :
    (finish place name marked).filterMap text? = JobTree.ending name marked := by
  cases marked <;> rfl

theorem filterMap_posted?_finish (place : Place) (name : String) (marked : Bool) :
    (finish place name marked).filterMap posted? = [] := by
  cases marked <;> rfl

theorem filterMap_began?_finish (place : Place) (name : String) (marked : Bool) :
    (finish place name marked).filterMap began? = [] := by
  cases marked <;> rfl

theorem mem_finish {moment : Moment} {place : Place} {name : String} {marked : Bool} :
    moment ∈ finish place name marked ↔ marked = true ∧ moment = .ended place name := by
  cases marked <;> simp [finish]

end Moment

open Moment

namespace JobTree

/-- A job of a tree, and the children that lead to it. -/
inductive Below : JobTree → Place → JobTree → Prop
  | self (tree : JobTree) : Below tree [] tree
  | child {name : String} {children : List JobTree} {marked : Bool} {index : Nat}
      {tree job : JobTree} {place : Place} (there : children[index]? = some tree)
      (below : Below tree place job) : Below (.node name children marked) (index :: place) job

/-- The moments of a job alone, its children apart. -/
def own (place : Place) : JobTree → List Moment
  | .node name _ marked => .posted place :: .began place name :: finish place name marked

theorem place_of_mem_own {place : Place} {tree : JobTree} {moment : Moment}
    (member : moment ∈ tree.own place) : moment.place = place := by
  rcases tree with ⟨name, children, marked⟩
  simp only [own, List.mem_cons, mem_finish] at member
  rcases member with rfl | rfl | ⟨-, rfl⟩ <;> rfl

mutual
/-- The moments of a tree when each job is run where it is posted. -/
def inline (place : Place) : JobTree → List Moment
  | .node name children marked =>
      .posted place :: .began place name ::
        (inlineAll place 0 children ++ finish place name marked)

/-- The moments of the children of a job, the next of which has some index. -/
def inlineAll (place : Place) (next : Nat) : List JobTree → List Moment
  | [] => []
  | tree :: rest => inline (place ++ [next]) tree ++ inlineAll place (next + 1) rest
end

theorem inlineAll_append (place : Place) (next : Nat) (first second : List JobTree) :
    inlineAll place next (first ++ second) =
      inlineAll place next first ++ inlineAll place (next + first.length) second := by
  induction first generalizing next with
  | nil => simp [inlineAll]
  | cons tree rest inductionHypothesis =>
      have lengths : next + 1 + rest.length = next + (rest.length + 1) := by omega
      simp only [List.cons_append, inlineAll, inductionHypothesis, List.length_cons, lengths,
        List.append_assoc]

mutual
/-- What is noted is what the moments say. -/
theorem filterMap_text?_inline (place : Place) (tree : JobTree) :
    (inline place tree).filterMap text? = tree.depthFirst := by
  rcases tree with ⟨name, children, marked⟩
  have inner := filterMap_text?_inlineAll place 0 children
  simp only [inline, depthFirst, List.filterMap_cons, List.filterMap_append, text?, inner,
    filterMap_text?_finish]

theorem filterMap_text?_inlineAll (place : Place) (next : Nat) (trees : List JobTree) :
    (inlineAll place next trees).filterMap text? = depthFirstAll trees := by
  match trees with
  | [] => rfl
  | tree :: rest =>
      simp only [inlineAll, depthFirstAll, List.filterMap_append,
        filterMap_text?_inline (place ++ [next]) tree,
        filterMap_text?_inlineAll place (next + 1) rest]
end

/-! ## Every job once -/

mutual
/-- The moments of a tree are those of its jobs. -/
theorem mem_inline (place : Place) (tree : JobTree) (moment : Moment) :
    moment ∈ inline place tree ↔
      ∃ below job, Below tree below job ∧ moment ∈ job.own (place ++ below) := by
  rcases tree with ⟨name, children, marked⟩
  have inner := mem_inlineAll place 0 children moment
  have split : moment ∈ inline place (.node name children marked) ↔
      moment ∈ own place (.node name children marked) ∨ moment ∈ inlineAll place 0 children := by
    simp only [inline, own, List.mem_cons, List.mem_append]
    tauto
  rw [split, inner]
  constructor
  · rintro (member | ⟨index, tree, below, job, there, hbelow, member⟩)
    · exact ⟨[], _, .self _, by rwa [List.append_nil]⟩
    · rw [Nat.zero_add] at member
      exact ⟨index :: below, job, .child there hbelow, member⟩
  · rintro ⟨below, job, hbelow, member⟩
    cases hbelow with
    | self => exact .inl (by rwa [List.append_nil] at member)
    | @child _ _ _ index tree _ below there hbelow =>
        exact .inr ⟨index, tree, below, job, there, hbelow, by rwa [Nat.zero_add]⟩

theorem mem_inlineAll (place : Place) (next : Nat) (trees : List JobTree) (moment : Moment) :
    moment ∈ inlineAll place next trees ↔
      ∃ index tree below job, trees[index]? = some tree ∧ Below tree below job ∧
        moment ∈ job.own (place ++ (next + index) :: below) := by
  match trees with
  | [] => simp [inlineAll]
  | tree :: rest =>
      have first := mem_inline (place ++ [next]) tree moment
      have others := mem_inlineAll place (next + 1) rest moment
      rw [inlineAll, List.mem_append, first, others]
      constructor
      · rintro (⟨below, job, hbelow, member⟩ | ⟨index, tree, below, job, there, hbelow, member⟩)
        · exact ⟨0, tree, below, job, rfl, hbelow, by simpa using member⟩
        · have shifted : next + 1 + index = next + (index + 1) := by omega
          rw [shifted] at member
          exact ⟨index + 1, tree, below, job, there, hbelow, member⟩
      · rintro ⟨index, tree, below, job, there, hbelow, member⟩
        cases index with
        | zero =>
            cases there
            exact .inl ⟨below, job, hbelow, by simpa using member⟩
        | succ index =>
            have shifted : next + (index + 1) = next + 1 + index := by omega
            rw [shifted] at member
            exact .inr ⟨index, tree, below, job, there, hbelow, member⟩
end

/-- The jobs of a tree are at its place or below it. -/
theorem prefix_of_mem_inline {place : Place} {tree : JobTree} {moment : Moment}
    (member : moment ∈ inline place tree) : place <+: moment.place := by
  rcases (mem_inline place tree moment).mp member with ⟨below, job, -, own⟩
  rw [place_of_mem_own own]
  exact List.prefix_append place below

/-- The children of a job are at different places below it. -/
theorem exists_of_mem_inlineAll {place : Place} {next : Nat} {trees : List JobTree}
    {moment : Moment} (member : moment ∈ inlineAll place next trees) :
    ∃ index, next ≤ index ∧ index < next + trees.length ∧
      place ++ [index] <+: moment.place := by
  rcases (mem_inlineAll place next trees moment).mp member with
    ⟨index, tree, below, job, there, -, own⟩
  have bound := (List.getElem?_eq_some_iff.mp there).1
  refine ⟨next + index, by omega, by omega, below, ?_⟩
  rw [place_of_mem_own own, List.append_assoc]
  rfl

/-- Places below different children of a job are different. -/
theorem index_eq_of_prefix {place below : Place} {first second : Nat}
    (hfirst : place ++ [first] <+: below) (hsecond : place ++ [second] <+: below) :
    first = second := by
  rcases hfirst with ⟨rest, rfl⟩
  rcases hsecond with ⟨other, same⟩
  have parts : second = first ∧ other = rest := by simpa using same
  exact parts.1.symm

theorem prefix_of_mem_children {place : Place} {next : Nat} {trees : List JobTree}
    {moment : Moment} (member : moment ∈ inlineAll place next trees) : place <+: moment.place := by
  rcases exists_of_mem_inlineAll member with ⟨index, -, -, inside⟩
  exact (List.prefix_append place [index]).trans inside

/-- A moment of a child is none of the job itself. -/
theorem place_ne_of_mem_inlineAll {place : Place} {next : Nat} {trees : List JobTree}
    {moment : Moment} (member : moment ∈ inlineAll place next trees) : moment.place ≠ place := by
  rcases exists_of_mem_inlineAll member with ⟨index, -, -, rest, same⟩
  rw [← same]
  simp

mutual
/-- Nothing happens twice. -/
theorem nodup_inline (place : Place) (tree : JobTree) : (inline place tree).Nodup := by
  rcases tree with ⟨name, children, marked⟩
  have inner := nodup_inlineAll place 0 children
  have apart : ∀ moment, moment.place = place → moment ∉ inlineAll place 0 children :=
    fun moment same member => place_ne_of_mem_inlineAll member same
  have ending : (inlineAll place 0 children ++ finish place name marked).Nodup := by
    refine List.nodup_append.mpr ⟨inner, by cases marked <;> simp [finish], ?_⟩
    rintro moment member other hother rfl
    obtain ⟨-, rfl⟩ := mem_finish.mp hother
    exact apart _ rfl member
  have begin : ∀ moment, moment.place = place → moment ≠ .ended place name →
      moment ∉ inlineAll place 0 children ++ finish place name marked := by
    intro moment same different member
    rcases List.mem_append.mp member with member | member
    · exact apart moment same member
    · exact different (mem_finish.mp member).2
  refine List.nodup_cons.mpr ⟨?_, List.nodup_cons.mpr ⟨begin _ rfl (by simp), ending⟩⟩
  rw [List.mem_cons]
  rintro (same | member)
  · simp at same
  · exact begin _ rfl (by simp) member

theorem nodup_inlineAll (place : Place) (next : Nat) (trees : List JobTree) :
    (inlineAll place next trees).Nodup := by
  match trees with
  | [] => exact List.nodup_nil
  | tree :: rest =>
      refine List.nodup_append.mpr
        ⟨nodup_inline (place ++ [next]) tree, nodup_inlineAll place (next + 1) rest, ?_⟩
      rintro moment member other hother rfl
      have first := prefix_of_mem_inline member
      rcases exists_of_mem_inlineAll hother with ⟨index, later, -, second⟩
      have same := index_eq_of_prefix first second
      omega
end

/-! ## The order of what is run where it is posted -/

/-- The places of the jobs that begin, in order. -/
def begun (moments : List Moment) : List Place :=
  moments.filterMap began?

theorem mem_begun {moments : List Moment} {place : Place} :
    place ∈ begun moments ↔ ∃ name, .began place name ∈ moments := by
  rw [begun, List.mem_filterMap]
  constructor
  · rintro ⟨moment, member, same⟩
    cases moment with
    | began found name =>
        cases same
        exact ⟨name, member⟩
    | _ => cases same
  · rintro ⟨name, member⟩
    exact ⟨_, member, rfl⟩

/-- A place comes before those below it. -/
theorem lt_of_prefix {place below : Place} (h : place <+: below) (different : below ≠ place) :
    place < below := by
  rcases h with ⟨rest, rfl⟩
  cases rest with
  | nil => simp at different
  | cons index rest => simpa using List.append_left_lt (List.nil_lt_cons index rest)

/-- Places below a child come before those below the next one. -/
theorem lt_of_index_lt {place first second : Place} {index later : Nat}
    (hfirst : place ++ [index] <+: first) (hsecond : place ++ [later] <+: second)
    (h : index < later) : first < second := by
  rcases hfirst with ⟨rest, rfl⟩
  rcases hsecond with ⟨other, rfl⟩
  rw [List.append_assoc, List.append_assoc]
  exact List.append_left_lt (List.cons_lt_cons_iff.mpr (.inl h))

mutual
/-- A job begins before its children, and a child before the next one. -/
theorem pairwise_begun_inline (place : Place) (tree : JobTree) :
    (begun (inline place tree)).Pairwise (· < ·) := by
  rcases tree with ⟨name, children, marked⟩
  have inner := pairwise_begun_inlineAll place 0 children
  have whole : begun (inline place (.node name children marked)) =
      place :: begun (inlineAll place 0 children) := by
    simp only [begun, inline, List.filterMap_cons, List.filterMap_append, began?,
      filterMap_began?_finish, List.append_nil]
  rw [whole]
  refine List.pairwise_cons.mpr ⟨fun below member => ?_, inner⟩
  rcases mem_begun.mp member with ⟨found, member⟩
  exact lt_of_prefix (prefix_of_mem_children member) (place_ne_of_mem_inlineAll member)

theorem pairwise_begun_inlineAll (place : Place) (next : Nat) (trees : List JobTree) :
    (begun (inlineAll place next trees)).Pairwise (· < ·) := by
  match trees with
  | [] => exact List.Pairwise.nil
  | tree :: rest =>
      rw [inlineAll, begun, List.filterMap_append]
      refine List.pairwise_append.mpr ⟨pairwise_begun_inline (place ++ [next]) tree,
        pairwise_begun_inlineAll place (next + 1) rest, fun first hfirst second hsecond => ?_⟩
      rcases mem_begun.mp hfirst with ⟨name, hfirst⟩
      rcases mem_begun.mp hsecond with ⟨found, hsecond⟩
      rcases exists_of_mem_inlineAll hsecond with ⟨index, later, -, inside⟩
      exact lt_of_index_lt (prefix_of_mem_inline hfirst) inside later
end

/-- One moment comes before another one. -/
abbrev Precedes (moments : List Moment) (first second : Moment) : Prop :=
  [first, second].Sublist moments

theorem precedes_append {former latter : List Moment} {first second : Moment}
    (hfirst : first ∈ former) (hsecond : second ∈ latter) :
    Precedes (former ++ latter) first second :=
  List.Sublist.append (List.singleton_sublist.mpr hfirst) (List.singleton_sublist.mpr hsecond)

mutual
/-- A job notes its end after all jobs below it have begun. -/
theorem precedes_inline {place : Place} {tree : JobTree} {above below : Place}
    {name found : String} (ended : .ended above name ∈ inline place tree)
    (began : .began below found ∈ inline place tree) (inside : above <+: below) :
    Precedes (inline place tree) (.began below found) (.ended above name) := by
  rcases tree with ⟨own, children, marked⟩
  have split : inline place (.node own children marked) =
      (.posted place :: .began place own :: inlineAll place 0 children) ++
        finish place own marked := rfl
  rw [split] at ended began ⊢
  rcases List.mem_append.mp began with began | last
  · rcases List.mem_append.mp ended with ended | last
    · have ended : .ended above name ∈ inlineAll place 0 children := by simpa using ended
      have began : (below = place ∧ found = own) ∨
          .began below found ∈ inlineAll place 0 children := by simpa using began
      refine ((List.Sublist.trans ?_ (List.sublist_cons_self _ _)).trans
        (List.sublist_cons_self _ _)).trans (List.sublist_append_left _ _)
      rcases began with ⟨rfl, -⟩ | began
      · -- The job itself is not below its children.
        have same := inside.eq_of_length_le (prefix_of_mem_children ended).length_le
        exact absurd same (place_ne_of_mem_inlineAll ended)
      · exact precedes_inlineAll ended began inside
    · exact precedes_append began last
  · simp [mem_finish] at last

theorem precedes_inlineAll {place : Place} {next : Nat} {trees : List JobTree}
    {above below : Place} {name found : String}
    (ended : .ended above name ∈ inlineAll place next trees)
    (began : .began below found ∈ inlineAll place next trees) (inside : above <+: below) :
    Precedes (inlineAll place next trees) (.began below found) (.ended above name) := by
  match trees with
  | [] => simp [inlineAll] at ended
  | tree :: rest =>
      rw [inlineAll] at ended began ⊢
      rcases List.mem_append.mp ended with ended | ended
      · have first := (prefix_of_mem_inline ended).trans inside
        rcases List.mem_append.mp began with began | began
        · exact (precedes_inline ended began inside).trans (List.sublist_append_left _ _)
        · rcases exists_of_mem_inlineAll began with ⟨index, later, -, second⟩
          have same := index_eq_of_prefix first second
          omega
      · rcases exists_of_mem_inlineAll ended with ⟨index, later, -, second⟩
        rcases List.mem_append.mp began with began | began
        · have same := index_eq_of_prefix (prefix_of_mem_inline began) (second.trans inside)
          omega
        · exact (precedes_inlineAll ended began inside).trans (List.sublist_append_right _ _)
end

/-! ## Trees that are posted -/

/-- A job of trees that were posted one after another. -/
def JobAt (trees : List JobTree) (place : Place) (job : JobTree) : Prop :=
  ∃ index tree below, place = index :: below ∧ trees[index]? = some tree ∧ Below tree below job

/-- Every job of the trees has its moments, none of them twice, and there are no others. -/
structure Complete (trees : List JobTree) (moments : List Moment) : Prop where
  once : moments.Nodup
  mem_iff : ∀ moment,
    moment ∈ moments ↔ ∃ place job, JobAt trees place job ∧ moment ∈ job.own place

/-- Jobs begin in pre-order, and a job notes its end after all jobs below it. -/
structure DepthFirst (trees : List JobTree) (moments : List Moment) : Prop extends
    Complete trees moments where
  preorder : (begun moments).Pairwise (· < ·)
  endsLast : ∀ above name below found, .ended above name ∈ moments →
    .began below found ∈ moments → above <+: below →
      Precedes moments (.began below found) (.ended above name)

theorem complete_inlineAll (trees : List JobTree) : Complete trees (inlineAll [] 0 trees) where
  once := nodup_inlineAll [] 0 trees
  mem_iff := by
    intro moment
    rw [mem_inlineAll]
    constructor
    · rintro ⟨index, tree, below, job, there, hbelow, own⟩
      rw [Nat.zero_add, List.nil_append] at own
      exact ⟨index :: below, job, ⟨index, tree, below, rfl, there, hbelow⟩, own⟩
    · rintro ⟨place, job, ⟨index, tree, below, rfl, there, hbelow⟩, own⟩
      exact ⟨index, tree, below, job, there, hbelow, by rwa [Nat.zero_add, List.nil_append]⟩

theorem depthFirst_inlineAll (trees : List JobTree) : DepthFirst trees (inlineAll [] 0 trees) where
  toComplete := complete_inlineAll trees
  preorder := pairwise_begun_inlineAll [] 0 trees
  endsLast := fun _ _ _ _ ended began inside => precedes_inlineAll ended began inside

/-- It does not depend on the order what happens. -/
theorem Complete.perm {trees : List JobTree} {first second : List Moment}
    (complete : Complete trees first) (same : first.Perm second) : Complete trees second where
  once := same.nodup_iff.mp complete.once
  mem_iff := fun moment => same.mem_iff.symm.trans (complete.mem_iff moment)

end JobTree
end ContentCapture
