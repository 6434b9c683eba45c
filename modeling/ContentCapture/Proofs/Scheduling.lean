import ContentCapture.Proofs.Places
import Mathlib.Logic.Function.Iterate
import Mathlib.Data.List.Range
import Mathlib.Data.List.Perm.Basic

namespace ContentCapture

/-!
# In which order jobs are run

A job notes its name, posts its children to the dispatcher that runs it, and perhaps notes
its end.  Where it is run at once its children are run within it.  Where it has to wait its
children wait behind all that waits already, so that a queue is worked off in the order of
posting, generation by generation.

What a queue has done is best said with the places of the jobs.  A worker here is a log
whose jobs have places, and whose moments are what the log notes.  Two things are the same
at all times: what has happened and what the waiting jobs are still going to do make up all
that the posted trees have to do, and the jobs that were posted are those that have begun
and those that wait, in this order.
-/

namespace JobTree

/-- A job has no children. -/
def IsLeaf : JobTree → Prop
  | .node _ children _ => children = []

theorem depthFirstAll_append (first second : List JobTree) :
    depthFirstAll (first ++ second) = depthFirstAll first ++ depthFirstAll second := by
  induction first with
  | nil => rfl
  | cons tree rest inductionHypothesis => simp [depthFirstAll, inductionHypothesis]

end JobTree

open JobTree Moment

namespace JobLog

/-- What is done to a dispatcher of job trees. -/
inductive Step where
  | post (tree : JobTree)
  /-- The next job is run. -/
  | work
  /-- Jobs are run until none waits. -/
  | pump

/-- The trees that are posted in some steps. -/
def postings (steps : List Step) : List JobTree :=
  steps.filterMap fun
    | .post tree => some tree
    | _ => none

def after (log : JobLog) : Step → JobLog
  | .post tree => log.post tree
  | .work => log.work
  | .pump => log.pump

def follow (log : JobLog) (steps : List Step) : JobLog :=
  steps.foldl after log

/-- Nothing is noted yet, and nothing waits. -/
def opened (mode : Dispatcher.Mode) : JobLog :=
  { dispatcher := { mode := mode } }

def noted (log : JobLog) (lines : List String) : JobLog :=
  { log with notes := log.notes ++ lines }

def queued (log : JobLog) (jobs : List JobTree) : JobLog :=
  { log with dispatcher := { log.dispatcher with jobs := log.dispatcher.jobs ++ jobs } }

/-! ## What a job does -/

/-- A job notes its name, posts its children, and notes its end if it is marked. -/
def perform (log : JobLog) : JobTree → JobLog
  | .node name children marked =>
      (children.foldl post (log.noted [name])).noted (ending name marked)

theorem post_of_immediate {log : JobLog} (mode : log.dispatcher.mode = .immediate)
    (tree : JobTree) : log.post tree = log.noted tree.depthFirst := by
  simp [post, mode, noted]

theorem foldl_post_of_immediate {log : JobLog} (mode : log.dispatcher.mode = .immediate)
    (trees : List JobTree) : trees.foldl post log = log.noted (depthFirstAll trees) := by
  induction trees generalizing log with
  | nil => simp [depthFirstAll, noted]
  | cons tree rest inductionHypothesis =>
      have still : (log.noted tree.depthFirst).dispatcher.mode = .immediate := mode
      rw [List.foldl_cons, post_of_immediate mode, inductionHypothesis still]
      simp [noted, depthFirstAll]

/-- An immediate dispatcher does what a job does when the job is posted. -/
theorem post_eq_perform {log : JobLog} (mode : log.dispatcher.mode = .immediate)
    (tree : JobTree) : log.post tree = log.perform tree := by
  rcases tree with ⟨name, children, marked⟩
  have still : (log.noted [name]).dispatcher.mode = .immediate := mode
  rw [post_of_immediate mode, perform, foldl_post_of_immediate still]
  simp [noted, depthFirst]

theorem post_of_queued {log : JobLog} (mode : log.dispatcher.mode = .queued) (tree : JobTree) :
    log.post tree = log.queued [tree] := by
  simp [post, mode, queued, Dispatcher.push]

theorem foldl_post_of_queued {log : JobLog} (mode : log.dispatcher.mode = .queued)
    (trees : List JobTree) : trees.foldl post log = log.queued trees := by
  induction trees generalizing log with
  | nil => simp [queued]
  | cons tree rest inductionHypothesis =>
      have still : (log.queued [tree]).dispatcher.mode = .queued := mode
      rw [List.foldl_cons, post_of_queued mode, inductionHypothesis still]
      simp [queued]

/-- A live queue does what a job does when it comes to the job. -/
theorem work_eq_perform {log : JobLog} (mode : log.dispatcher.mode = .queued) :
    log.work = match log.dispatcher.pop? with
      | none => log
      | some (tree, rest) => { log with dispatcher := rest }.perform tree := by
  cases hjobs : log.dispatcher.jobs with
  | nil => simp [work, Dispatcher.pop?, hjobs]
  | cons tree rest =>
      rcases tree with ⟨name, children, marked⟩
      have popped : log.dispatcher.pop? =
          some (.node name children marked, { log.dispatcher with jobs := rest }) := by
        simp [Dispatcher.pop?, hjobs]
      let left : JobLog := { log with dispatcher := { log.dispatcher with jobs := rest } }
      have still : (left.noted [name]).dispatcher.mode = .queued := mode
      have performed : left.perform (.node name children marked) =
          ((left.noted [name]).queued children).noted (ending name marked) := by
        rw [perform, foldl_post_of_queued still]
      simp only [work, popped]
      rw [performed]
      simp [left, noted, queued]

/-! ## Pumping is working -/

/-- A job that is run is gone, and its children wait. -/
theorem work_cons {mode : Dispatcher.Mode} {name : String} {children rest : List JobTree}
    {marked : Bool} {notes : List String} :
    work ⟨⟨mode, .node name children marked :: rest⟩, notes⟩ =
      ⟨⟨mode, rest ++ children⟩, notes ++ name :: ending name marked⟩ := rfl

/-- To run a queue until it is empty is to run as many jobs as there are in it, counting
those that are still to be posted. -/
theorem pump_eq_iterate (log : JobLog) :
    log.pump = work^[sizeAll log.dispatcher.jobs] log := by
  rcases log with ⟨⟨mode, jobs⟩, notes⟩
  induction hsize : sizeAll jobs generalizing jobs notes with
  | zero =>
      cases jobs with
      | nil => simp [pump, levelOrder]
      | cons tree rest =>
          rcases tree with ⟨name, children, marked⟩
          simp [sizeAll, size] at hsize
  | succ left inductionHypothesis =>
      cases jobs with
      | nil => simp [sizeAll] at hsize
      | cons tree rest =>
          rcases tree with ⟨name, children, marked⟩
          have fewer : sizeAll (rest ++ children) = left := by
            simp only [sizeAll, size] at hsize
            rw [sizeAll_append]
            omega
          have pumped := inductionHypothesis (notes ++ name :: ending name marked)
            (rest ++ children) fewer
          have worked : pump ⟨⟨mode, .node name children marked :: rest⟩, notes⟩ =
              pump ⟨⟨mode, rest ++ children⟩, notes ++ name :: ending name marked⟩ := by
            simp [pump, levelOrder]
          rw [worked, pumped, Function.iterate_succ_apply, work_cons]

end JobLog

/-! ## Jobs with their places -/

/-- The children of a job, the next of which has some index, with their places. -/
def placed (place : Place) (next : Nat) : List JobTree → List (Place × JobTree)
  | [] => []
  | tree :: rest => (place ++ [next], tree) :: placed place (next + 1) rest

def kids : Place × JobTree → List (Place × JobTree)
  | (place, .node _ children _) => placed place 0 children

/-- What happens when a job is run from a queue: its children are only posted. -/
def block : Place × JobTree → List Moment
  | (place, .node name children marked) =>
      .began place name ::
        ((placed place 0 children).map (fun kid => .posted kid.1) ++ finish place name marked)

/-- What a waiting job and the jobs below it are still going to do. -/
def ahead : Place × JobTree → List Moment
  | (place, .node name children marked) =>
      .began place name :: (inlineAll place 0 children ++ finish place name marked)

theorem inline_eq (place : Place) (tree : JobTree) :
    inline place tree = .posted place :: ahead (place, tree) := by
  rcases tree with ⟨name, children, marked⟩
  rfl

theorem map_snd_placed (place : Place) (next : Nat) (trees : List JobTree) :
    (placed place next trees).map Prod.snd = trees := by
  induction trees generalizing next with
  | nil => rfl
  | cons tree rest inductionHypothesis => simp [placed, inductionHypothesis]

theorem exists_of_mem_placed {place : Place} {next : Nat} {trees : List JobTree}
    {job : Place × JobTree} (member : job ∈ placed place next trees) :
    ∃ index, job.1 = place ++ [index] := by
  induction trees generalizing next with
  | nil => cases member
  | cons tree rest inductionHypothesis =>
      rcases List.mem_cons.mp member with rfl | member
      · exact ⟨next, rfl⟩
      · exact inductionHypothesis member

theorem exists_of_mem_kids {job kid : Place × JobTree} (member : kid ∈ kids job) :
    ∃ index, kid.1 = job.1 ++ [index] := by
  rcases job with ⟨place, ⟨name, children, marked⟩⟩
  exact exists_of_mem_placed member

/-- The children are posted, and then they have ahead of them what they have. -/
theorem perm_inlineAll (place : Place) (next : Nat) (trees : List JobTree) :
    (inlineAll place next trees).Perm
      (((placed place next trees).map fun kid => .posted kid.1) ++
        (placed place next trees).flatMap ahead) := by
  induction trees generalizing next with
  | nil => exact .nil
  | cons tree rest inductionHypothesis =>
      rw [inlineAll, placed, List.map_cons, List.flatMap_cons, inline_eq, List.cons_append,
        List.cons_append]
      refine .cons _ (((inductionHypothesis (next + 1)).append_left _).trans ?_)
      rw [← List.append_assoc, ← List.append_assoc]
      exact List.perm_append_comm.append_right _

/-- A job that is run leaves ahead of its children what it does not do. -/
theorem perm_ahead (job : Place × JobTree) :
    (ahead job).Perm (block job ++ (kids job).flatMap ahead) := by
  rcases job with ⟨place, ⟨name, children, marked⟩⟩
  simp only [ahead, block, kids, List.cons_append]
  refine .cons _ (((perm_inlineAll place 0 children).append_right _).trans ?_)
  rw [List.append_assoc, List.append_assoc]
  exact List.perm_append_comm.append_left _

theorem filterMap_text?_block (place : Place) (name : String) (children : List JobTree)
    (marked : Bool) :
    (block (place, .node name children marked)).filterMap text? = name :: ending name marked := by
  have silent : ∀ kids : List (Place × JobTree),
      (kids.map fun kid => Moment.posted kid.1).filterMap text? = [] := by
    intro kids
    simp [List.filterMap_map, Function.comp_def, text?]
  simp [block, List.filterMap_append, silent, text?, filterMap_text?_finish]

theorem filterMap_posted?_block (job : Place × JobTree) :
    (block job).filterMap posted? = (kids job).map Prod.fst := by
  rcases job with ⟨place, ⟨name, children, marked⟩⟩
  rw [block, List.filterMap_cons_none rfl, List.filterMap_append,
    filterMap_posted?_finish, List.append_nil, List.filterMap_map]
  simp [kids, Function.comp_def, posted?]

theorem begun_block (job : Place × JobTree) : begun (block job) = [job.1] := by
  rcases job with ⟨place, ⟨name, children, marked⟩⟩
  simp [block, begun, List.filterMap_append, List.filterMap_map, Function.comp_def, began?,
    filterMap_began?_finish]

/-- One more job has begun once its moments have passed. -/
theorem begun_append_block (moments : List Moment) (job : Place × JobTree) :
    begun (moments ++ block job) = begun moments ++ [job.1] := by
  rw [begun, List.filterMap_append]
  exact congrArg _ (begun_block job)

theorem place_of_ended_mem_block {job : Place × JobTree} {place : Place} {name : String}
    (member : .ended place name ∈ block job) : place = job.1 := by
  rcases job with ⟨own, ⟨title, children, marked⟩⟩
  have last : marked = true ∧ place = own ∧ name = title := by
    simpa [block, mem_finish] using member
  exact last.2.1

/-! ## Workers -/

/-- A queue whose jobs have places, what has happened, and how many trees were posted. -/
structure Worker where
  queue : List (Place × JobTree) := []
  moments : List Moment := []
  next : Nat := 0

namespace Worker

def post (worker : Worker) (tree : JobTree) : Worker where
  queue := worker.queue ++ [([worker.next], tree)]
  moments := worker.moments ++ [.posted [worker.next]]
  next := worker.next + 1

def work (worker : Worker) : Worker :=
  match worker.queue with
  | [] => worker
  | job :: rest =>
      { worker with queue := rest ++ kids job, moments := worker.moments ++ block job }

/-- The number of jobs that wait, counting those that are still to be posted. -/
def load (worker : Worker) : Nat :=
  sizeAll (worker.queue.map Prod.snd)

def pump (worker : Worker) : Worker :=
  work^[worker.load] worker

def after (worker : Worker) : JobLog.Step → Worker
  | .post tree => worker.post tree
  | .work => worker.work
  | .pump => worker.pump

def follow (worker : Worker) (steps : List JobLog.Step) : Worker :=
  steps.foldl after worker

/-- The log of a live queue that a worker keeps. -/
def log (worker : Worker) : JobLog where
  dispatcher := { mode := .queued, jobs := worker.queue.map Prod.snd }
  notes := worker.moments.filterMap text?

theorem log_post (worker : Worker) (tree : JobTree) :
    (worker.post tree).log = worker.log.post tree := by
  simp [log, post, JobLog.post, Dispatcher.push, text?]

theorem log_work (worker : Worker) : worker.work.log = worker.log.work := by
  cases hqueue : worker.queue with
  | nil => simp [log, work, JobLog.work, Dispatcher.pop?, hqueue]
  | cons job rest =>
      rcases job with ⟨place, ⟨name, children, marked⟩⟩
      simp [log, work, JobLog.work, Dispatcher.pop?, hqueue, kids, map_snd_placed,
        filterMap_text?_block]

theorem log_iterate (worker : Worker) (count : Nat) :
    (work^[count] worker).log = JobLog.work^[count] worker.log := by
  induction count generalizing worker with
  | zero => rfl
  | succ count inductionHypothesis =>
      rw [Function.iterate_succ_apply, Function.iterate_succ_apply, inductionHypothesis, log_work]

theorem log_pump (worker : Worker) : worker.pump.log = worker.log.pump := by
  rw [JobLog.pump_eq_iterate, pump, log_iterate]
  rfl

/-- A worker keeps the log of a live queue. -/
theorem log_follow (worker : Worker) (steps : List JobLog.Step) :
    (worker.follow steps).log = worker.log.follow steps := by
  induction steps generalizing worker with
  | nil => rfl
  | cons step rest inductionHypothesis =>
      have same : (worker.after step).log = worker.log.after step := by
        cases step with
        | post tree => exact worker.log_post tree
        | work => exact worker.log_work
        | pump => exact worker.log_pump
      have followed := inductionHypothesis (worker.after step)
      rw [same] at followed
      exact followed

/-! ## What a worker keeps -/

/-- A worker runs its jobs in turn.  The jobs that were posted are those that have begun and
those that wait.  Above the jobs that wait all jobs have begun, no job has begun before those
above it, and a job that notes its end does so before any job below it begins. -/
structure InTurn (worker : Worker) (trees : List JobTree) : Prop where
  next : worker.next = trees.length
  all : (worker.moments ++ worker.queue.flatMap ahead).Perm (inlineAll [] 0 trees)
  fifo : worker.moments.filterMap posted? = begun worker.moments ++ worker.queue.map Prod.fst
  grown : ∀ job ∈ worker.queue, ∀ above, above ≠ [] → above <+: job.1 → above ≠ job.1 →
    above ∈ begun worker.moments
  rooted : ∀ below ∈ begun worker.moments, ∀ above, above ≠ [] → above <+: below →
    above ∈ begun worker.moments
  endsFirst : ∀ above name below found, .ended above name ∈ worker.moments →
    .began below found ∈ worker.moments → above <+: below → above ≠ below →
      Precedes worker.moments (.ended above name) (.began below found)

namespace InTurn

variable {trees : List JobTree} {worker : Worker}

theorem opened : InTurn {} [] where
  next := rfl
  all := .nil
  fifo := rfl
  grown := by simp
  rooted := by simp [begun]
  endsFirst := by simp

theorem once (inTurn : InTurn worker trees) : worker.moments.Nodup :=
  (inTurn.all.nodup_iff.mpr (nodup_inlineAll [] 0 trees)).sublist (List.sublist_append_left _ _)

theorem post (inTurn : InTurn worker trees) (tree : JobTree) :
    InTurn (worker.post tree) (trees ++ [tree]) where
  next := by simp [Worker.post, inTurn.next]
  all := by
    have grew : inlineAll [] 0 (trees ++ [tree]) =
        inlineAll [] 0 trees ++ .posted [worker.next] :: ahead ([worker.next], tree) := by
      rw [inlineAll_append, inlineAll, inlineAll, inline_eq, List.append_nil, inTurn.next]
      simp
    simp only [Worker.post, List.flatMap_append, List.flatMap_cons, List.flatMap_nil,
      List.append_nil]
    rw [grew]
    refine List.Perm.trans ?_ (inTurn.all.append_right _)
    simp only [List.append_assoc, List.singleton_append]
    exact (List.perm_middle.symm).append_left _
  fifo := by
    simp only [Worker.post, List.filterMap_append, inTurn.fifo, begun]
    simp [posted?, began?]
  grown := by
    intro job member above nonempty inside different
    have same : begun (worker.post tree).moments = begun worker.moments := by
      simp [Worker.post, begun, List.filterMap_append, began?]
    rw [same]
    rcases List.mem_append.mp member with member | member
    · exact inTurn.grown job member above nonempty inside different
    · have root : job.1 = [worker.next] := congrArg Prod.fst (List.mem_singleton.mp member)
      rw [root] at inside different
      have short := inside.length_le
      have long : [worker.next].length ≤ above.length := List.length_pos_of_ne_nil nonempty
      exact absurd (inside.eq_of_length_le long) different
  rooted := by
    have same : begun (worker.post tree).moments = begun worker.moments := by
      simp [Worker.post, begun, List.filterMap_append, began?]
    rw [same]
    exact inTurn.rooted
  endsFirst := by
    intro above name below found ended began inside different
    have ended : .ended above name ∈ worker.moments := by simpa [Worker.post] using ended
    have began : .began below found ∈ worker.moments := by simpa [Worker.post] using began
    exact (inTurn.endsFirst above name below found ended began inside different).trans
      (List.sublist_append_left _ _)

/-- No job that waits has begun. -/
theorem not_mem_begun (inTurn : InTurn worker trees) {job : Place × JobTree}
    (member : job ∈ worker.queue) : job.1 ∉ begun worker.moments := by
  have injective : ∀ first second : Moment, ∀ place ∈ posted? first, place ∈ posted? second →
      first = second := by
    intro first second place hfirst hsecond
    cases first <;> cases second <;> simp_all [posted?]
  have once : (worker.moments.filterMap posted?).Nodup := inTurn.once.filterMap injective
  rw [inTurn.fifo] at once
  intro began
  exact (List.nodup_append.mp once).2.2 _ began _ (List.mem_map_of_mem member) rfl

/-- A job that waits is somewhere. -/
theorem place_ne_nil (inTurn : InTurn worker trees) {job : Place × JobTree}
    (member : job ∈ worker.queue) : job.1 ≠ [] := by
  have posted : job.1 ∈ worker.moments.filterMap posted? := by
    rw [inTurn.fifo]
    exact List.mem_append_right _ (List.mem_map_of_mem member)
  rcases List.mem_filterMap.mp posted with ⟨moment, happened, same⟩
  have place : moment.place = job.1 := by
    cases moment <;> simp_all [posted?, Moment.place]
  rw [← place]
  exact place_ne_of_mem_inlineAll (inTurn.all.subset (List.mem_append_left _ happened))

section

variable {job : Place × JobTree} {rest : List (Place × JobTree)}

theorem all_work (inTurn : InTurn worker trees) (first : worker.queue = job :: rest) :
    (worker.moments ++ block job ++ (rest ++ kids job).flatMap ahead).Perm
      (inlineAll [] 0 trees) := by
  have left := inTurn.all
  rw [first, List.flatMap_cons] at left
  refine List.Perm.trans ?_ left
  rw [List.append_assoc, List.flatMap_append]
  refine List.Perm.append_left _ (List.Perm.trans ?_ ((perm_ahead job).symm.append_right _))
  rw [List.append_assoc]
  exact List.perm_append_comm.append_left _

theorem fifo_work (inTurn : InTurn worker trees) (first : worker.queue = job :: rest) :
    (worker.moments ++ block job).filterMap posted? =
      begun (worker.moments ++ block job) ++ (rest ++ kids job).map Prod.fst := by
  have former := inTurn.fifo
  rw [first, List.map_cons] at former
  rw [begun_append_block, List.filterMap_append, former, filterMap_posted?_block]
  simp

theorem grown_work (inTurn : InTurn worker trees) (first : worker.queue = job :: rest)
    {other : Place × JobTree} (member : other ∈ rest ++ kids job) {above : Place}
    (nonempty : above ≠ []) (inside : above <+: other.1) (different : above ≠ other.1) :
    above ∈ begun (worker.moments ++ block job) := by
  have next : job ∈ worker.queue := by simp [first]
  rw [begun_append_block, List.mem_append, List.mem_singleton]
  rcases List.mem_append.mp member with member | member
  · have waits : other ∈ worker.queue := by simp [first, member]
    exact .inl (inTurn.grown other waits above nonempty inside different)
  · rcases exists_of_mem_kids member with ⟨index, kid⟩
    rw [kid] at inside different
    rcases List.prefix_concat_iff.mp inside with same | inside
    · exact absurd same different
    · by_cases own : above = job.1
      · exact .inr own
      · exact .inl (inTurn.grown job next above nonempty inside own)

theorem rooted_work (inTurn : InTurn worker trees) (first : worker.queue = job :: rest)
    {below : Place} (began : below ∈ begun (worker.moments ++ block job)) {above : Place}
    (nonempty : above ≠ []) (inside : above <+: below) :
    above ∈ begun (worker.moments ++ block job) := by
  have next : job ∈ worker.queue := by simp [first]
  rw [begun_append_block, List.mem_append, List.mem_singleton] at began ⊢
  rcases began with began | rfl
  · exact .inl (inTurn.rooted below began above nonempty inside)
  · by_cases own : above = job.1
    · exact .inr own
    · exact .inl (inTurn.grown job next above nonempty inside own)

theorem endsFirst_work (inTurn : InTurn worker trees) (first : worker.queue = job :: rest)
    {above below : Place} {name found : String}
    (ended : .ended above name ∈ worker.moments ++ block job)
    (began : .began below found ∈ worker.moments ++ block job) (inside : above <+: below)
    (different : above ≠ below) :
    Precedes (worker.moments ++ block job) (.ended above name) (.began below found) := by
  have next : job ∈ worker.queue := by simp [first]
  rcases List.mem_append.mp ended with ended | ended
  · rcases List.mem_append.mp began with began | began
    · exact (inTurn.endsFirst above name below found ended began inside different).trans
        (List.sublist_append_left _ _)
    · exact precedes_append ended began
  · -- The job that is run has no job below it that has begun.
    have own := place_of_ended_mem_block ended
    have begin := mem_begun.mpr ⟨found, began⟩
    rw [begun_append_block, List.mem_append, List.mem_singleton] at begin
    rcases begin with before | same
    · rw [own] at inside
      exact absurd (inTurn.rooted below before job.1 (inTurn.place_ne_nil next) inside)
        (inTurn.not_mem_begun next)
    · exact absurd (own.trans same.symm) different

end

theorem work (inTurn : InTurn worker trees) : InTurn worker.work trees := by
  cases first : worker.queue with
  | nil =>
      have idle : worker.work = worker := by simp [Worker.work, first]
      rw [idle]
      exact inTurn
  | cons job rest =>
      have worked : worker.work =
          { worker with queue := rest ++ kids job, moments := worker.moments ++ block job } := by
        simp [Worker.work, first]
      rw [worked]
      exact {
        next := inTurn.next
        all := inTurn.all_work first
        fifo := inTurn.fifo_work first
        grown := fun _ member _ => inTurn.grown_work first member
        rooted := fun _ began _ => inTurn.rooted_work first began
        endsFirst := fun _ _ _ _ => inTurn.endsFirst_work first }

theorem iterate (inTurn : InTurn worker trees) (count : Nat) :
    InTurn (Worker.work^[count] worker) trees := by
  induction count generalizing worker with
  | zero => exact inTurn
  | succ count inductionHypothesis =>
      rw [Function.iterate_succ_apply]
      exact inductionHypothesis inTurn.work

/-- Whatever is done to a queue, it runs its jobs in turn. -/
theorem follow (steps : List JobLog.Step) :
    InTurn (Worker.follow {} steps) (JobLog.postings steps) := by
  induction steps using List.reverseRecOn with
  | nil => exact .opened
  | append_singleton steps step inductionHypothesis =>
      have posted : JobLog.postings (steps ++ [step]) =
          JobLog.postings steps ++ JobLog.postings [step] := List.filterMap_append
      have followed : Worker.follow {} (steps ++ [step]) = (Worker.follow {} steps).after step :=
        List.foldl_append
      rw [posted, followed]
      cases step with
      | post tree => exact inductionHypothesis.post tree
      | work => exact (List.append_nil (JobLog.postings steps)).symm ▸ inductionHypothesis.work
      | pump =>
          exact (List.append_nil (JobLog.postings steps)).symm ▸ inductionHypothesis.iterate _

/-- When no job waits every job has had its moments. -/
theorem complete (inTurn : InTurn worker trees) (idle : worker.queue = []) :
    Complete trees worker.moments := by
  have all := inTurn.all
  rw [idle, List.flatMap_nil, List.append_nil] at all
  exact (complete_inlineAll trees).perm all.symm

end InTurn

/-! ## Generations -/

theorem queue_pump (worker : Worker) : worker.pump.queue = [] := by
  have pumped := congrArg (fun log : JobLog => log.dispatcher.jobs) worker.log_pump
  exact List.map_eq_nil_iff.mp pumped

/-- The jobs so many generations below those of a queue. -/
def generation (depth : Nat) (queue : List (Place × JobTree)) : List (Place × JobTree) :=
  (fun jobs => jobs.flatMap kids)^[depth] queue

/-- A whole generation is run before the next one. -/
theorem iterate_work (first rest : List (Place × JobTree)) (moments : List Moment) (next : Nat) :
    work^[first.length] ⟨first ++ rest, moments, next⟩ =
      ⟨rest ++ first.flatMap kids, moments ++ first.flatMap block, next⟩ := by
  induction first generalizing rest moments with
  | nil => simp
  | cons job others inductionHypothesis =>
      have worked : work ⟨job :: others ++ rest, moments, next⟩ =
          ⟨others ++ (rest ++ kids job), moments ++ block job, next⟩ := by
        simp [work]
      rw [List.length_cons, Function.iterate_succ_apply, worked, inductionHypothesis]
      simp

/-- The load is made up of the first generation and the load that it leaves. -/
theorem sizeAll_eq_length_add (queue : List (Place × JobTree)) :
    sizeAll (queue.map Prod.snd) =
      queue.length + sizeAll ((queue.flatMap kids).map Prod.snd) := by
  induction queue with
  | nil => rfl
  | cons job rest inductionHypothesis =>
      rcases job with ⟨place, ⟨name, children, marked⟩⟩
      rw [List.map_cons, sizeAll, inductionHypothesis, size, List.flatMap_cons, List.map_append,
        sizeAll_append, kids, map_snd_placed, List.length_cons]
      omega

/-- To run a queue until it is empty is to run one generation after the other. -/
theorem moments_pump_of_load_le {bound : Nat} (worker : Worker) (h : worker.load ≤ bound) :
    worker.pump.moments =
      worker.moments ++
        (List.range bound).flatMap fun depth => (generation depth worker.queue).flatMap block := by
  induction bound generalizing worker with
  | zero =>
      have none : worker.load = 0 := Nat.le_zero.mp h
      simp [pump, none]
  | succ bound inductionHypothesis =>
      rcases worker with ⟨queue, moments, next⟩
      let below : Worker := ⟨queue.flatMap kids, moments ++ queue.flatMap block, next⟩
      have loads : Worker.load ⟨queue, moments, next⟩ = below.load + queue.length :=
        (sizeAll_eq_length_add queue).trans (Nat.add_comm _ _)
      have ran : work^[queue.length] ⟨queue, moments, next⟩ = below := by
        have all := iterate_work queue [] moments next
        rwa [List.append_nil, List.nil_append] at all
      have pumped : Worker.pump ⟨queue, moments, next⟩ = below.pump := by
        rw [pump, loads, Function.iterate_add_apply, ran, pump]
      have shallower : below.load ≤ bound := by
        cases hqueue : queue with
        | nil => simp [below, hqueue, load, sizeAll]
        | cons job rest =>
            rw [loads, hqueue, List.length_cons] at h
            omega
      rw [pumped, inductionHypothesis below shallower, List.range_succ_eq_map,
        List.flatMap_cons, List.flatMap_map, List.append_assoc]
      rfl

end Worker

/-! ## The modes compared -/

namespace JobLog

theorem work_of_idle {log : JobLog} (idle : log.dispatcher.jobs = []) : log.work = log := by
  simp [work, Dispatcher.pop?, idle]

theorem pump_of_idle {log : JobLog} (idle : log.dispatcher.jobs = []) : log.pump = log := by
  rw [pump_eq_iterate, idle]
  rfl

/-- A dispatcher that takes no jobs does nothing. -/
theorem follow_of_stopped {log : JobLog} (mode : log.dispatcher.mode = .stopped)
    (idle : log.dispatcher.jobs = []) (steps : List Step) : log.follow steps = log := by
  induction steps with
  | nil => rfl
  | cons step rest inductionHypothesis =>
      have same : log.after step = log := by
        cases step with
        | post tree => simp [after, post, mode]
        | work => exact work_of_idle idle
        | pump => exact pump_of_idle idle
      rw [follow, List.foldl_cons, same]
      exact inductionHypothesis

/-- An immediate dispatcher notes what the posted trees note one after another. -/
theorem follow_of_immediate {log : JobLog} (mode : log.dispatcher.mode = .immediate)
    (idle : log.dispatcher.jobs = []) (steps : List Step) :
    log.follow steps = log.noted (depthFirstAll (postings steps)) := by
  induction steps generalizing log with
  | nil => simp [follow, postings, depthFirstAll, noted]
  | cons step rest inductionHypothesis =>
      cases step with
      | post tree =>
          have followed := @inductionHypothesis (log.noted tree.depthFirst) mode idle
          have split : postings (.post tree :: rest) = tree :: postings rest := rfl
          rw [follow, List.foldl_cons, after, post_of_immediate mode]
          refine followed.trans ?_
          simp [split, depthFirstAll, noted]
      | work =>
          rw [follow, List.foldl_cons, after, work_of_idle idle]
          exact inductionHypothesis mode idle
      | pump =>
          rw [follow, List.foldl_cons, after, pump_of_idle idle]
          exact inductionHypothesis mode idle

/-- A live queue whose jobs have no children. -/
structure Flat (log : JobLog) : Prop where
  mode : log.dispatcher.mode = .queued
  leaves : ∀ tree ∈ log.dispatcher.jobs, tree.IsLeaf

/-- What is noted, and what would be noted if the waiting jobs were run now. -/
def due (log : JobLog) : List String :=
  log.notes ++ depthFirstAll log.dispatcher.jobs

namespace Flat

variable {log : JobLog}

theorem work (flat : log.Flat) : log.work.Flat ∧ log.work.due = log.due := by
  rcases log with ⟨⟨mode, jobs⟩, notes⟩
  rcases jobs with _ | ⟨⟨name, children, marked⟩, rest⟩
  · exact ⟨flat, rfl⟩
  · have none : children = [] := flat.leaves _ (List.mem_cons_self ..)
    subst none
    rw [work_cons, List.append_nil]
    refine ⟨⟨flat.mode, fun tree member => flat.leaves tree (List.mem_cons_of_mem _ member)⟩, ?_⟩
    simp [due, depthFirstAll, depthFirst]

theorem iterate (flat : log.Flat) (count : Nat) :
    (JobLog.work^[count] log).Flat ∧ (JobLog.work^[count] log).due = log.due := by
  induction count generalizing log with
  | zero => exact ⟨flat, rfl⟩
  | succ count inductionHypothesis =>
      rcases flat.work with ⟨still, same⟩
      rw [Function.iterate_succ_apply, ← same]
      exact inductionHypothesis still

theorem pump (flat : log.Flat) : log.pump.Flat ∧ log.pump.due = log.due := by
  rw [pump_eq_iterate]
  exact flat.iterate _

theorem post (flat : log.Flat) {tree : JobTree} (leaf : tree.IsLeaf) :
    (log.post tree).Flat ∧ (log.post tree).due = log.due ++ tree.depthFirst := by
  rw [post_of_queued flat.mode]
  refine ⟨⟨flat.mode, fun other member => ?_⟩, ?_⟩
  · rcases List.mem_append.mp member with member | member
    · exact flat.leaves other member
    · rw [List.mem_singleton.mp member]
      exact leaf
  · simp [due, queued, depthFirstAll_append, depthFirstAll]

theorem follow (flat : log.Flat) {steps : List Step}
    (leaves : ∀ tree ∈ postings steps, tree.IsLeaf) :
    (log.follow steps).Flat ∧
      (log.follow steps).due = log.due ++ depthFirstAll (postings steps) := by
  induction steps generalizing log with
  | nil => exact ⟨flat, by simp [JobLog.follow, postings, depthFirstAll]⟩
  | cons step rest inductionHypothesis =>
      cases step with
      | post tree =>
          have split : postings (.post tree :: rest) = tree :: postings rest := rfl
          rw [split, List.forall_mem_cons] at leaves
          rcases flat.post leaves.1 with ⟨still, grown⟩
          rcases inductionHypothesis still leaves.2 with ⟨after, due⟩
          refine ⟨after, due.trans ?_⟩
          rw [grown, split, depthFirstAll, List.append_assoc]
      | work =>
          rcases flat.work with ⟨still, same⟩
          rw [← same]
          exact inductionHypothesis still leaves
      | pump =>
          rcases flat.pump with ⟨still, same⟩
          rw [← same]
          exact inductionHypothesis still leaves

end Flat

/-! ## The law -/

/-- An immediate dispatcher to which some trees were posted.  It does what a job does when the
job is posted, and has run the trees depth first. -/
structure AtOnce (log : JobLog) (trees : List JobTree) : Prop where
  performs : ∀ tree, log.post tree = log.perform tree
  notes : log.notes = (inlineAll [] 0 trees).filterMap text?
  order : DepthFirst trees (inlineAll [] 0 trees)

/-- A live queue to which some trees were posted.  It runs nothing when another one is posted,
and does what a job does when it comes to the job, which is when it is the job's turn. -/
structure Deferred (log : JobLog) (worker : Worker) (trees : List JobTree) : Prop where
  kept : log = worker.log
  silent : ∀ tree, (log.post tree).notes = log.notes
  performs : log.work = match log.dispatcher.pop? with
    | none => log
    | some (tree, rest) => { log with dispatcher := rest }.perform tree
  inTurn : worker.InTurn trees

/-- A queue that is pumped.  It runs so many jobs that none waits any more, in the order of
posting: all that waited, then their children, and so on. -/
structure Drained (log : JobLog) (worker : Worker) (trees : List JobTree) : Prop where
  worked : log.pump = work^[worker.load] log
  kept : log.pump = worker.pump.log
  empty : worker.pump.queue = []
  inTurn : worker.pump.InTurn trees
  complete : Complete trees worker.pump.moments
  order : worker.pump.moments.filterMap posted? = begun worker.pump.moments
  generations : worker.pump.moments =
    worker.moments ++ (List.range worker.load).flatMap fun depth =>
      (Worker.generation depth worker.queue).flatMap block

theorem atOnce_follow (steps : List Step) :
    ((opened .immediate).follow steps).AtOnce (postings steps) := by
  have followed := @follow_of_immediate (opened .immediate) rfl rfl steps
  refine ⟨fun tree => post_eq_perform ?_ tree, ?_, depthFirst_inlineAll _⟩
  · rw [followed]
    rfl
  · rw [followed, filterMap_text?_inlineAll]
    rfl

theorem deferred_follow (steps : List Step) :
    ((opened .queued).follow steps).Deferred (Worker.follow {} steps) (postings steps) := by
  have kept : (opened .queued).follow steps = (Worker.follow {} steps).log :=
    (Worker.log_follow {} steps).symm
  have live : ((opened .queued).follow steps).dispatcher.mode = .queued := by
    rw [kept]
    rfl
  refine ⟨kept, fun tree => ?_, work_eq_perform live, .follow steps⟩
  rw [post_of_queued live]
  rfl

theorem Deferred.drained {log : JobLog} {worker : Worker} {trees : List JobTree}
    (deferred : log.Deferred worker trees) : log.Drained worker trees := by
  have empty := worker.queue_pump
  have pumped : worker.pump.InTurn trees := deferred.inTurn.iterate worker.load
  have fifo := pumped.fifo
  rw [empty, List.map_nil, List.append_nil] at fifo
  refine ⟨?_, ?_, empty, pumped, pumped.complete empty, fifo,
    worker.moments_pump_of_load_le (Nat.le_refl _)⟩
  · rw [pump_eq_iterate, deferred.kept]
    rfl
  · rw [deferred.kept, Worker.log_pump]

/-- Whatever is posted and whenever the queue is pumped, an immediate dispatcher runs every
posted tree at once and depth first, and a live queue runs its jobs in turn.  Pumping it comes
to an end with every job run.  When a queue takes no jobs nothing happens.  After a last pump
the two have done the same, and if no job has children they have done it in the same order. -/
theorem schedule_of_follow (steps : List Step) :
    let trees := postings steps
    let immediate := (opened .immediate).follow steps
    let queue := (opened .queued).follow steps
    let worker := Worker.follow {} steps
    immediate.AtOnce trees ∧ queue.Deferred worker trees ∧ queue.Drained worker trees ∧
      (∀ log : JobLog, log.dispatcher.mode = .stopped → log.dispatcher.jobs = [] →
        log.follow steps = log) ∧
      worker.pump.moments.Perm (inlineAll [] 0 trees) ∧
      queue.pump.notes.Perm immediate.notes ∧
      ((∀ tree ∈ trees, tree.IsLeaf) → queue.pump.notes = immediate.notes) := by
  intro trees immediate queue worker
  have atOnce : immediate.AtOnce trees := atOnce_follow steps
  have deferred : queue.Deferred worker trees := deferred_follow steps
  have drained := deferred.drained
  have same : worker.pump.moments.Perm (inlineAll [] 0 trees) := by
    have all := drained.inTurn.all
    rwa [drained.empty, List.flatMap_nil, List.append_nil] at all
  refine ⟨atOnce, deferred, drained, fun log mode idle => follow_of_stopped mode idle steps, same,
    ?_, fun leaves => ?_⟩
  · rw [atOnce.notes, drained.kept]
    exact same.filterMap text?
  · have flat : (opened .queued).Flat := ⟨rfl, by simp [opened]⟩
    rcases flat.follow leaves with ⟨stillFlat, due⟩
    have ran : queue.pump.due = (opened .queued).due ++ depthFirstAll trees :=
      stillFlat.pump.2.trans due
    have all : queue.pump.due = queue.pump.notes := List.append_nil _
    rw [atOnce.notes, filterMap_text?_inlineAll, ← all, ran]
    rfl

/-- A job with two children, the first of which has a child, and a job behind it. -/
def family : List Step :=
  [.post (.node "a" [.node "b" [.node "c" [] false] true, .node "d" [] false] true),
    .post (.node "e" [] false)]

example : ((opened .immediate).follow family).notes =
    ["a", "b", "c", "end b", "d", "end a", "e"] := by rfl

example : (Worker.follow {} family).pump.log.notes =
    ["a", "end a", "e", "b", "end b", "d", "c"] := by rfl

end JobLog
end ContentCapture
