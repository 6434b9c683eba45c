import ContentCapture.Dispatch.Dispatcher

namespace ContentCapture

/-!
# Jobs that post jobs

A job may post further jobs to the dispatcher that runs it.  Here a job does
nothing but note its name, post its children, and note its end if it is marked,
so that the notes show the order in which a dispatcher runs what it is given.
-/

/-- A job, the jobs that it posts, and whether it notes its end. -/
inductive JobTree where
  | node (name : String) (children : List JobTree) (marked : Bool)

namespace JobTree

/-- What a job notes before and after it has posted its children. -/
def ending (name : String) (marked : Bool) : List String :=
  if marked then ["end " ++ name] else []

mutual
/-- What is noted when each job is run where it is posted. -/
def depthFirst : JobTree → List String
  | .node name children marked => name :: (depthFirstAll children ++ ending name marked)

/-- What is noted when jobs are run one after another where they are posted. -/
def depthFirstAll : List JobTree → List String
  | [] => []
  | tree :: rest => depthFirst tree ++ depthFirstAll rest
end

mutual
def size : JobTree → Nat
  | .node _ children _ => 1 + sizeAll children

def sizeAll : List JobTree → Nat
  | [] => 0
  | tree :: rest => size tree + sizeAll rest
end

theorem sizeAll_append (first second : List JobTree) :
    sizeAll (first ++ second) = sizeAll first + sizeAll second := by
  induction first with
  | nil => simp [sizeAll]
  | cons tree rest inductionHypothesis =>
      simp only [List.cons_append, sizeAll, inductionHypothesis]
      omega

/-- What is noted when a worker runs a queue until it is empty.  Children go to
the end of the queue. -/
def levelOrder : List JobTree → List String
  | [] => []
  | .node name children marked :: rest =>
      name :: (ending name marked ++ levelOrder (rest ++ children))
termination_by queue => sizeAll queue
decreasing_by
  simp only [sizeAll_append, sizeAll, size]
  omega

end JobTree

/-- A dispatcher of job trees together with the notes taken so far. -/
structure JobLog where
  dispatcher : Dispatcher JobTree
  notes : List String := []

namespace JobLog

def post (log : JobLog) (tree : JobTree) : JobLog :=
  match log.dispatcher.mode with
  | .immediate => { log with notes := log.notes ++ tree.depthFirst }
  | .queued => { log with dispatcher := log.dispatcher.push tree }
  | .stopped => log

/-- Runs the next job in the queue. -/
def work (log : JobLog) : JobLog :=
  match log.dispatcher.pop? with
  | none => log
  | some (.node name children marked, dispatcher) =>
      { dispatcher := { dispatcher with jobs := dispatcher.jobs ++ children }
        notes := log.notes ++ name :: JobTree.ending name marked }

/-- Runs the queue until it is empty. -/
def pump (log : JobLog) : JobLog :=
  { dispatcher := { log.dispatcher with jobs := [] }
    notes := log.notes ++ JobTree.levelOrder log.dispatcher.jobs }

end JobLog
end ContentCapture
