import ContentCapture.Text.Diagnostic

namespace ContentCapture

/-!
# Dispatchers

A dispatcher runs jobs one after another.  An immediate one runs a job where it
is posted.  A queue holds it until its worker comes to it, in the order of
posting.  When the worker of a queue has stopped, jobs are no longer taken.

A dispatcher does not know what a job does; who posts a job to one that is
immediate runs it.
-/

/-- How a dispatcher treats a job. -/
inductive Dispatcher.Mode where
  | immediate
  | queued
  | stopped
  deriving DecidableEq, Repr

/-- A dispatcher and the jobs that it holds, the next one first. -/
structure Dispatcher (Job : Type) where
  mode : Dispatcher.Mode
  jobs : List Job := []

namespace Dispatcher

variable {Job : Type}

def diagnostic (dispatcher : Dispatcher Job) : String :=
  match dispatcher.mode with
  | .immediate => Text.tagged "Dispatcher" "immediate"
  | .queued => Text.tagged "Dispatcher" "queue, closed=false"
  | .stopped => Text.tagged "Dispatcher" "queue, closed=true"

/-- The dispatcher with a job at the end of its queue. -/
def push (dispatcher : Dispatcher Job) (job : Job) : Dispatcher Job :=
  { dispatcher with jobs := dispatcher.jobs ++ [job] }

/-- The next job and the dispatcher without it. -/
def pop? (dispatcher : Dispatcher Job) : Option (Job × Dispatcher Job) :=
  match dispatcher.jobs with
  | [] => none
  | job :: rest => some (job, { dispatcher with jobs := rest })

end Dispatcher
end ContentCapture
