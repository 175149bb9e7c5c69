/-
# Runs of tasks

A run holds its task from the moment it is accepted until it has ended, is cancelled or is
given up, so that a task has one run at a time.  What a run writes once it was cancelled is
dropped.
-/
import SessionTasks.Server
namespace SessionTasks

namespace RunLedger

/-- The run that holds a task. -/
def holder? (l : RunLedger) (key : TaskKey) : Option RunId := l.holders.lookup key

/-- The run was cancelled. -/
def isCancelled (l : RunLedger) (run : RunId) : Bool := l.cancelled.contains run

/-- Lets go of a task. -/
def drop (l : RunLedger) (key : TaskKey) : RunLedger :=
  { l with holders := l.holders.filter fun e => e.1 ≠ key }

/-- Lets go of a task if the run holds it. -/
def release (l : RunLedger) (key : TaskKey) (run : RunId) : RunLedger :=
  if l.holder? key = some run then l.drop key else l

/-- Keys of tasks in the order of their sessions, and of one session in the order of their
identifiers. -/
def isBefore (a b : TaskKey) : Bool :=
  a.session.text < b.session.text || (a.session = b.session && a.task ≤ b.task)

/-- The tasks that are held, in order. -/
def keys (l : RunLedger) : List TaskKey := (l.holders.map Prod.fst).mergeSort isBefore

end RunLedger

namespace Server

/-! ## The life of a run -/

/-- Lets a run hold its task; `none` if another run holds it. -/
def accept? (s : Server) (key : TaskKey) (run : RunId) : Option Server :=
  match s.ledger.holder? key with
  | some _ => none
  | none => some { s with ledger := { s.ledger with holders := (key, run) :: s.ledger.holders } }

/-- What a run writes when it starts. -/
def startUpdate : TaskUpdate := { status := some .running, progress := some .zero }

/-- Starts a run, and gives back its task; `none` if it was cancelled before. -/
def begin (s : Server) (key : TaskKey) (run : RunId) : Except Failure (Option Task) × Server :=
  if s.ledger.isCancelled run then (.ok none, s)
  else
    let (result, s) := s.writeUpdate key startUpdate
    (result.map some, s)

/-- Writes what a run reports about its task. -/
def report (s : Server) (key : TaskKey) (run : RunId) (progress : Binary64)
    (step description : Option String) : Server :=
  if s.ledger.isCancelled run then s
  else
    (s.writeUpdate key {
      progress := some progress
      currentStep := step
      currentStepDescription := description }).2

/-- What a run writes when it ends. -/
def endUpdate : Except Failure Unit → TaskUpdate
  | .ok () => { status := some .completed, progress := some .hundred }
  | .error f => { status := some .failed, error := some f.message }

/-- Ends a run: it lets go of its task, and unless it was cancelled writes what came of
it. -/
def finish (s : Server) (key : TaskKey) (run : RunId) (outcome : Except Failure Unit) : Server :=
  let s := { s with ledger := s.ledger.release key run }
  if s.ledger.isCancelled run then s else (s.writeUpdate key (endUpdate outcome)).2

/-- Gives a run up: it lets go of its task. -/
def giveUp (s : Server) (key : TaskKey) (run : RunId) : Server :=
  { s with ledger := s.ledger.release key run }

/-! ## Cancelling -/

/-- The run lets go of the task and counts as cancelled from now on. -/
def markCancelled (s : Server) (key : TaskKey) (run : RunId) : Server :=
  { s with ledger := { s.ledger.drop key with cancelled := run :: s.ledger.cancelled } }

/-- Cancels the run that holds a task; tells whether there was one. -/
def cancelRun (s : Server) (key : TaskKey) : Bool × Server :=
  match s.ledger.holder? key with
  | none => (false, s)
  | some run =>
    (true, ((s.markCancelled key run).writeUpdate key { status := some .cancelled }).2)

/-- Cancels the runs that hold some tasks, and counts them. -/
def cancelRuns (s : Server) : List TaskKey → Nat × Server
  | [] => (0, s)
  | key :: rest =>
    let (found, s) := s.cancelRun key
    let (n, s) := cancelRuns s rest
    (n + if found then 1 else 0, s)

/-- Cancels every run, and counts them. -/
def cancelAll (s : Server) : Nat × Server := s.cancelRuns s.ledger.keys

end Server

end SessionTasks
