/-
# Work

The work of a task is a list of actions.  Sampling work is spread evenly over a number of
rounds, which are made one at a time.
-/
import SessionTasks.Binary64
import SessionTasks.Failure
import SessionTasks.Json
namespace SessionTasks

/-- One action of the work of a task. -/
inductive Action where
  /-- Reports how much is done, in percent, and at what step the work is. -/
  | report (progress : Binary64) (step description : Option String)
  /-- Ends the work, which goes by the name `work`, if its run was cancelled. -/
  | stopIfCancelled (work : String)
  /-- Waits for some nanoseconds. -/
  | pause (nanoseconds : Nat)
  /-- Takes a permit from a gate, and waits until there is one. -/
  | await (gate : String)
  /-- Notes under a label whether the run was cancelled. -/
  | check (label : Json)
  /-- Notes the task as it was given to the work. -/
  | showTask
  /-- Ends the work with a failure. -/
  | fail (kind : FailureKind) (message : String)
  /-- Breaks the work off. -/
  | panic (message : String)

/-- Rounds that are still to be made. -/
structure Rounds where
  /-- The number of the next round. -/
  next : Nat
  /-- The number of the last round. -/
  last : Nat
  /-- The nanoseconds between two rounds. -/
  pause : Nat

/-- The work of a task. -/
structure Work where
  /-- The next actions. -/
  actions : List Action := []
  /-- The rounds after these actions. -/
  rounds : Option Rounds := none

/-- A step of a plan. -/
structure PlannedStep where
  /-- The name of the step. -/
  name : String
  /-- How much is done when the step begins, in percent. -/
  progress : Binary64
  /-- What the step does. -/
  description : String
  deriving DecidableEq

/-- What the work does for a step: it looks whether it was cancelled, reports and pauses. -/
def PlannedStep.actions (s : PlannedStep) (nanoseconds : Nat) : List Action :=
  [.stopIfCancelled "step plan", .report s.progress (some s.name) (some s.description),
    .pause nanoseconds]

/-! ## Sampling -/

namespace Rounds

/-- The percentage that `part` is of `whole`, rounded to a whole number. -/
def percent (part whole : Nat) : Nat := (200 * part + whole) / (2 * whole)

/-- A number as text. -/
def numeral (n : Nat) : String := String.ofList (Text.decimal n)

/-- The actions of the next round. -/
def actions (r : Rounds) : List Action :=
  [.stopIfCancelled "sample task",
    .report (.ofInt (percent r.next r.last)) (some ("Step " ++ numeral (r.next + 1)))
      (some ("Processing iteration " ++ numeral (r.next + 1) ++ " of " ++ numeral r.last))]
    ++ if r.next < r.last then [.pause r.pause] else []

/-- The rounds after the next one. -/
def rest? (r : Rounds) : Option Rounds :=
  if r.next < r.last then some { r with next := r.next + 1 } else none

end Rounds

namespace Work

/-- The next action and the work after it. -/
def next? (w : Work) : Option (Action × Work) :=
  match w.actions with
  | a :: rest => some (a, { w with actions := rest })
  | [] =>
    match w.rounds with
    | none => none
    | some r =>
      match r.actions with
      | a :: rest => some (a, ⟨rest, r.rest?⟩)
      | [] => none

/-- A bound on the number of actions. -/
def size (w : Work) : Nat :=
  w.actions.length + match w.rounds with
    | none => 0
    | some r => 3 * (r.last + 1 - r.next)

/-! ## Kinds of work -/

/-- Evenly spaced steps, at least one, over a number of milliseconds. -/
def sample (steps milliseconds : Nat) : Work :=
  let steps := max steps 1
  { rounds := some ⟨0, steps, milliseconds * 1000000 / steps⟩ }

/-- Ten steps over five seconds. -/
def defaultSample : Work := sample 10 5000

/-- Walks through the steps of a plan.  After each it pauses for some milliseconds, and for some
nanoseconds beyond these. -/
def plan (steps : List PlannedStep) (milliseconds : Nat) (nanoseconds : Nat := 0) : Work where
  actions := steps.flatMap (·.actions (milliseconds * 1000000 + nanoseconds))

/-- Reports some progress, then fails. -/
def failing (progress : Binary64) (message : String) : Work where
  actions := [.report progress (some "Failing") none, .fail .executionFailure message]

end Work

/-! ## Plans -/

namespace PlannedStep

/-- The steps of processing a file. -/
def fileProcessing (path : String) : List PlannedStep := [
  ⟨"Validating file", .ofInt 10, "Checking file format and integrity for " ++ path⟩,
  ⟨"Reading file content", .ofInt 25, "Loading file contents into memory for processing"⟩,
  ⟨"Processing data", .ofInt 50, "Analyzing and transforming file data"⟩,
  ⟨"Transforming content", .ofInt 75, "Converting data to required output format"⟩,
  ⟨"Saving results", .ofInt 90, "Writing processed results to output location"⟩,
  ⟨"Finalizing", .ofInt 100, "Completing cleanup and verification"⟩]

/-- The steps of a call to a remote service. -/
def apiCall (target : String) : List PlannedStep := [
  ⟨"Preparing Request", .ofInt 20, "Building request payload for " ++ target⟩,
  ⟨"Sending Request", .ofInt 40, "Transmitting data to remote API endpoint"⟩,
  ⟨"Processing Response", .ofInt 60, "Receiving and parsing API response"⟩,
  ⟨"Validating Data", .ofInt 80, "Checking response data integrity and format"⟩,
  ⟨"Completed", .ofInt 100, "API call successfully completed"⟩]

end PlannedStep

end SessionTasks
