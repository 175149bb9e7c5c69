/-
# Tasks

A task is a piece of work of one session.  It is stored as a record whose columns are its
fields; fields that are unset have no column.
-/
import SessionTasks.Record
namespace SessionTasks

/-! ## Status -/

/-- How far a task has come. -/
inductive TaskStatus where
  | pending
  | running
  | completed
  | failed
  | cancelled
  deriving DecidableEq

namespace TaskStatus

/-- Every status, in the order of a life. -/
def all : List TaskStatus := [.pending, .running, .completed, .failed, .cancelled]

/-- The name of a status. -/
def name : TaskStatus → String
  | .pending => "pending"
  | .running => "running"
  | .completed => "completed"
  | .failed => "failed"
  | .cancelled => "cancelled"

/-- The status of a name. -/
def ofName? (name : String) : Option TaskStatus := all.find? (·.name = name)

/-- Reads a status. -/
def ofJson? (v : Json) : Option TaskStatus := (v.name? .json).bind ofName?

/-- The task is not finished. -/
def isCancellable : TaskStatus → Bool
  | .pending | .running => true
  | _ => false

/-- The task did not come to a good end. -/
def isRetryable : TaskStatus → Bool
  | .failed | .cancelled => true
  | _ => false

end TaskStatus

/-! ## Tasks -/

/-- A piece of work of a session. -/
structure Task where
  /-- The identifier. -/
  id : String
  /-- The name. -/
  name : String
  /-- What the task is about. -/
  description : Option String
  /-- How far the task has come. -/
  status : TaskStatus
  /-- How much is done, in percent. -/
  progress : Binary64
  /-- The name of the step the task is at. -/
  currentStep : Option String
  /-- What that step does. -/
  currentStepDescription : Option String
  /-- When the task was created. -/
  createdAt : Int64
  /-- When the task last changed. -/
  updatedAt : Int64
  /-- When the task first ran. -/
  startedAt : Option Int64
  /-- When the task was first completed. -/
  completedAt : Option Int64
  /-- Why the task failed. -/
  error : Option String
  /-- What its owner noted down. -/
  metadata : Option (KeyMap Json)
  /-- The session that owns the task. -/
  sessionKey : String
  /-- The user who created the task. -/
  userId : Option String
  /-- The address it was created from. -/
  ipAddress : Option String
  deriving DecidableEq

namespace Task

/-- The table of tasks. -/
def table : String := "tasks"

/-- The names of the fields, in order. -/
def fieldNames : List String :=
  ["id", "name", "description", "status", "progress", "currentStep", "currentStepDescription",
    "createdAt", "updatedAt", "startedAt", "completedAt", "error", "metadata", "sessionKey",
    "userId", "ipAddress"]

/-- The column for a field that may be unset. -/
def column {α : Type} (name : String) (encode : α → Json) (value : Option α) :
    List (String × Json) :=
  (value.map fun v => (name, encode v)).toList

/-- The fields that are set, except the identifier. -/
def columns (t : Task) : List (String × Json) :=
  [("name", .str t.name)] ++ column "description" .str t.description
    ++ [("status", .str t.status.name), ("progress", .ofDouble t.progress)]
    ++ column "currentStep" .str t.currentStep
    ++ column "currentStepDescription" .str t.currentStepDescription
    ++ [("createdAt", .ofStamp t.createdAt), ("updatedAt", .ofStamp t.updatedAt)]
    ++ column "startedAt" Json.ofStamp t.startedAt
    ++ column "completedAt" Json.ofStamp t.completedAt
    ++ column "error" .str t.error ++ column "metadata" Json.ofMap t.metadata
    ++ [("sessionKey", .str t.sessionKey)] ++ column "userId" .str t.userId
    ++ column "ipAddress" .str t.ipAddress

/-- The task as a record. -/
def toRecord (t : Task) : Record := (Record.withId t.id).setAll t.columns

/-- The task as an object. -/
def toJson (t : Task) : Json := t.toRecord.toJson

/-- Reads a task. -/
def ofJson? (v : Json) : Option Task := do
  let f ← v.fields? .json fieldNames
  return {
    id := ← f.required? "id" Json.text?
    name := ← f.required? "name" Json.text?
    description := ← f.optional? "description" Json.text?
    status := ← f.required? "status" TaskStatus.ofJson?
    progress := ← f.required? "progress" Json.double?
    currentStep := ← f.optional? "currentStep" Json.text?
    currentStepDescription := ← f.optional? "currentStepDescription" Json.text?
    createdAt := ← f.required? "createdAt" Json.stamp?
    updatedAt := ← f.required? "updatedAt" Json.stamp?
    startedAt := ← f.optional? "startedAt" Json.stamp?
    completedAt := ← f.optional? "completedAt" Json.stamp?
    error := ← f.optional? "error" Json.text?
    metadata := ← f.optional? "metadata" Json.map?
    sessionKey := ← f.required? "sessionKey" Json.text?
    userId := ← f.optional? "userId" Json.text?
    ipAddress := ← f.optional? "ipAddress" Json.text? }

/-- The task that a record holds. -/
def ofRecord (r : Record) : Except Failure Task :=
  match ofJson? r.toJson with
  | some t => .ok t
  | none => .error (.notATask r.id)

end Task

/-! ## Counts -/

/-- How many tasks there are of each status. -/
structure TaskStats where
  total : UInt64 := 0
  pending : UInt64 := 0
  running : UInt64 := 0
  completed : UInt64 := 0
  failed : UInt64 := 0
  cancelled : UInt64 := 0
  deriving DecidableEq

namespace TaskStats

/-- The count of one status. -/
def count (s : TaskStats) : TaskStatus → UInt64
  | .pending => s.pending
  | .running => s.running
  | .completed => s.completed
  | .failed => s.failed
  | .cancelled => s.cancelled

/-- Counts one more task. -/
def add (s : TaskStats) (status : TaskStatus) : TaskStats :=
  let s := { s with total := s.total + 1 }
  match status with
  | .pending => { s with pending := s.pending + 1 }
  | .running => { s with running := s.running + 1 }
  | .completed => { s with completed := s.completed + 1 }
  | .failed => { s with failed := s.failed + 1 }
  | .cancelled => { s with cancelled := s.cancelled + 1 }

/-- The counts of a list of tasks. -/
def ofTasks (tasks : List Task) : TaskStats := tasks.foldl (fun s t => s.add t.status) {}

/-- The counts as an object. -/
def toJson (s : TaskStats) : Json :=
  .object [("total", .ofCount s.total), ("pending", .ofCount s.pending),
    ("running", .ofCount s.running), ("completed", .ofCount s.completed),
    ("failed", .ofCount s.failed), ("cancelled", .ofCount s.cancelled)]

/-- Reads counts. -/
def ofJson? (v : Json) : Option TaskStats := do
  let f ← v.fields? .json ["total", "pending", "running", "completed", "failed", "cancelled"]
  return {
    total := ← f.required? "total" Json.count?
    pending := ← f.required? "pending" Json.count?
    running := ← f.required? "running" Json.count?
    completed := ← f.required? "completed" Json.count?
    failed := ← f.required? "failed" Json.count?
    cancelled := ← f.required? "cancelled" Json.count? }

end TaskStats

end SessionTasks
