/-
# Requests about tasks

What a caller asks for: a new task, a change to a task, or the tasks with some properties.
-/
import SessionTasks.Task
import SessionTasks.Example
namespace SessionTasks

/-! ## A new task -/

/-- A task to be created. -/
structure TaskDraft where
  /-- The name. -/
  name : String
  /-- What the task is about. -/
  description : Option String := none
  /-- What its owner notes down. -/
  metadata : Option (KeyMap Json) := none
  /-- The user who creates the task. -/
  userId : Option String := none
  /-- The address it is created from. -/
  ipAddress : Option String := none
  deriving DecidableEq

namespace TaskDraft

/-- Reads a draft. -/
def ofJson? (v : Json) : Option TaskDraft := do
  let f ← v.fields? .json ["name", "description", "metadata", "userId", "ipAddress"]
  return {
    name := ← f.required? "name" Json.text?
    description := ← f.optional? "description" Json.text?
    metadata := ← f.optional? "metadata" Json.map?
    userId := ← f.optional? "userId" Json.text?
    ipAddress := ← f.optional? "ipAddress" Json.text? }

/-- The draft as an object. -/
def toJson (d : TaskDraft) : Json :=
  .object [("name", .str d.name), ("description", .ofText? d.description),
    ("metadata", .ofOption Json.ofMap d.metadata), ("userId", .ofText? d.userId),
    ("ipAddress", .ofText? d.ipAddress)]

/-- The task as it is first stored. -/
def start (d : TaskDraft) (id : String) (session : SessionKey) (now : Int64) : Task where
  id := id
  name := d.name
  description := d.description
  status := .pending
  progress := .zero
  currentStep := none
  currentStepDescription := none
  createdAt := now
  updatedAt := now
  startedAt := none
  completedAt := none
  error := none
  metadata := d.metadata
  sessionKey := session.text
  userId := d.userId
  ipAddress := d.ipAddress

end TaskDraft

/-! ## A change -/

/-- A change to a task; what is not given stays as it is. -/
structure TaskUpdate where
  /-- The new status. -/
  status : Option TaskStatus := none
  /-- How much is done, in percent. -/
  progress : Option Binary64 := none
  /-- The name of the step the task is at. -/
  currentStep : Option String := none
  /-- What that step does. -/
  currentStepDescription : Option String := none
  /-- Why the task failed. -/
  error : Option String := none
  /-- Entries to be written over those noted down. -/
  metadata : Option (KeyMap Json) := none
  deriving DecidableEq

namespace TaskUpdate

/-- Reads a change. -/
def ofJson? (v : Json) : Option TaskUpdate := do
  let f ← v.fields? .json
    ["status", "progress", "currentStep", "currentStepDescription", "error", "metadata"]
  return {
    status := ← f.optional? "status" TaskStatus.ofJson?
    progress := ← f.optional? "progress" Json.double?
    currentStep := ← f.optional? "currentStep" Json.text?
    currentStepDescription := ← f.optional? "currentStepDescription" Json.text?
    error := ← f.optional? "error" Json.text?
    metadata := ← f.optional? "metadata" Json.map? }

/-- The change as an object. -/
def toJson (u : TaskUpdate) : Json :=
  .object [("status", .ofOption (fun s => .str s.name) u.status),
    ("progress", .ofOption Json.ofDouble u.progress), ("currentStep", .ofText? u.currentStep),
    ("currentStepDescription", .ofText? u.currentStepDescription), ("error", .ofText? u.error),
    ("metadata", .ofOption Json.ofMap u.metadata)]

/-- Notes the time of the first start and of the first completion. -/
def stampStatus (task : Task) (status : TaskStatus) (now : Int64) : Task :=
  match status with
  | .running => { task with status, startedAt := some (task.startedAt.getD now) }
  | .completed => { task with status, completedAt := some (task.completedAt.getD now) }
  | _ => { task with status }

/-- The task after the change. -/
def apply (u : TaskUpdate) (task : Task) (now : Int64) : Task :=
  let task := match u.status with
    | some status => stampStatus task status now
    | none => task
  { task with
    progress := (u.progress.map Binary64.clampPercent).getD task.progress
    currentStep := u.currentStep.or task.currentStep
    currentStepDescription := u.currentStepDescription.or task.currentStepDescription
    error := u.error.or task.error
    metadata := match u.metadata with
      | some notes => some ((task.metadata.getD .empty).merge notes)
      | none => task.metadata
    updatedAt := now }

end TaskUpdate

namespace Task

/-- Stops a task that is not finished; any other stays as it is. -/
def cancel (task : Task) (now : Int64) : Task :=
  if task.status.isCancellable then { task with status := .cancelled, updatedAt := now }
  else task

/-- Makes a failed or cancelled task pending again; any other stays as it is. -/
def retry (task : Task) (now : Int64) : Task :=
  if task.status.isRetryable then
    { task with
      status := .pending
      progress := .zero
      error := none
      startedAt := none
      completedAt := none
      updatedAt := now }
  else task

end Task

/-! ## A selection -/

/-- Properties that listed tasks must have; what is not given is left open. -/
structure TaskFilter where
  /-- The status. -/
  status : Option TaskStatus := none
  /-- The name. -/
  name : Option String := none
  /-- The user who created the task. -/
  userId : Option String := none
  /-- All that is noted down. -/
  metadata : Option (KeyMap Json) := none
  deriving DecidableEq

namespace TaskFilter

/-- Reads a selection. -/
def ofJson? (v : Json) : Option TaskFilter := do
  let f ← v.fields? .json ["status", "name", "userId", "metadata"]
  return {
    status := ← f.optional? "status" TaskStatus.ofJson?
    name := ← f.optional? "name" Json.text?
    userId := ← f.optional? "userId" Json.text?
    metadata := ← f.optional? "metadata" Json.map? }

/-- The selection as an object. -/
def toJson (f : TaskFilter) : Json :=
  .object [("status", .ofOption (fun s => .str s.name) f.status), ("name", .ofText? f.name),
    ("userId", .ofText? f.userId), ("metadata", .ofOption Json.ofMap f.metadata)]

/-- A rule for a column, if a value is given. -/
def constrain {α : Type} (e : Example) (column : String) (encode : α → Json) :
    Option α → Example
  | none => e
  | some a => e.addValue column (encode a)

/-- The selection among the tasks of one session, as an example. -/
def toExample (f : TaskFilter) (session : SessionKey) : Example :=
  let e := constrain .empty "status" (fun s : TaskStatus => .str s.name) f.status
  let e := constrain e "name" .str f.name
  let e := constrain e "userId" .str f.userId
  let e := constrain e "metadata" Json.ofMap f.metadata
  e.addValue "sessionKey" (.str session.text)

end TaskFilter

/-! ## Limits -/

/-- How many finished tasks a session keeps. -/
structure RetentionLimits where
  /-- How many completed tasks are kept. -/
  maxCompletedTasks : UInt64
  /-- How many failed tasks are kept. -/
  maxFailedTasks : UInt64
  deriving DecidableEq

namespace RetentionLimits

/-- Reads limits. -/
def ofJson? (v : Json) : Option RetentionLimits := do
  let f ← v.fields? .json ["maxCompletedTasks", "maxFailedTasks"]
  return {
    maxCompletedTasks := ← f.required? "maxCompletedTasks" Json.count?
    maxFailedTasks := ← f.required? "maxFailedTasks" Json.count? }

/-- The limits as an object. -/
def toJson (l : RetentionLimits) : Json :=
  .object [("maxCompletedTasks", .ofCount l.maxCompletedTasks),
    ("maxFailedTasks", .ofCount l.maxFailedTasks)]

end RetentionLimits

/-- The limits, and how often they are enforced. -/
structure RetentionOptions where
  /-- How many completed tasks are kept. -/
  maxCompletedTasks : UInt64 := 50
  /-- How many failed tasks are kept. -/
  maxFailedTasks : UInt64 := 20
  /-- The milliseconds between two cycles. -/
  cleanupInterval : UInt64 := 300000
  deriving DecidableEq

namespace RetentionOptions

/-- The limits alone. -/
def limits (o : RetentionOptions) : RetentionLimits := ⟨o.maxCompletedTasks, o.maxFailedTasks⟩

/-- The milliseconds between two cycles; at least one. -/
def period (o : RetentionOptions) : Nat := max o.cleanupInterval.toNat 1

/-- The options as an object. -/
def toJson (o : RetentionOptions) : Json :=
  .object [("maxCompletedTasks", .ofCount o.maxCompletedTasks),
    ("maxFailedTasks", .ofCount o.maxFailedTasks),
    ("cleanupInterval", .ofCount o.cleanupInterval)]

end RetentionOptions

/-- A change to the options; what is not given stays as it is. -/
structure RetentionOptionsUpdate where
  /-- How many completed tasks are kept. -/
  maxCompletedTasks : Option UInt64 := none
  /-- How many failed tasks are kept. -/
  maxFailedTasks : Option UInt64 := none
  /-- The milliseconds between two cycles. -/
  cleanupInterval : Option UInt64 := none
  deriving DecidableEq

namespace RetentionOptionsUpdate

/-- Reads a change. -/
def ofJson? (v : Json) : Option RetentionOptionsUpdate := do
  let f ← v.fields? .json ["maxCompletedTasks", "maxFailedTasks", "cleanupInterval"]
  return {
    maxCompletedTasks := ← f.optional? "maxCompletedTasks" Json.count?
    maxFailedTasks := ← f.optional? "maxFailedTasks" Json.count?
    cleanupInterval := ← f.optional? "cleanupInterval" Json.count? }

/-- The change as an object. -/
def toJson (u : RetentionOptionsUpdate) : Json :=
  .object [("maxCompletedTasks", .ofOption Json.ofCount u.maxCompletedTasks),
    ("maxFailedTasks", .ofOption Json.ofCount u.maxFailedTasks),
    ("cleanupInterval", .ofOption Json.ofCount u.cleanupInterval)]

/-- The options after the change. -/
def apply (u : RetentionOptionsUpdate) (o : RetentionOptions) : RetentionOptions where
  maxCompletedTasks := u.maxCompletedTasks.getD o.maxCompletedTasks
  maxFailedTasks := u.maxFailedTasks.getD o.maxFailedTasks
  cleanupInterval := u.cleanupInterval.getD o.cleanupInterval

end RetentionOptionsUpdate

end SessionTasks
