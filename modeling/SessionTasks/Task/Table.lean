/-
# The tasks of a session

The tasks of a session are the rows of the table `tasks` that name it as their owner.  A
task of another session is reported exactly like one that does not exist.
-/
import SessionTasks.Task.Request
import SessionTasks.Store
namespace SessionTasks.Store

/-! ## Looking up -/

/-- The task in a row, if the session owns it. -/
def ownTask (session : SessionKey) (id : String) (r : Record) : Except Failure Task :=
  match Task.ofRecord r with
  | .error f => .error f
  | .ok task =>
    if task.sessionKey = session.text then .ok task else .error (.taskNotFound session id)

/-- A task of a session. -/
def task (s : Store) (session : SessionKey) (id : String) : Except Failure Task :=
  match s.find? Task.table id with
  | .error f => .error f
  | .ok none => .error (.taskNotFound session id)
  | .ok (some r) => ownTask session id r

/-- Older tasks come first, and of those created at one time the one with the smaller
identifier. -/
def isOlder (a b : Task) : Bool :=
  a.createdAt < b.createdAt || (a.createdAt = b.createdAt && a.id ≤ b.id)

/-- The tasks in some rows; a row that is not a task is passed over. -/
def tasksOf (rows : List Record) : List Task :=
  (rows.filterMap fun r => (Task.ofRecord r).toOption).mergeSort isOlder

/-- The tasks of a session with some properties, oldest first. -/
def tasks (s : Store) (session : SessionKey) (filter : TaskFilter) : Except Failure (List Task) :=
  tasksOf <$> s.findAll Task.table (filter.toExample session)

/-- How many tasks a session has of each status. -/
def taskStats (s : Store) (session : SessionKey) : Except Failure TaskStats :=
  TaskStats.ofTasks <$> s.tasks session {}

/-! ## Changing -/

/-- Stores a new task under the identifier `id`. -/
def createTask (s : Store) (session : SessionKey) (id : String) (now : Int64) (d : TaskDraft) :
    Except Failure Task × Store :=
  match s.put now id Task.table (d.start id session now).toRecord with
  | (.error f, s) => (.error f, s)
  | (.ok stored, s) => (Task.ofRecord stored, s)

/-- The change to a row that a change to its task makes. -/
def taskChange (session : SessionKey) (id : String) (f : Task → Task) (r : Record) : Change :=
  match ownTask session id r with
  | .ok task => .done (f task).toRecord
  | .error failure => .refused failure

/-- Changes a task of a session. -/
def modifyTask (s : Store) (session : SessionKey) (id : String) (f : Task → Task) :
    Except Failure Task × Store :=
  match s.modify Task.table id (taskChange session id f) with
  | (.stored r, s) => (Task.ofRecord r, s)
  | (.refused failure, s) => (.error failure, s)
  | (.missing, s) | (.broken _, s) => (.error (.taskNotFound session id), s)

/-- Merges a change into a task. -/
def updateTask (s : Store) (session : SessionKey) (id : String) (now : Int64) (u : TaskUpdate) :
    Except Failure Task × Store :=
  s.modifyTask session id fun task => u.apply task now

/-- Cancels a task that is not finished. -/
def cancelTask (s : Store) (session : SessionKey) (id : String) (now : Int64) :
    Except Failure Task × Store :=
  s.modifyTask session id fun task => task.cancel now

/-- Makes a failed or cancelled task pending again. -/
def retryTask (s : Store) (session : SessionKey) (id : String) (now : Int64) :
    Except Failure Task × Store :=
  s.modifyTask session id fun task => task.retry now

/-- Drops a task, and gives it back. -/
def deleteTask (s : Store) (session : SessionKey) (id : String) : Except Failure Task × Store :=
  match s.task session id with
  | .error f => (.error f, s)
  | .ok task =>
    match s.delete Task.table id with
    | (.error f, s) => (.error f, s)
    | (.ok _, s) => (.ok task, s)

/-! ## Retention -/

/-- Of two times, one that is missing comes last, and otherwise the later comes first. -/
def isLater : Option Int64 → Option Int64 → Bool
  | _, none => true
  | none, some _ => false
  | some a, some b => b ≤ a

/-- Completed tasks in the order they are kept. -/
def keptBefore (a b : Task) : Bool :=
  if a.completedAt = b.completedAt then b.updatedAt ≤ a.updatedAt
  else isLater a.completedAt b.completedAt

/-- The tasks beyond the limits, of the given ones. -/
def surplus (limits : RetentionLimits) (tasks : List Task) : List Task :=
  let completed := (tasks.filter (·.status = .completed)).mergeSort keptBefore
  let failed := (tasks.filter (·.status = .failed)).mergeSort fun a b => b.updatedAt ≤ a.updatedAt
  completed.drop limits.maxCompletedTasks.toNat ++ failed.drop limits.maxFailedTasks.toNat

/-- Drops tasks, and counts those that were there. -/
def deleteTasks (s : Store) : List Task → Except Failure Nat × Store
  | [] => (.ok 0, s)
  | task :: rest =>
    match s.delete Task.table task.id with
    | (.error f, s) => (.error f, s)
    | (.ok found, s) =>
      match deleteTasks s rest with
      | (.error f, s) => (.error f, s)
      | (.ok n, s) => (.ok (n + if found.isSome then 1 else 0), s)

/-- Drops the finished tasks of a session beyond the limits, the oldest ones, and counts
them. -/
def trimTasks (s : Store) (session : SessionKey) (limits : RetentionLimits) :
    Except Failure Nat × Store :=
  match s.tasks session {} with
  | .error f => (.error f, s)
  | .ok tasks => s.deleteTasks (surplus limits tasks)

end SessionTasks.Store
