/-
# Tasks of other sessions

A session sees the rows of the task table but those that hold a task of another session, which
are foreign to it.  What is asked for a session is answered from the rows that it sees, and
changes only these: a foreign task is treated like one that does not exist.

* `Store.same_request` : two stores that a session cannot tell apart answer it alike, keep
  their foreign rows, and still cannot be told apart.
-/
import SessionTasks.Proofs.Store.Calls
import SessionTasks.Proofs.Task.RoundTrip
import SessionTasks.Task.Table
namespace SessionTasks

/-! ## Foreign rows -/

namespace Record

/-- The row holds a task of another session. -/
def isForeign (session : SessionKey) (r : Record) : Bool :=
  match Task.ofRecord r with
  | .ok t => t.sessionKey ≠ session.text
  | .error _ => false

variable {session : SessionKey} {r : Record}

/-- A row is foreign when it can be read as a task of another session. -/
theorem isForeign_eq_true_iff :
    r.isForeign session = true ↔
      ∃ t, Task.ofRecord r = .ok t ∧ t.sessionKey ≠ session.text := by
  unfold isForeign
  split
  · rename_i t ht
    rw [decide_eq_true_eq, ht]
    constructor
    · exact fun h => ⟨t, rfl, h⟩
    · rintro ⟨t', ht', h⟩
      cases ht'
      exact h
  · rename_i f hf
    rw [hf]
    constructor
    · intro h
      cases h
    · rintro ⟨t, ht, -⟩
      cases ht

/-- A row that names a session as the owner of its task is not foreign to it. -/
theorem isForeign_of_sessionKey (h : r.fields.get? "sessionKey" = some (.str session.text)) :
    r.isForeign session = false := by
  rw [Bool.eq_false_iff, Ne, isForeign_eq_true_iff]
  rintro ⟨t, ht, hne⟩
  rw [Task.sessionKey_of_ofRecord ht, Option.some.injEq, Json.str.injEq] at h
  exact hne h

end Record

namespace Store

variable {session : SessionKey}

/-- The task in a foreign row is reported like one that does not exist. -/
theorem ownTask_of_isForeign {r : Record} (h : r.isForeign session = true) (id : String) :
    ownTask session id r = .error (.taskNotFound session id) := by
  obtain ⟨t, ht, hne⟩ := Record.isForeign_eq_true_iff.1 h
  unfold ownTask
  rw [ht]
  exact if_neg hne

/-- A task that is given to a session is read from its row and is its own. -/
theorem ownTask_eq_ok {r : Record} {id : String} {t : Task} (h : ownTask session id r = .ok t) :
    Task.ofRecord r = .ok t ∧ t.sessionKey = session.text := by
  unfold ownTask at h
  split at h
  · cases h
  · rename_i t' ht
    split at h
    · rename_i hkey
      cases h
      exact ⟨ht, hkey⟩
    · cases h

/-- The selection of the tasks of a session selects no foreign row. -/
theorem not_matches_of_isForeign {r : Record} (h : r.isForeign session = true)
    (filter : TaskFilter) : (filter.toExample session).Matches r = false := by
  obtain ⟨t, ht, hne⟩ := Record.isForeign_eq_true_iff.1 h
  have hcolumn : r.field? "sessionKey" = some (.str t.sessionKey) := Task.sessionKey_of_ofRecord ht
  have hrule : FieldRule.holds (.equals (.str session.text)) (r.field? "sessionKey") = false := by
    rw [hcolumn]
    exact decide_eq_false hne.symm
  -- the rule for the owner is one of the rules of the selection
  unfold Example.Matches
  rw [List.all_eq_false]
  refine ⟨("sessionKey", .equals (.str session.text)), ?_, by rw [hrule]; exact Bool.false_ne_true⟩
  unfold TaskFilter.toExample
  exact List.mem_append_right _ List.mem_cons_self

/-! ## What a session sees -/

/-- The rows of the task table. -/
def taskRows (s : Store) : Rows := s.tables.rows Task.table

/-- The rows of the task table that a session sees. -/
def ownRows (session : SessionKey) (s : Store) : Rows :=
  s.taskRows.keep fun r => !r.isForeign session

/-- The rows of the task table that are foreign to a session. -/
def foreignRows (session : SessionKey) (s : Store) : Rows :=
  s.taskRows.keep fun r => r.isForeign session

/-- The session cannot tell the stores apart: they differ in foreign rows only. -/
structure Alike (session : SessionKey) (s s' : Store) : Prop where
  poisoned : s'.poisoned = s.poisoned
  tables : ∀ name, name ≠ Task.table → s'.tables.get? name = s.tables.get? name
  rows : s'.ownRows session = s.ownRows session

variable {s s' : Store} {id : String}

/-- Every row is foreign or seen. -/
theorem get?_taskRows (session : SessionKey) (s : Store) (id : String) :
    s.taskRows.get? id =
      ((s.ownRows session).get? id).or ((s.foreignRows session).get? id) := by
  unfold ownRows foreignRows
  rw [KeyMap.get?_keep, KeyMap.get?_keep]
  cases s.taskRows.get? id with
  | none => rfl
  | some r => cases h : r.isForeign session <;> simp [Option.filter, h]

/-- A row that is seen is not foreign. -/
theorem foreignRows_of_ownRows {r : Record} (h : (s.ownRows session).get? id = some r) :
    (s.foreignRows session).get? id = none := by
  unfold ownRows at h
  unfold foreignRows
  rw [KeyMap.get?_keep, Option.filter_eq_some_iff] at h
  rw [KeyMap.get?_keep, h.1]
  simp [Option.filter, (by simpa using h.2 : r.isForeign session = false)]

/-- A row among the foreign ones is foreign. -/
theorem isForeign_of_foreignRows {r : Record} (h : (s.foreignRows session).get? id = some r) :
    r.isForeign session = true := by
  unfold foreignRows at h
  rw [KeyMap.get?_keep, Option.filter_eq_some_iff] at h
  exact h.2

/-! ## Writing one row -/

/-- The store with a row in its task table. -/
def setRow (s : Store) (id : String) (r : Record) : Store :=
  { s with tables := KeyMap.insert s.tables Task.table (s.taskRows.insert id r) }

/-- The store without a row of its task table. -/
def dropRow (s : Store) (id : String) : Store :=
  { s with tables := s.tables.drop Task.table id }

@[simp] theorem taskRows_setRow (s : Store) (id : String) (r : Record) :
    (s.setRow id r).taskRows = s.taskRows.insert id r := by
  unfold taskRows setRow Tables.rows
  dsimp only
  rw [KeyMap.get?_insert, if_pos rfl]
  rfl

@[simp] theorem taskRows_dropRow (s : Store) (id : String) :
    (s.dropRow id).taskRows = s.taskRows.erase id := by
  unfold taskRows dropRow Tables.rows Tables.drop
  dsimp only
  split
  · rename_i rows hrows
    rw [KeyMap.get?_insert, if_pos rfl, hrows]
    rfl
  · rename_i hnone
    rw [hnone]
    rfl

/-- Setting a row of the task table leaves the other tables. -/
theorem get?_setRow_of_ne (s : Store) (r : Record) {name : String} (h : name ≠ Task.table) :
    (s.setRow id r).tables.get? name = s.tables.get? name := by
  unfold setRow
  dsimp only
  rw [KeyMap.get?_insert, if_neg h.symm]

theorem get?_dropRow_of_ne (s : Store) {name : String} (h : name ≠ Task.table) :
    (s.dropRow id).tables.get? name = s.tables.get? name := by
  unfold dropRow Tables.drop
  dsimp only
  split
  · rw [KeyMap.get?_insert, if_neg h.symm]
  · rfl

/-- A row that a session may see takes the place of one that is not foreign. -/
theorem foreignRows_setRow {r : Record} (hid : (s.foreignRows session).get? id = none)
    (hr : r.isForeign session = false) :
    (s.setRow id r).foreignRows session = s.foreignRows session := by
  unfold foreignRows at hid ⊢
  rw [taskRows_setRow, KeyMap.keep_insert_of_neg _ _ hr]
  exact KeyMap.erase_of_get?_eq_none hid

/-- Dropping a row that is not foreign leaves the foreign ones. -/
theorem foreignRows_dropRow (hid : (s.foreignRows session).get? id = none) :
    (s.dropRow id).foreignRows session = s.foreignRows session := by
  unfold foreignRows at hid ⊢
  rw [taskRows_dropRow, KeyMap.keep_erase]
  exact KeyMap.erase_of_get?_eq_none hid

/-- The session gets the same row in both stores. -/
theorem Alike.setRow (h : Alike session s s') (id : String) {r : Record}
    (hr : r.isForeign session = false) : Alike session (s.setRow id r) (s'.setRow id r) where
  poisoned := h.poisoned
  tables := by
    intro name hname
    rw [get?_setRow_of_ne s r hname, get?_setRow_of_ne s' r hname, h.tables name hname]
  rows := by
    have hrows := h.rows
    unfold ownRows at hrows ⊢
    have hinsert : ∀ rows : Rows, (rows.insert id r).keep (fun r => !r.isForeign session) =
        (rows.keep fun r => !r.isForeign session).insert id r := by
      intro rows
      refine KeyMap.keep_insert_of_pos rows id ?_
      rw [hr]
      rfl
    rw [taskRows_setRow, taskRows_setRow, hinsert, hinsert, hrows]

theorem Alike.dropRow (h : Alike session s s') (id : String) :
    Alike session (s.dropRow id) (s'.dropRow id) where
  poisoned := h.poisoned
  tables := by
    intro name hname
    rw [get?_dropRow_of_ne s hname, get?_dropRow_of_ne s' hname, h.tables name hname]
  rows := by
    have hrows := h.rows
    unfold ownRows at hrows ⊢
    rw [taskRows_dropRow, taskRows_dropRow, KeyMap.keep_erase, KeyMap.keep_erase, hrows]

/-! ## Answers from what is seen -/

/-- A task is answered from the rows that the session sees. -/
theorem task_eq (s : Store) (session : SessionKey) (id : String) :
    s.task session id =
      if s.poisoned then .error .storePoisoned
      else match (s.ownRows session).get? id with
        | none => .error (.taskNotFound session id)
        | some r => ownTask session id r := by
  have hread : (fun tables : Tables => tables.find? Task.table id) <$>
      (Except.ok s.tables : Except Failure Tables) =
        .ok (((s.ownRows session).get? id).or ((s.foreignRows session).get? id)) :=
    congrArg Except.ok (s.get?_taskRows session id)
  unfold task find? access
  by_cases hp : s.poisoned = true
  · rw [if_pos hp, if_pos hp]
    rfl
  · rw [if_neg hp, if_neg hp, hread]
    cases (s.ownRows session).get? id with
    | some r => rfl
    | none =>
      cases hforeign : (s.foreignRows session).get? id with
      | none => rfl
      | some r => exact ownTask_of_isForeign (isForeign_of_foreignRows hforeign) id

/-- The tasks are listed from the rows that the session sees. -/
theorem tasks_eq (s : Store) (session : SessionKey) (filter : TaskFilter) :
    s.tasks session filter =
      if s.poisoned then .error .storePoisoned
      else .ok (tasksOf ((s.ownRows session).values.filter
        (filter.toExample session).Matches)) := by
  have hseen : s.taskRows.values.filter (filter.toExample session).Matches =
      (s.ownRows session).values.filter (filter.toExample session).Matches := by
    unfold ownRows
    rw [KeyMap.values_keep, List.filter_filter]
    refine List.filter_congr fun r _ => ?_
    cases hr : r.isForeign session with
    | false => simp
    | true => rw [not_matches_of_isForeign hr filter]; rfl
  unfold tasks findAll all access
  rw [← hseen]
  split <;> rfl

/-- A task is changed by what the session sees of its row. -/
theorem modifyTask_eq (s : Store) (session : SessionKey) (id : String) (f : Task → Task) :
    s.modifyTask session id f =
      if s.poisoned then (.error .storePoisoned, s)
      else match (s.ownRows session).get? id with
        | none => (.error (.taskNotFound session id), s)
        | some r =>
          match ownTask session id r with
          | .error failure => (.error failure, s)
          | .ok task =>
            (Task.ofRecord (keptRow r (f task).toRecord),
              s.setRow id (keptRow r (f task).toRecord)) := by
  have hrow : s.tables.find? Task.table id =
      ((s.ownRows session).get? id).or ((s.foreignRows session).get? id) :=
    s.get?_taskRows session id
  unfold modifyTask modify access
  by_cases hp : s.poisoned = true
  · rw [if_pos hp, if_pos hp]
  · rw [if_neg hp, if_neg hp]
    dsimp only
    rw [hrow]
    cases (s.ownRows session).get? id with
    | some r =>
      dsimp only [Option.some_or, taskChange]
      cases ownTask session id r with
      | error failure => rfl
      | ok task => rfl
    | none =>
      cases hforeign : (s.foreignRows session).get? id with
      | none => rfl
      | some r =>
        dsimp only [Option.none_or, taskChange]
        rw [ownTask_of_isForeign (isForeign_of_foreignRows hforeign) id]

/-- A task that is created under an identifier that no row of the task table has. -/
theorem createTask_eq {s : Store} {fresh : String} (hfresh : s.taskRows.get? fresh = none)
    (session : SessionKey) (now : Int64) (d : TaskDraft) :
    s.createTask session fresh now d =
      if s.poisoned then (.error .storePoisoned, s)
      else
        (Task.ofRecord (stamped none now fresh (d.start fresh session now).toRecord),
          s.setRow fresh (stamped none now fresh (d.start fresh session now).toRecord)) := by
  have hid : (d.start fresh session now).toRecord.id = fresh := Task.id_toRecord _
  have hnone : s.tables.find? Task.table fresh = none := hfresh
  have hstamped : (stamped none now fresh (d.start fresh session now).toRecord).id = fresh := by
    unfold stamped
    split
    · rfl
    · exact hid
  unfold createTask put access
  by_cases hp : s.poisoned = true
  · rw [if_pos hp, if_pos hp]
  · rw [if_neg hp, if_neg hp]
    dsimp only
    rw [hid, hnone]
    unfold Tables.write setRow
    rw [hstamped]
    rfl

/-- A row of the task table is dropped, or the store is poisoned. -/
theorem delete_eq (s : Store) (id : String) :
    s.delete Task.table id =
      if s.poisoned then (.error .storePoisoned, s) else (.ok (s.taskRows.get? id), s.dropRow id) := by
  unfold delete access
  by_cases hp : s.poisoned = true
  · rw [if_pos hp, if_pos hp]
  · rw [if_neg hp, if_neg hp]
    rfl

/-- A task is dropped by what the session sees of its row. -/
theorem deleteTask_eq (s : Store) (session : SessionKey) (id : String) :
    s.deleteTask session id =
      if s.poisoned then (.error .storePoisoned, s)
      else match (s.ownRows session).get? id with
        | none => (.error (.taskNotFound session id), s)
        | some r =>
          match ownTask session id r with
          | .error failure => (.error failure, s)
          | .ok task => (.ok task, s.dropRow id) := by
  unfold deleteTask
  rw [task_eq, delete_eq]
  by_cases hp : s.poisoned = true
  · rw [if_pos hp, if_pos hp, if_pos hp]
  · rw [if_neg hp, if_neg hp, if_neg hp]
    cases (s.ownRows session).get? id with
    | none => rfl
    | some r => cases ownTask session id r <;> rfl

end Store

/-! ## Requests -/

/-- What may be asked about the tasks of a session. -/
inductive TaskRequest where
  /-- A new task under an identifier. -/
  | create (id : String) (d : TaskDraft)
  /-- A task. -/
  | get (id : String)
  /-- The tasks with some properties. -/
  | list (filter : TaskFilter)
  /-- A change to a task. -/
  | update (id : String) (u : TaskUpdate)
  /-- The end of a task that is not finished. -/
  | cancel (id : String)
  /-- Another go at a failed or cancelled task. -/
  | retry (id : String)
  /-- A task is to be dropped. -/
  | delete (id : String)
  /-- The counts of tasks. -/
  | stats
  /-- The finished tasks beyond the limits are to be dropped. -/
  | trim (limits : RetentionLimits)

/-- The answer to a request. -/
inductive TaskAnswer where
  /-- One task. -/
  | task (result : Except Failure Task)
  /-- Some tasks. -/
  | tasks (result : Except Failure (List Task))
  /-- Counts. -/
  | stats (result : Except Failure TaskStats)
  /-- How many tasks were dropped. -/
  | dropped (result : Except Failure Nat)

/-- A new task gets an identifier that no row of the task table has. -/
def TaskRequest.IsFresh (s : Store) : TaskRequest → Prop
  | .create id _ => s.taskRows.get? id = none
  | _ => True

namespace Store

/-- Answers a request for a session. -/
def request (s : Store) (session : SessionKey) (now : Int64) : TaskRequest → TaskAnswer × Store
  | .create id d => (s.createTask session id now d).map .task fun s => s
  | .get id => (.task (s.task session id), s)
  | .list filter => (.tasks (s.tasks session filter), s)
  | .update id u => (s.updateTask session id now u).map .task fun s => s
  | .cancel id => (s.cancelTask session id now).map .task fun s => s
  | .retry id => (s.retryTask session id now).map .task fun s => s
  | .delete id => (s.deleteTask session id).map .task fun s => s
  | .stats => (.stats (s.taskStats session), s)
  | .trim limits => (s.trimTasks session limits).map .dropped fun s => s

variable {session : SessionKey} {s s' : Store} {id : String} {α β : Type}

/-- Two stores give the session the same answer, keep the rows that are foreign to it, and it
still cannot tell them apart. -/
structure SameFor (session : SessionKey) (s s' : Store) (x x' : α × Store) : Prop where
  answer : x'.1 = x.1
  foreign : x.2.foreignRows session = s.foreignRows session
  foreign' : x'.2.foreignRows session = s'.foreignRows session
  alike : Alike session x.2 x'.2

/-- The answers may be put in another form. -/
theorem SameFor.map {x x' : α × Store} (h : SameFor session s s' x x') (f : α → β) :
    SameFor session s s' (x.map f fun s => s) (x'.map f fun s => s) :=
  ⟨congrArg f h.answer, h.foreign, h.foreign', h.alike⟩

/-- Nothing is written. -/
theorem Alike.same (h : Alike session s s') (a : α) : SameFor session s s' (a, s) (a, s') :=
  ⟨rfl, rfl, rfl, h⟩

/-- The session is told the same task by both stores. -/
theorem Alike.task_eq (h : Alike session s s') (id : String) :
    s'.task session id = s.task session id := by
  rw [Store.task_eq, Store.task_eq, h.poisoned, h.rows]

/-- The session is told the same tasks by both stores. -/
theorem Alike.tasks_eq (h : Alike session s s') (filter : TaskFilter) :
    s'.tasks session filter = s.tasks session filter := by
  rw [Store.tasks_eq, Store.tasks_eq, h.poisoned, h.rows]

/-- A change that leaves a task to its owner. -/
theorem Alike.modifyTask (h : Alike session s s') (id : String) {f : Task → Task}
    (hf : ∀ t, (f t).sessionKey = t.sessionKey) :
    SameFor session s s' (s.modifyTask session id f) (s'.modifyTask session id f) := by
  rw [modifyTask_eq, modifyTask_eq, h.poisoned, h.rows]
  split
  · exact h.same _
  · cases hrow : (s.ownRows session).get? id with
    | none => exact h.same _
    | some r =>
      have hrow' : (s'.ownRows session).get? id = some r := by rw [h.rows, hrow]
      dsimp only
      cases htask : ownTask session id r with
      | error failure => exact h.same _
      | ok task =>
        have hown : (keptRow r (f task).toRecord).isForeign session = false := by
          apply Record.isForeign_of_sessionKey
          show (f task).toRecord.fields.get? "sessionKey" = _
          rw [Task.sessionKey_toRecord, hf, (ownTask_eq_ok htask).2]
        exact ⟨rfl, foreignRows_setRow (foreignRows_of_ownRows hrow) hown,
          foreignRows_setRow (foreignRows_of_ownRows hrow') hown, h.setRow id hown⟩

/-- A task with a new identifier is made alike in both stores. -/
theorem Alike.createTask (h : Alike session s s') {fresh : String}
    (hfresh : s.taskRows.get? fresh = none) (hfresh' : s'.taskRows.get? fresh = none)
    (now : Int64) (d : TaskDraft) :
    SameFor session s s' (s.createTask session fresh now d) (s'.createTask session fresh now d) := by
  rw [createTask_eq hfresh, createTask_eq hfresh', h.poisoned]
  split
  · exact h.same _
  · have hforeign : ∀ {s : Store}, s.taskRows.get? fresh = none →
        (s.foreignRows session).get? fresh = none := by
      intro s hs
      unfold foreignRows
      rw [KeyMap.get?_keep, hs]
      rfl
    have hown : (stamped none now fresh (d.start fresh session now).toRecord).isForeign session
        = false := by
      apply Record.isForeign_of_sessionKey
      have hcolumn := Task.sessionKey_toRecord (d.start fresh session now)
      unfold stamped
      split <;> exact hcolumn
    exact ⟨rfl, foreignRows_setRow (hforeign hfresh) hown,
      foreignRows_setRow (hforeign hfresh') hown, h.setRow fresh hown⟩

/-- A task is dropped alike from both stores. -/
theorem Alike.deleteTask (h : Alike session s s') (id : String) :
    SameFor session s s' (s.deleteTask session id) (s'.deleteTask session id) := by
  rw [deleteTask_eq, deleteTask_eq, h.poisoned, h.rows]
  split
  · exact h.same _
  · cases hrow : (s.ownRows session).get? id with
    | none => exact h.same _
    | some r =>
      have hrow' : (s'.ownRows session).get? id = some r := by rw [h.rows, hrow]
      dsimp only
      cases ownTask session id r with
      | error failure => exact h.same _
      | ok task =>
        exact ⟨rfl, foreignRows_dropRow (foreignRows_of_ownRows hrow),
          foreignRows_dropRow (foreignRows_of_ownRows hrow'), h.dropRow id⟩

/-- Tasks are dropped whose identifiers are those of no foreign rows. -/
theorem Alike.deleteTasks (h : Alike session s s') {tasks : List Task}
    (hs : ∀ t ∈ tasks, (s.foreignRows session).get? t.id = none)
    (hs' : ∀ t ∈ tasks, (s'.foreignRows session).get? t.id = none) :
    SameFor session s s' (s.deleteTasks tasks) (s'.deleteTasks tasks) := by
  induction tasks generalizing s s' with
  | nil => exact h.same _
  | cons t rest ih =>
    have ht := hs t List.mem_cons_self
    have ht' := hs' t List.mem_cons_self
    unfold Store.deleteTasks
    rw [delete_eq, delete_eq, h.poisoned]
    by_cases hp : s.poisoned = true
    · rw [if_pos hp, if_pos hp]
      exact h.same _
    · rw [if_neg hp, if_neg hp, get?_taskRows session, get?_taskRows session, h.rows, ht, ht']
      -- the row that is dropped is foreign in neither store, and those that are stay
      have hdrop := foreignRows_dropRow ht
      have hdrop' := foreignRows_dropRow ht'
      have hrest : SameFor session (s.dropRow t.id) (s'.dropRow t.id)
          ((s.dropRow t.id).deleteTasks rest) ((s'.dropRow t.id).deleteTasks rest) := by
        refine ih (h.dropRow t.id) (fun u hu => ?_) fun u hu => ?_
        · rw [hdrop]
          exact hs u (List.mem_cons_of_mem t hu)
        · rw [hdrop']
          exact hs' u (List.mem_cons_of_mem t hu)
      obtain ⟨hanswer, hforeign, hforeign', halike⟩ := hrest
      rw [hdrop] at hforeign
      rw [hdrop'] at hforeign'
      dsimp only
      generalize (s.dropRow t.id).deleteTasks rest = x at hanswer hforeign halike ⊢
      generalize (s'.dropRow t.id).deleteTasks rest = x' at hanswer hforeign' halike ⊢
      obtain ⟨answer, after⟩ := x
      obtain ⟨answer', after'⟩ := x'
      cases hanswer
      cases answer <;> exact ⟨rfl, hforeign, hforeign', halike⟩

/-- A task that a session lists lies in a row that it sees, under its identifier. -/
theorem ownRows_of_mem_tasks (hs : s.Reached) {filter : TaskFilter} {tasks : List Task}
    (htasks : s.tasks session filter = .ok tasks) {t : Task} (ht : t ∈ tasks) :
    ∃ r, (s.ownRows session).get? t.id = some r := by
  rw [Store.tasks_eq] at htasks
  split at htasks
  · cases htasks
  · cases htasks
    obtain ⟨r, hr, hread⟩ := List.mem_filterMap.1 (List.mem_mergeSort.1 ht)
    obtain ⟨key, hkey⟩ := KeyMap.mem_values_iff.1 (List.mem_of_mem_filter hr)
    refine ⟨r, ?_⟩
    have hread' : Task.ofRecord r = .ok t := by
      cases hofRecord : Task.ofRecord r with
      | error f =>
        rw [hofRecord] at hread
        cases hread
      | ok t' =>
        rw [hofRecord] at hread
        cases hread
        rfl
    have hrow : s.taskRows.get? key = some r := by
      rw [get?_taskRows session, hkey]
      rfl
    rw [Task.id_of_ofRecord hread', (filed_of_reachedBy hs Task.table key r hrow).1]
    exact hkey

/-- Only tasks that were listed are in the surplus. -/
theorem mem_of_mem_surplus {limits : RetentionLimits} {tasks : List Task} {t : Task}
    (h : t ∈ surplus limits tasks) : t ∈ tasks := by
  unfold surplus at h
  rcases List.mem_append.1 h with h | h <;>
    exact List.mem_of_mem_filter (List.mem_mergeSort.1 (List.mem_of_mem_drop h))

/-- The finished tasks are trimmed alike in both stores. -/
theorem Alike.trimTasks (h : Alike session s s') (hs : s.Reached) (limits : RetentionLimits) :
    SameFor session s s' (s.trimTasks session limits) (s'.trimTasks session limits) := by
  unfold Store.trimTasks
  rw [h.tasks_eq]
  split
  · exact h.same _
  · rename_i tasks htasks
    have hseen : ∀ t ∈ surplus limits tasks, ∃ r, (s.ownRows session).get? t.id = some r :=
      fun t ht => ownRows_of_mem_tasks hs htasks (mem_of_mem_surplus ht)
    refine h.deleteTasks (fun t ht => ?_) fun t ht => ?_
    · obtain ⟨r, hr⟩ := hseen t ht
      exact foreignRows_of_ownRows hr
    · obtain ⟨r, hr⟩ := hseen t ht
      rw [← h.rows] at hr
      exact foreignRows_of_ownRows hr

/-- **A foreign task is treated like one that does not exist.**  Whatever is asked for a
session, two stores that differ in foreign rows only give the same answer, keep their foreign
rows as they are, and differ in foreign rows only after that. -/
theorem same_request (hs : s.Reached) (h : Alike session s s') (now : Int64) (q : TaskRequest)
    (hq : q.IsFresh s) (hq' : q.IsFresh s') :
    SameFor session s s' (s.request session now q) (s'.request session now q) := by
  cases q with
  | create id d => exact (h.createTask hq hq' now d).map TaskAnswer.task
  | get id =>
    show SameFor session s s' (TaskAnswer.task (s.task session id), s)
      (TaskAnswer.task (s'.task session id), s')
    rw [h.task_eq]
    exact h.same _
  | list filter =>
    show SameFor session s s' (TaskAnswer.tasks (s.tasks session filter), s)
      (TaskAnswer.tasks (s'.tasks session filter), s')
    rw [h.tasks_eq]
    exact h.same _
  -- a change to a task never touches its owner
  | update id u =>
    refine (h.modifyTask id fun t => ?_).map TaskAnswer.task
    unfold TaskUpdate.apply TaskUpdate.stampStatus
    dsimp only
    split
    · split <;> rfl
    · rfl
  | cancel id =>
    refine (h.modifyTask id fun t => ?_).map TaskAnswer.task
    unfold Task.cancel
    split <;> rfl
  | retry id =>
    refine (h.modifyTask id fun t => ?_).map TaskAnswer.task
    unfold Task.retry
    split <;> rfl
  | delete id => exact (h.deleteTask id).map TaskAnswer.task
  | stats =>
    show SameFor session s s' (TaskAnswer.stats (s.taskStats session), s)
      (TaskAnswer.stats (s'.taskStats session), s')
    unfold taskStats
    rw [h.tasks_eq]
    exact h.same _
  | trim limits => exact (h.trimTasks hs limits).map TaskAnswer.dropped

/-- A store with a task of the session `b`. -/
def lentStore : Store :=
  setRow {} (identifier 1)
    (TaskDraft.start { name := "t" } (identifier 1) (.sanitize "b") 0).toRecord

/-- The session `a` asks in vain for the task of the session `b` to be dropped. -/
theorem same_request_delete :
    Reached {} ∧ Alike (.sanitize "a") {} lentStore ∧
      SameFor (.sanitize "a") {} lentStore
        (request {} (.sanitize "a") 0 (.delete (identifier 1)))
        (lentStore.request (.sanitize "a") 0 (.delete (identifier 1))) := by
  have hreached : Reached {} := ⟨{}, [], fun _ _ => trivial, rfl⟩
  have halike : Alike (.sanitize "a") {} lentStore :=
    ⟨rfl, fun name hname => get?_setRow_of_ne {} _ hname, by decide +kernel⟩
  exact ⟨hreached, halike, same_request hreached halike 0 _ trivial trivial⟩

end Store

end SessionTasks
