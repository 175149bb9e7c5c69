/-
# Well-formed tasks

A task that runs has been started, one that is completed has been completed at some time, and
the times of a task lie between its creation and its last change.  Whatever its owner or a run
does to the task keeps it so, as long as the clock does not go back.

* `TaskEdit` : what the owner of a task and its runs do to it;
* `TaskEdit.wellFormed` : each of these changes keeps a task well formed;
* `Store.Sound.modify`, `Store.Sound.create` : the rows of a store hold well-formed tasks, as
  tasks are written, after a change and after a creation too.
-/
import SessionTasks.Proofs.Task.Progression
namespace SessionTasks

/-! ## Well-formed tasks -/

namespace Task

/-- The times of a task agree with its status and with each other. -/
structure WellFormed (t : Task) : Prop where
  /-- A task that runs was started. -/
  running : t.status = .running → t.startedAt.isSome = true
  /-- A task that is completed was completed at some time. -/
  completed : t.status = .completed → t.completedAt.isSome = true
  created : t.createdAt ≤ t.updatedAt
  /-- It was started between its creation and its last change. -/
  startedAt : ∀ time ∈ t.startedAt, t.createdAt ≤ time ∧ time ≤ t.updatedAt
  /-- It was completed between its creation and its last change. -/
  completedAt : ∀ time ∈ t.completedAt, t.createdAt ≤ time ∧ time ≤ t.updatedAt

variable {t : Task} {now : Int64}

/-- A new task is well formed. -/
theorem wellFormed_start (d : TaskDraft) (id : String) (session : SessionKey) (now : Int64) :
    (d.start id session now).WellFormed where
  running := by
    intro h
    cases h
  completed := by
    intro h
    cases h
  created := Int64.le_refl now
  startedAt := by
    intro time h
    cases h
  completedAt := by
    intro time h
    cases h

end Task

/-! ## What a change does to the times -/

namespace TaskUpdate

variable (u : TaskUpdate) (t : Task) (now : Int64)

@[simp] theorem createdAt_apply : (u.apply t now).createdAt = t.createdAt := by
  unfold apply stampStatus
  dsimp only
  split
  · split <;> rfl
  · rfl

@[simp] theorem updatedAt_apply : (u.apply t now).updatedAt = now := rfl

/-- The first start is noted. -/
theorem startedAt_apply : (u.apply t now).startedAt =
    if u.status = some .running then some (t.startedAt.getD now) else t.startedAt := by
  unfold apply stampStatus
  cases u.status with
  | none => rfl
  | some status => cases status <;> rfl

/-- The first completion is noted. -/
theorem completedAt_apply : (u.apply t now).completedAt =
    if u.status = some .completed then some (t.completedAt.getD now) else t.completedAt := by
  unfold apply stampStatus
  cases u.status with
  | none => rfl
  | some status => cases status <;> rfl

end TaskUpdate

/-- How the owner of a task, or a run of it, may change the task. -/
inductive TaskEdit (now : Int64) : (Task → Task) → Prop
  /-- A change is merged into the task. -/
  | update (u : TaskUpdate) : TaskEdit now fun t => u.apply t now
  /-- The task is cancelled. -/
  | cancel : TaskEdit now fun t => t.cancel now
  /-- The task is made pending again. -/
  | retry : TaskEdit now fun t => t.retry now

namespace Task.WellFormed

variable {t : Task} {now : Int64}

/-- A time that lay between the creation and the last change does so after a later change. -/
theorem between {lower upper time : Int64} (h : lower ≤ time ∧ time ≤ upper) (hnow : upper ≤ now) :
    lower ≤ time ∧ time ≤ now :=
  ⟨h.1, Int64.le_trans h.2 hnow⟩

/-- A time that is noted now, unless it was noted before. -/
theorem between_getD {lower upper : Int64} {noted : Option Int64}
    (h : ∀ time ∈ noted, lower ≤ time ∧ time ≤ upper) (hlower : lower ≤ upper)
    (hnow : upper ≤ now) : ∀ time ∈ some (noted.getD now), lower ≤ time ∧ time ≤ now := by
  rintro time ⟨⟩
  cases noted with
  | none => exact ⟨Int64.le_trans hlower hnow, Int64.le_refl now⟩
  | some time => exact between (h time rfl) hnow

/-- An update that is not made before the last one keeps a task well-formed. -/
theorem apply (h : t.WellFormed) (u : TaskUpdate) (hnow : t.updatedAt ≤ now) :
    (u.apply t now).WellFormed where
  running := by
    intro hstatus
    rw [TaskUpdate.status_apply] at hstatus
    rw [TaskUpdate.startedAt_apply]
    cases hu : u.status with
    | none =>
      rw [hu] at hstatus
      exact h.running hstatus
    | some status =>
      rw [hu, Option.getD_some] at hstatus
      rw [if_pos (congrArg some hstatus)]
      rfl
  completed := by
    intro hstatus
    rw [TaskUpdate.status_apply] at hstatus
    rw [TaskUpdate.completedAt_apply]
    cases hu : u.status with
    | none =>
      rw [hu] at hstatus
      exact h.completed hstatus
    | some status =>
      rw [hu, Option.getD_some] at hstatus
      rw [if_pos (congrArg some hstatus)]
      rfl
  created := by
    rw [TaskUpdate.createdAt_apply]
    exact Int64.le_trans h.created hnow
  startedAt := by
    rw [TaskUpdate.startedAt_apply, TaskUpdate.createdAt_apply]
    split
    · exact between_getD h.startedAt h.created hnow
    · exact fun time htime => between (h.startedAt time htime) hnow
  completedAt := by
    rw [TaskUpdate.completedAt_apply, TaskUpdate.createdAt_apply]
    split
    · exact between_getD h.completedAt h.created hnow
    · exact fun time htime => between (h.completedAt time htime) hnow

/-- A cancellation that is not made before the last change keeps a task well-formed. -/
theorem cancel (h : t.WellFormed) (hnow : t.updatedAt ≤ now) : (t.cancel now).WellFormed := by
  unfold Task.cancel
  split
  · constructor
    · intro hstatus
      cases hstatus
    · intro hstatus
      cases hstatus
    · exact Int64.le_trans h.created hnow
    · exact fun time htime => between (h.startedAt time htime) hnow
    · exact fun time htime => between (h.completedAt time htime) hnow
  · exact h

/-- A task that is made pending again has not been started or completed. -/
theorem retry (h : t.WellFormed) (hnow : t.updatedAt ≤ now) : (t.retry now).WellFormed := by
  unfold Task.retry
  split
  · constructor
    · intro hstatus
      cases hstatus
    · intro hstatus
      cases hstatus
    · exact Int64.le_trans h.created hnow
    · intro time htime
      cases htime
    · intro time htime
      cases htime
  · exact h

end Task.WellFormed

namespace TaskEdit

variable {now : Int64} {f : Task → Task}

/-- An edit leaves alone who the task is and who owns it. -/
theorem preserves (hf : TaskEdit now f) : Task.Preserves f := by
  cases hf with
  | update u => exact u.preserves_apply now
  | cancel => exact Task.preserves_cancel now
  | retry => exact Task.preserves_retry now

/-- A progress stays finite. -/
theorem isFinite (hf : TaskEdit now f) {t : Task} (ht : t.progress.isFinite = true) :
    (f t).progress.isFinite = true := by
  cases hf with
  | update u => exact u.isFinite_apply ht now
  | cancel =>
    show (t.cancel now).progress.isFinite = true
    unfold Task.cancel
    split <;> exact ht
  | retry =>
    have hzero : Binary64.zero.isFinite = true := by decide +kernel
    show (t.retry now).progress.isFinite = true
    unfold Task.retry
    split
    · exact hzero
    · exact ht

/-- **A change keeps a task well formed**, if the task last changed before. -/
theorem wellFormed (hf : TaskEdit now f) {t : Task} (h : t.WellFormed) (hnow : t.updatedAt ≤ now) :
    (f t).WellFormed := by
  cases hf with
  | update u => exact h.apply u hnow
  | cancel => exact h.cancel hnow
  | retry => exact h.retry hnow

/-- A change dates a task no later than now. -/
theorem updatedAt_le (hf : TaskEdit now f) {t : Task} (hnow : t.updatedAt ≤ now) :
    (f t).updatedAt ≤ now := by
  cases hf with
  | update u => exact Int64.le_refl now
  | cancel =>
    show (t.cancel now).updatedAt ≤ now
    unfold Task.cancel
    split
    · exact Int64.le_refl now
    · exact hnow
  | retry =>
    show (t.retry now).updatedAt ≤ now
    unfold Task.retry
    split
    · exact Int64.le_refl now
    · exact hnow

end TaskEdit

/-! ## Rows of well-formed tasks -/

/-- The record with another time at which it was first stored. -/
def Record.dated (r : Record) (createdDate : Option Int64) : Record := { r with createdDate }

@[simp] theorem Record.id_dated (r : Record) (date : Option Int64) : (r.dated date).id = r.id := rfl

@[simp] theorem Record.fields_dated (r : Record) (date : Option Int64) :
    (r.dated date).fields = r.fields := rfl

/-- The record is the row of a well-formed task that last changed at the time `now` or before: it
is read as the task, and but for the time it was first stored it is as the task is written. -/
def Record.IsSound (now : Int64) (r : Record) : Prop :=
  ∃ t, Task.ofRecord r = .ok t ∧ r = t.toRecord.dated r.createdDate ∧
    t.WellFormed ∧ t.updatedAt ≤ now

namespace Record.IsSound

variable {now : Int64} {r : Record}

/-- A row that is sound stays so. -/
theorem mono (h : r.IsSound now) {later : Int64} (hlater : now ≤ later) : r.IsSound later := by
  obtain ⟨t, ht, hr, hwell, hnow⟩ := h
  exact ⟨t, ht, hr, hwell, Int64.le_trans hnow hlater⟩

/-- The row of a task as it is written. -/
theorem of_task {t : Task} (hr : r = t.toRecord.dated r.createdDate)
    (hfinite : t.progress.isFinite = true) (hwell : t.WellFormed) (hnow : t.updatedAt ≤ now) :
    r.IsSound now := by
  have hfields : r.fields = t.toRecord.fields := by rw [hr, Record.fields_dated]
  have hid : r.id = t.id := by rw [hr, Record.id_dated, Task.id_toRecord]
  refine ⟨t, (Task.ofRecord_of_fields hfields).2 ⟨hfinite, ?_⟩, hr, hwell, hnow⟩
  rw [hid]

/-- The row of a task whose progress is finite is read as it. -/
theorem isFinite {t : Task} (ht : Task.ofRecord r = .ok t)
    (hr : r = t.toRecord.dated r.createdDate) : t.progress.isFinite = true := by
  have hfields : r.fields = t.toRecord.fields := by rw [hr, Record.fields_dated]
  exact ((Task.ofRecord_of_fields hfields).1 ht).1

/-- A change to a task puts the row of a well-formed task in the place of another. -/
theorem keptRow (h : r.IsSound now) {f : Task → Task} (hf : TaskEdit now f) {session : SessionKey}
    {id : String} {new : Record} (hnew : Store.taskChange session id f r = .done new) :
    (Store.keptRow r new).IsSound now := by
  obtain ⟨t, ht, hr, hwell, hnow⟩ := h
  unfold Store.taskChange at hnew
  split at hnew
  · rename_i t' hown
    obtain ⟨ht', -⟩ := Store.ownTask_eq_ok hown
    rw [ht] at ht'
    cases ht'
    cases hnew
    refine of_task ?_ (hf.isFinite (isFinite ht hr)) (hf.wellFormed hwell hnow)
      (hf.updatedAt_le hnow)
    have hid : r.id = (f t).toRecord.id := by
      rw [Task.id_toRecord, hf.preserves.id, Task.id_of_ofRecord ht]
    unfold Store.keptRow Record.dated
    rw [hid]
  · cases hnew

/-- A new task is stored in the row of a well-formed task. -/
theorem stamped (d : TaskDraft) (session : SessionKey) (issued : Nat) (existing : Option Record)
    (fresh : String) :
    (Store.stamped existing now fresh (d.start (identifier issued) session now).toRecord).IsSound
      now := by
  have hzero : Binary64.zero.isFinite = true := by decide +kernel
  have hid : (d.start (identifier issued) session now).toRecord.id.isEmpty = false := by
    rw [Task.id_toRecord]
    show (identifier issued).isEmpty = false
    simpa using identifier_ne_empty issued
  refine of_task (t := d.start (identifier issued) session now) ?_ hzero
    (Task.wellFormed_start d _ session now) (Int64.le_refl now)
  unfold Store.stamped Record.dated
  rw [hid]
  rfl

end Record.IsSound

/-! ## Tables of tasks -/

/-- The rows of new tasks have the property, and changes to tasks keep it. -/
structure Record.Kept (now : Int64) (P : Record → Prop) : Prop where
  start : ∀ (d : TaskDraft) (session : SessionKey) (issued : Nat) (existing : Option Record)
    (fresh : String),
    P (Store.stamped existing now fresh (d.start (identifier issued) session now).toRecord)
  edit : ∀ {r new : Record} {f : Task → Task} {session : SessionKey} {id : String}, P r →
    TaskEdit now f → Store.taskChange session id f r = .done new → P (Store.keptRow r new)

/-- Rows stay sound when they are stored. -/
theorem Record.kept_isSound (now : Int64) : Record.Kept now (Record.IsSound now) where
  start := .stamped
  edit h hf hnew := h.keptRow hf hnew

namespace Store

/-- Every row of the table of tasks has the property. -/
def TaskRows (P : Record → Prop) (s : Store) : Prop :=
  ∀ id r, s.tables.find? Task.table id = some r → P r

/-- Every row of the table of tasks is the row of a well-formed task. -/
def Sound (now : Int64) (s : Store) : Prop :=
  ∀ id r, s.tables.find? Task.table id = some r → r.IsSound now

variable {P : Record → Prop} {s : Store} {now : Int64}

theorem Sound.mono (h : s.Sound now) {later : Int64} (hlater : now ≤ later) : s.Sound later :=
  fun id r hr => (h id r hr).mono hlater

/-- A call keeps a property of the rows of tasks if the rows that it makes have it. -/
theorem TaskRows.call (h : s.TaskRows P) {c : StoreCall}
    (hc : ∀ id r, s.Makes c Task.table id r → P r) : (s.call c).TaskRows P := by
  intro id r hr
  rcases find?_call hr with hr | hmakes
  · exact h id r hr
  · exact hc id r hmakes

/-- The rows keep the property when one of the tasks is changed. -/
theorem TaskRows.modify (h : s.TaskRows P) (hP : Record.Kept now P) {f : Task → Task}
    (hf : TaskEdit now f) (session : SessionKey) (id : String) :
    (s.call (.modify Task.table id (taskChange session id f))).TaskRows P := by
  refine h.call fun name r hmakes => ?_
  cases hmakes with
  | modify hold hnew => exact hP.edit (h _ _ hold) hf hnew

/-- The rows keep the property when a task is created. -/
theorem TaskRows.create (h : s.TaskRows P) (hP : Record.Kept now P) (d : TaskDraft)
    (session : SessionKey) (issued : Nat) :
    (s.call (.put now issued Task.table
      (d.start (identifier issued) session now).toRecord)).TaskRows P := by
  refine h.call fun name r hmakes => ?_
  cases hmakes
  exact hP.start d session issued _ _

/-- What is stored in another table is no task. -/
theorem TaskRows.put (h : s.TaskRows P) {table : String} (htable : table ≠ Task.table)
    (time : Int64) (issued : Nat) (r : Record) :
    (s.call (.put time issued table r)).TaskRows P := by
  refine h.call fun name row hmakes => ?_
  generalize hname : Task.table = tasks at hmakes htable
  cases hmakes
  exact absurd rfl htable

/-- A change in another table leaves the rows of tasks. -/
theorem TaskRows.modify_of_ne (h : s.TaskRows P) {table : String} (htable : table ≠ Task.table)
    (id : String) (change : Record → Change) : (s.call (.modify table id change)).TaskRows P := by
  refine h.call fun name row hmakes => ?_
  generalize hname : Task.table = tasks at hmakes htable
  cases hmakes
  exact absurd rfl htable

end Store

end SessionTasks
