/-
# One task of a session

What is done to a store leaves a task of a session as it is, drops it, or changes it in a way
that a request for this very task describes.

* `Store.task_eq_ok_iff` : a task is found in the row under its identifier;
* `Store.task_of_modifyTask`, `Store.spares_modifyTask` : a change reaches the task that it is
  for, and no other;
* `Store.Spares` : the task may be gone, but it has not changed.
-/
import SessionTasks.Proofs.Task.Ownership
namespace SessionTasks

/-! ## Percentages are numbers -/

namespace Binary64

/-- What is neither finite nor beyond every number on either side is not a number. -/
theorem isFinite_of_le {x : Binary64} (hnan : x.isNaN = false) (hlow : x.lt zero = false)
    (hhigh : hundred.lt x = false) : x.isFinite = true := by
  by_contra hinfinite
  have hrank : x.rank = infiniteRank := by
    unfold isNaN at hnan
    unfold isFinite at hinfinite
    have hle : ¬ infiniteRank < x.rank := by simpa using hnan
    have hge : ¬ x.rank < infiniteRank := by simpa using hinfinite
    omega
  have hmagnitude : x.magnitude = magnitudeOfRank infiniteRank := by
    unfold magnitude
    rw [hrank]
  have hzero : zero.isNaN = false ∧ zero.scaled = 0 := by decide +kernel
  have hhundred : hundred.isNaN = false ∧ hundred.scaled < magnitudeOfRank infiniteRank := by
    decide +kernel
  have hlarge : 0 < magnitudeOfRank infiniteRank := by decide +kernel
  unfold lt at hlow hhigh
  rw [hnan, hzero.1, hzero.2] at hlow
  rw [hnan, hhundred.1] at hhigh
  have hscaled : x.scaled = -(magnitudeOfRank infiniteRank : Int) ∨
      x.scaled = magnitudeOfRank infiniteRank := by
    unfold scaled
    rw [hmagnitude]
    split
    · exact Or.inl rfl
    · exact Or.inr rfl
  generalize magnitudeOfRank infiniteRank = m at hhundred hlarge hscaled
  have hlow : 0 ≤ x.scaled := by simpa using hlow
  have hhigh : x.scaled ≤ hundred.scaled := by simpa using hhigh
  omega

/-- A percentage is finite. -/
theorem isFinite_clampPercent (x : Binary64) : x.clampPercent.isFinite = true := by
  have hzero : zero.isFinite = true := by decide +kernel
  have hhundred : hundred.isFinite = true := by decide +kernel
  unfold clampPercent
  split
  · exact hzero
  · rename_i hnan
    split
    · exact hzero
    · rename_i hlow
      split
      · exact hhundred
      · rename_i hhigh
        exact isFinite_of_le (Bool.eq_false_of_not_eq_true hnan) (Bool.eq_false_of_not_eq_true hlow)
          (Bool.eq_false_of_not_eq_true hhigh)

end Binary64

/-! ## What changes to tasks keep -/

/-- The change leaves alone who the task is and who owns it. -/
structure Task.Preserves (f : Task → Task) : Prop where
  id : ∀ t, (f t).id = t.id
  sessionKey : ∀ t, (f t).sessionKey = t.sessionKey

namespace TaskUpdate

/-- An update leaves alone who the task is and who owns it. -/
theorem preserves_apply (u : TaskUpdate) (now : Int64) :
    Task.Preserves fun t => u.apply t now where
  id := by
    intro t
    unfold apply stampStatus
    dsimp only
    split
    · split <;> rfl
    · rfl
  sessionKey := by
    intro t
    unfold apply stampStatus
    dsimp only
    split
    · split <;> rfl
    · rfl

/-- The status after a change is the one that the change gives, if it gives one. -/
theorem status_apply (u : TaskUpdate) (t : Task) (now : Int64) :
    (u.apply t now).status = u.status.getD t.status := by
  unfold apply stampStatus
  dsimp only
  split
  · rename_i status hstatus
    rw [hstatus]
    split <;> rfl
  · rename_i hstatus
    rw [hstatus]
    rfl

/-- The progress after a change is the one that the change gives, from 0 to 100, if it gives
one. -/
theorem progress_apply (u : TaskUpdate) (t : Task) (now : Int64) :
    (u.apply t now).progress = (u.progress.map Binary64.clampPercent).getD t.progress := by
  unfold apply stampStatus
  dsimp only
  split
  · split <;> rfl
  · rfl

/-- A change leaves a progress that is finite. -/
theorem isFinite_apply (u : TaskUpdate) {t : Task} (ht : t.progress.isFinite = true)
    (now : Int64) : (u.apply t now).progress.isFinite = true := by
  rw [progress_apply]
  cases u.progress with
  | none => exact ht
  | some progress => exact progress.isFinite_clampPercent

end TaskUpdate

namespace Task

theorem preserves_cancel (now : Int64) : Preserves fun t => t.cancel now where
  id := by
    intro t
    unfold cancel
    split <;> rfl
  sessionKey := by
    intro t
    unfold cancel
    split <;> rfl

theorem preserves_retry (now : Int64) : Preserves fun t => t.retry now where
  id := by
    intro t
    unfold retry
    split <;> rfl
  sessionKey := by
    intro t
    unfold retry
    split <;> rfl

/-- A task that is not finished is cancelled, and any other has the status that it had. -/
theorem status_cancel (t : Task) (now : Int64) :
    (t.cancel now).status = if t.status.isCancellable then .cancelled else t.status := by
  unfold cancel
  split <;> rfl

end Task

namespace Store

variable {s s' : Store} {session : SessionKey} {id : String} {t t' : Task}

/-! ## Finding a task -/

/-- A task is given to a session when it is read from its row and is its own. -/
theorem ownTask_eq_ok_iff {r : Record} :
    ownTask session id r = .ok t ↔ Task.ofRecord r = .ok t ∧ t.sessionKey = session.text := by
  constructor
  · exact ownTask_eq_ok
  · rintro ⟨ht, howner⟩
    unfold ownTask
    rw [ht]
    exact if_pos howner

/-- **A task is found in the row under its identifier**, if it names the session as its owner. -/
theorem task_eq_ok_iff :
    s.task session id = .ok t ↔
      s.poisoned = false ∧ ∃ r, s.tables.find? Task.table id = some r ∧
        Task.ofRecord r = .ok t ∧ t.sessionKey = session.text := by
  unfold task
  rw [find?_eq]
  cases s.poisoned with
  | true => simp
  | false =>
    cases hr : s.tables.find? Task.table id with
    | none => simp
    | some r => simp [ownTask_eq_ok_iff]

/-- A task whose row was there before was found before. -/
theorem task_of_rows (hpoisoned : s'.poisoned = false → s.poisoned = false)
    (hrow : ∀ r, s'.tables.find? Task.table id = some r → s.tables.find? Task.table id = some r)
    (h : s'.task session id = .ok t) : s.task session id = .ok t := by
  obtain ⟨hp, r, hr, ht⟩ := task_eq_ok_iff.1 h
  exact task_eq_ok_iff.2 ⟨hpoisoned hp, r, hrow r hr, ht⟩

/-! ## Changing a task -/

/-- The task that is read from the row of a changed task. -/
theorem ofRecord_keptRow {r : Record} :
    Task.ofRecord (keptRow r t.toRecord) = .ok t' ↔
      t.progress.isFinite = true ∧ t' = { t with id := r.id } :=
  Task.ofRecord_of_fields rfl

/-- **What a change does.**  It puts the changed task into its row and answers with what is read
there, or changes nothing. -/
theorem modifyTask_cases (s : Store) (session : SessionKey) (id : String) (f : Task → Task) :
    (s.modifyTask session id f).2 = s ∧ (∀ t, s.task session id ≠ .ok t) ∨
      ∃ r t, s.tables.find? Task.table id = some r ∧ s.task session id = .ok t ∧
        Task.ofRecord r = .ok t ∧ s.modifyTask session id f =
          (Task.ofRecord (keptRow r (f t).toRecord), s.setRow id (keptRow r (f t).toRecord)) := by
  have hrow : ∀ r, (s.ownRows session).get? id = some r → s.tables.find? Task.table id = some r := by
    intro r hr
    show s.taskRows.get? id = some r
    rw [get?_taskRows session, hr, Option.some_or]
  rw [modifyTask_eq, task_eq]
  split
  · exact Or.inl ⟨rfl, fun t h => by cases h⟩
  · split
    · exact Or.inl ⟨rfl, fun t h => by cases h⟩
    · rename_i r hr
      cases htask : ownTask session id r with
      | error failure => exact Or.inl ⟨rfl, fun t h => by cases h⟩
      | ok t => exact Or.inr ⟨r, t, hrow r hr, rfl, (ownTask_eq_ok htask).1, rfl⟩

/-- A row that is set is found, and the others are found as before. -/
theorem find?_setRow (s : Store) (name id : String) (r : Record) :
    (s.setRow name r).tables.find? Task.table id =
      if name = id then some r else s.tables.find? Task.table id := by
  show (s.setRow name r).taskRows.get? id = _
  rw [taskRows_setRow, KeyMap.get?_insert]
  rfl

/-- A change to a task that can be written answers with the changed task, and leaves it in its
row. -/
theorem modifyTask_eq_of_task {f : Task → Task} (hf : Task.Preserves f)
    (h : s.task session id = .ok t) (hfinite : (f t).progress.isFinite = true) :
    ∃ r, s.tables.find? Task.table id = some r ∧
      Task.ofRecord (keptRow r (f t).toRecord) = .ok (f t) ∧
      s.modifyTask session id f = (.ok (f t), s.setRow id (keptRow r (f t).toRecord)) := by
  rcases s.modifyTask_cases session id f with ⟨-, hnone⟩ | ⟨r, t', hr, ht, hrow, hafter⟩
  · exact absurd h (hnone t)
  · rw [h] at ht
    cases ht
    have hread : Task.ofRecord (keptRow r (f t).toRecord) = .ok (f t) := by
      refine ofRecord_keptRow.2 ⟨hfinite, ?_⟩
      rw [← Task.id_of_ofRecord hrow, ← hf.id t]
    rw [hread] at hafter
    exact ⟨r, hr, hread, hafter⟩

/-- **A change reaches the task that it is for.** -/
theorem task_modifyTask_self {f : Task → Task} (hf : Task.Preserves f)
    (h : s.task session id = .ok t) (hfinite : (f t).progress.isFinite = true) :
    (s.modifyTask session id f).2.task session id = .ok (f t) := by
  obtain ⟨hp, -, -, -, howner⟩ := task_eq_ok_iff.1 h
  obtain ⟨r, -, hread, hafter⟩ := modifyTask_eq_of_task hf h hfinite
  rw [hafter]
  refine task_eq_ok_iff.2 ⟨hp, keptRow r (f t).toRecord, ?_, hread, ?_⟩
  · rw [find?_setRow, if_pos rfl]
  · rw [hf.sessionKey, howner]

/-- A task that is found after it was changed is the changed task, and could be written. -/
theorem task_of_modifyTask {f : Task → Task} (hf : Task.Preserves f)
    (h : (s.modifyTask session id f).2.task session id = .ok t') :
    t'.progress.isFinite = true ∧ ∃ t, s.task session id = .ok t ∧ t' = f t := by
  rcases s.modifyTask_cases session id f with ⟨hsame, hnone⟩ | ⟨r, t, -, ht, hread, hafter⟩
  · rw [hsame] at h
    exact absurd h (hnone t')
  · rw [hafter] at h
    obtain ⟨-, r', hr', hread', -⟩ := task_eq_ok_iff.1 h
    rw [find?_setRow, if_pos rfl] at hr'
    cases hr'
    obtain ⟨hfinite, rfl⟩ := ofRecord_keptRow.1 hread'
    refine ⟨hfinite, t, ht, ?_⟩
    rw [← Task.id_of_ofRecord hread, ← hf.id t]

/-! ## What leaves a task alone -/

/-- The task has gone, or it is as it was. -/
def Spares (session : SessionKey) (id : String) (s s' : Store) : Prop :=
  ∀ t, s'.task session id = .ok t → s.task session id = .ok t

theorem Spares.refl (session : SessionKey) (id : String) (s : Store) : Spares session id s s :=
  fun _ h => h

theorem Spares.trans {s'' : Store} (h : Spares session id s s') (h' : Spares session id s' s'') :
    Spares session id s s'' :=
  fun t ht => h t (h' t ht)

/-- A call that does not make the row of the task leaves the task alone or drops it. -/
theorem spares_call {c : StoreCall} (hc : ∀ r, ¬ s.Makes c Task.table id r) :
    Spares session id s (s.call c) := by
  refine fun t h => task_of_rows ?_ ?_ h
  · intro hp
    by_contra hne
    rw [call_of_poisoned (by simpa using hne)] at hp
    exact hne hp
  · intro r hr
    exact (find?_call hr).resolve_right (hc r)

/-- A record under another identifier or in another table spares the row. -/
theorem spares_put {now : Int64} {issued : Nat} {table : String} {r : Record}
    (hne : ¬ (table = Task.table ∧ (if r.id.isEmpty then identifier issued else r.id) = id)) :
    Spares session id s (s.put now (identifier issued) table r).2 := by
  refine spares_call (c := .put now issued table r) fun row hmakes => hne ?_
  generalize hname : Task.table = name at hmakes
  cases hmakes
  exact ⟨rfl, (stamped_id _ _ _ _).symm⟩

/-- A change of another record spares the row. -/
theorem spares_modify {table name : String} {change : Record → Change}
    (hne : ¬ (table = Task.table ∧ name = id)) :
    Spares session id s (s.modify table name change).2 := by
  refine spares_call (c := .modify table name change) fun row hmakes => hne ?_
  generalize hname : Task.table = name at hmakes
  cases hmakes
  exact ⟨rfl, rfl⟩

/-- A record that is dropped spares every task that stays. -/
theorem spares_delete (table name : String) : Spares session id s (s.delete table name).2 :=
  spares_call (c := .delete table name) fun _ hmakes => by cases hmakes

theorem spares_deleteTable (table : String) : Spares session id s (s.deleteTable table).2 :=
  spares_call (c := .deleteTable table) fun _ hmakes => by cases hmakes

theorem spares_clear : Spares session id s s.clear.2 :=
  spares_call (c := .clear) fun _ hmakes => by cases hmakes

/-- A new task is stored as any record is. -/
theorem createTask_snd (s : Store) (session : SessionKey) (id : String) (now : Int64)
    (d : TaskDraft) : (s.createTask session id now d).2 =
      (s.put now id Task.table (d.start id session now).toRecord).2 := by
  unfold createTask
  split <;> rename_i h <;> rw [h]

/-- The row of a new task has the identifier that the task was given. -/
theorem id_start (d : TaskDraft) (id : String) (session : SessionKey) (now : Int64) :
    (d.start id session now).toRecord.id = id :=
  Task.id_toRecord _

/-- A new task spares the rows under other identifiers. -/
theorem spares_createTask {other : SessionKey} {now : Int64} {issued : Nat} {d : TaskDraft}
    (hne : identifier issued ≠ id) :
    Spares session id s (s.createTask other (identifier issued) now d).2 := by
  rw [createTask_snd]
  refine spares_put fun h => hne ?_
  rw [id_start, ite_self] at h
  exact h.2

/-- **A change reaches no other task.** -/
theorem spares_modifyTask {other : SessionKey} {name : String} {f : Task → Task}
    (hf : Task.Preserves f) (hne : ¬ (other = session ∧ name = id)) :
    Spares session id s (s.modifyTask other name f).2 := by
  intro t' h
  rcases s.modifyTask_cases other name f with ⟨hsame, -⟩ | ⟨r, t, hr, ht, hrow, hafter⟩
  · rw [hsame] at h
    exact h
  · rw [hafter] at h
    obtain ⟨hp, r', hr', ht', howner⟩ := task_eq_ok_iff.1 h
    rw [find?_setRow] at hr'
    split at hr'
    · rename_i hname
      cases hr'
      obtain ⟨-, rfl⟩ := ofRecord_keptRow.1 ht'
      -- the owner that the row names is the session that made the change
      obtain ⟨-, q, hq, htq, hother⟩ := task_eq_ok_iff.1 ht
      have hsession : other = session := by
        apply SessionKey.text_injective
        rw [← hother, ← howner, hf.sessionKey]
      exact absurd ⟨hsession, hname⟩ hne
    · exact task_eq_ok_iff.2 ⟨hp, r', hr', ht', howner⟩

theorem spares_deleteTask (other : SessionKey) (name : String) :
    Spares session id s (s.deleteTask other name).2 := by
  unfold deleteTask
  split
  · exact Spares.refl session id s
  · have hdelete : Spares session id s (s.delete Task.table name).2 := spares_delete _ _
    split <;> rename_i h <;> rw [h] at hdelete <;> exact hdelete

theorem spares_deleteTasks (tasks : List Task) (s : Store) :
    Spares session id s (s.deleteTasks tasks).2 := by
  induction tasks generalizing s with
  | nil => exact Spares.refl session id s
  | cons t rest ih =>
    have hdelete : Spares session id s (s.delete Task.table t.id).2 := spares_delete _ _
    unfold deleteTasks
    split
    · rename_i h
      rw [h] at hdelete
      exact hdelete
    · rename_i s' h
      rw [h] at hdelete
      have hrest := hdelete.trans (ih s')
      split <;> rename_i h' <;> rw [h'] at hrest <;> exact hrest

theorem spares_trimTasks (other : SessionKey) (limits : RetentionLimits) :
    Spares session id s (s.trimTasks other limits).2 := by
  unfold trimTasks
  split
  · exact Spares.refl session id s
  · exact spares_deleteTasks _ s

end Store

end SessionTasks
