/-
# Retention of finished tasks in one store

Of the completed tasks of a session, and of the failed ones, those beyond the limits are dropped.
All that a store holds besides them stays as it is, and a poisoned store is left alone.

* `Store.tasks_eq_ownTasks` : a session is shown the tasks that it owns;
* `Store.trimTasks_eq` : trimming drops the surplus of these tasks, all of it;
* `Store.Trimmed` : what a store holds then, and what it no longer holds.
-/
import SessionTasks.Proofs.Task.Ownership
namespace SessionTasks

/-- Erasing an entry leaves one entry less. -/
theorem KeyMap.size_erase {α : Type} {m : KeyMap α} {key : String} {value : α}
    (h : m.get? key = some value) : (m.erase key).size + 1 = m.size := by
  have hinsert : (m.erase key).insert key value = m := by
    refine ext_get? fun other => ?_
    rw [get?_insert, get?_erase]
    split
    · rename_i hkey
      rw [← hkey, h]
    · rfl
  have hperm := (m.erase key).sorted.insert_perm key value
  have hlength := congrArg KeyMap.size hinsert
  have herase : (m.erase key).erase key = m.erase key :=
    erase_of_get?_eq_none (by rw [get?_erase, if_pos rfl])
  rw [← hlength]
  show _ = (Entries.insert key value (m.erase key).entries).length
  rw [hperm.length_eq, List.length_cons]
  exact congrArg (fun m : KeyMap α => m.size + 1) herase.symm

namespace Store

variable {s : Store} {session : SessionKey} {limits : RetentionLimits}

/-! ## The tasks of a session -/

/-- The tasks that a session owns, in the order of their identifiers. -/
def ownTasks (session : SessionKey) (s : Store) : List Task :=
  s.taskRows.values.filterMap fun r => (ownTask session r.id r).toOption

theorem toOption_ownTask_eq_some_iff {r : Record} {id : String} {t : Task} :
    (ownTask session id r).toOption = some t ↔
      Task.ofRecord r = .ok t ∧ t.sessionKey = session.text := by
  constructor
  · intro h
    cases hown : ownTask session id r with
    | error f =>
      rw [hown] at h
      cases h
    | ok t' =>
      rw [hown] at h
      cases h
      exact ownTask_eq_ok hown
  · rintro ⟨ht, hkey⟩
    unfold ownTask
    rw [ht]
    dsimp only
    rw [if_pos hkey]
    rfl

/-- A task is owned by a session if a row of the task table holds it for this session. -/
theorem mem_ownTasks_iff (h : s.Filed) {t : Task} :
    t ∈ s.ownTasks session ↔ ∃ r, s.taskRows.get? t.id = some r ∧
      Task.ofRecord r = .ok t ∧ t.sessionKey = session.text := by
  unfold ownTasks
  rw [List.mem_filterMap]
  constructor
  · rintro ⟨r, hr, ht⟩
    obtain ⟨id, hid⟩ := KeyMap.mem_values_iff.1 hr
    have hown := toOption_ownTask_eq_some_iff.1 ht
    refine ⟨r, ?_, hown⟩
    rw [Task.id_of_ofRecord hown.1, (h Task.table id r hid).1]
    exact hid
  · rintro ⟨r, hr, hown⟩
    exact ⟨r, KeyMap.mem_values_iff.2 ⟨t.id, hr⟩, toOption_ownTask_eq_some_iff.2 hown⟩

/-- No two tasks of a session have one identifier. -/
theorem nodup_ownTasks (h : s.Filed) (session : SessionKey) :
    ((s.ownTasks session).map Task.id).Nodup := by
  unfold ownTasks KeyMap.values
  rw [List.Nodup, List.pairwise_map, List.pairwise_filterMap, List.pairwise_map]
  -- the rows come in the order of their keys, and the key of a row is the identifier of its task
  refine List.Pairwise.imp_of_mem ?_ s.taskRows.sorted
  intro a b ha hb hlt t ht u hu heq
  have hid : ∀ e ∈ s.taskRows.entries, ∀ t : Task,
      (ownTask session e.2.id e.2).toOption = some t → t.id = e.1 := by
    intro e he t ht
    rw [Task.id_of_ofRecord (toOption_ownTask_eq_some_iff.1 ht).1]
    exact (h Task.table e.1 e.2 (KeyMap.get?_eq_some_iff.2 he)).1
  rw [hid a ha t ht, hid b hb u hu] at heq
  exact String.lt_irrefl _ (heq ▸ hlt)

/-- As the tasks are listed, oldest first, no two of them have one identifier either. -/
theorem nodup_listed (h : s.Filed) (session : SessionKey) :
    (((s.ownTasks session).mergeSort isOlder).map Task.id).Nodup :=
  (((s.ownTasks session).mergeSort_perm isOlder).map Task.id).nodup_iff.2
    (nodup_ownTasks h session)

/-- The selection of all tasks of a session selects the rows of its tasks. -/
theorem matches_of_sessionKey {r : Record} {t : Task} (ht : Task.ofRecord r = .ok t)
    (hkey : t.sessionKey = session.text) :
    (({} : TaskFilter).toExample session).Matches r = true := by
  have hcolumn : r.field? "sessionKey" = some (.str t.sessionKey) := Task.sessionKey_of_ofRecord ht
  have hrules : ({} : TaskFilter).toExample session =
      ⟨[("sessionKey", .equals (.str session.text))]⟩ := rfl
  rw [hrules]
  unfold Example.Matches
  rw [List.all_cons, List.all_nil, Bool.and_true, hcolumn, hkey]
  exact decide_eq_true rfl

/-- **A session is shown the tasks that it owns**, oldest first. -/
theorem tasks_eq_ownTasks (h : s.poisoned = false) (session : SessionKey) :
    s.tasks session {} = .ok ((s.ownTasks session).mergeSort isOlder) := by
  rw [tasks_eq, if_neg (by rw [h]; exact Bool.false_ne_true)]
  unfold tasksOf ownTasks ownRows
  rw [KeyMap.values_keep, List.filter_filter, List.filterMap_filter]
  congr 2
  -- row by row: what is no task is passed over, and so is a task that is not the session's own
  refine List.filterMap_congr fun r _ => ?_
  cases ht : Task.ofRecord r with
  | error f =>
    have hnone : ownTask session r.id r = .error f := by
      unfold ownTask
      rw [ht]
    rw [hnone]
    exact ite_self _
  | ok t =>
    by_cases hkey : t.sessionKey = session.text
    · have hforeign : r.isForeign session = false :=
        Record.isForeign_of_sessionKey (hkey ▸ Task.sessionKey_of_ofRecord ht)
      rw [matches_of_sessionKey ht hkey, hforeign,
        toOption_ownTask_eq_some_iff.2 ⟨ht, hkey⟩]
      rfl
    · have hforeign : r.isForeign session = true :=
        Record.isForeign_eq_true_iff.2 ⟨t, ht, hkey⟩
      rw [ownTask_of_isForeign hforeign, hforeign]
      simp [Except.toOption]

/-! ## Dropping tasks -/

/-- The store without the rows of some tasks. -/
def dropTasks (s : Store) (tasks : List Task) : Store :=
  tasks.foldl (fun s t => s.dropRow t.id) s

theorem dropTasks_cons (s : Store) (t : Task) (rest : List Task) :
    s.dropTasks (t :: rest) = (s.dropRow t.id).dropTasks rest := rfl

@[simp] theorem settings_dropTasks (s : Store) (tasks : List Task) :
    (s.dropTasks tasks).settings = s.settings := by
  induction tasks generalizing s with
  | nil => rfl
  | cons t rest ih => exact ih _

@[simp] theorem poisoned_dropTasks (s : Store) (tasks : List Task) :
    (s.dropTasks tasks).poisoned = s.poisoned := by
  induction tasks generalizing s with
  | nil => rfl
  | cons t rest ih => exact ih _

/-- Other tables are left alone. -/
theorem get?_dropTasks_of_ne (s : Store) (tasks : List Task) {name : String}
    (h : name ≠ Task.table) : (s.dropTasks tasks).tables.get? name = s.tables.get? name := by
  induction tasks generalizing s with
  | nil => rfl
  | cons t rest ih => rw [dropTasks_cons, ih, get?_dropRow_of_ne s h]

theorem get?_taskRows_dropTasks (s : Store) (tasks : List Task) (id : String) :
    (s.dropTasks tasks).taskRows.get? id =
      if id ∈ tasks.map Task.id then none else s.taskRows.get? id := by
  induction tasks generalizing s with
  | nil => rfl
  | cons t rest ih =>
    rw [dropTasks_cons, ih, taskRows_dropRow, KeyMap.get?_erase, List.map_cons]
    by_cases hid : t.id = id
    · rw [if_pos hid, ite_self, if_pos (List.mem_cons.2 (Or.inl hid.symm))]
    · rw [if_neg hid]
      simp only [List.mem_cons, Ne.symm hid, false_or]

/-- The rows that are left lie under their identifiers. -/
theorem Filed.dropTasks (h : s.Filed) (tasks : List Task) : (s.dropTasks tasks).Filed := by
  induction tasks generalizing s with
  | nil => exact h
  | cons t rest ih =>
    refine ih fun table id r hr => ?_
    unfold dropRow at hr
    dsimp only at hr
    rw [Tables.find?_drop] at hr
    split at hr
    · cases hr
    · exact h table id r hr

/-- The tasks lie in rows of the task table, each in its own. -/
structure Holds (s : Store) (tasks : List Task) : Prop where
  nodup : (tasks.map Task.id).Nodup
  row : ∀ t ∈ tasks, ∃ r, s.taskRows.get? t.id = some r

theorem Holds.tail {t : Task} {rest : List Task} (h : s.Holds (t :: rest)) :
    (s.dropRow t.id).Holds rest := by
  obtain ⟨hfirst, hrest⟩ := List.nodup_cons.1 h.nodup
  refine ⟨hrest, fun u hu => ?_⟩
  have hne : t.id ≠ u.id := fun heq => hfirst (heq ▸ List.mem_map_of_mem hu)
  rw [taskRows_dropRow, KeyMap.get?_erase, if_neg hne]
  exact h.row u (List.mem_cons_of_mem t hu)

/-- A row is dropped for each of the tasks. -/
theorem Holds.size_dropTasks {tasks : List Task} (h : s.Holds tasks) :
    (s.dropTasks tasks).taskRows.size + tasks.length = s.taskRows.size := by
  induction tasks generalizing s with
  | nil => rfl
  | cons t rest ih =>
    obtain ⟨r, hr⟩ := h.row t List.mem_cons_self
    have hrest := ih h.tail
    have hone := KeyMap.size_erase hr
    rw [taskRows_dropRow] at hrest
    rw [dropTasks_cons, List.length_cons]
    omega

/-- The tasks are dropped, and counted. -/
theorem Holds.deleteTasks_eq {tasks : List Task} (h : s.Holds tasks)
    (hpoisoned : s.poisoned = false) :
    s.deleteTasks tasks = (.ok tasks.length, s.dropTasks tasks) := by
  induction tasks generalizing s with
  | nil => rfl
  | cons t rest ih =>
    obtain ⟨r, hr⟩ := h.row t List.mem_cons_self
    have hdelete : s.delete Task.table t.id = (.ok (some r), s.dropRow t.id) := by
      rw [delete_eq, if_neg (by rw [hpoisoned]; exact Bool.false_ne_true), hr]
    unfold deleteTasks
    rw [hdelete]
    dsimp only
    rw [ih h.tail hpoisoned]
    rfl

/-- The session owns what it owned but the tasks that were dropped. -/
theorem ownTasks_dropTasks (h : s.Filed) (session : SessionKey) (tasks : List Task) :
    (s.dropTasks tasks).ownTasks session =
      (s.ownTasks session).filter fun t => t.id ∉ tasks.map Task.id := by
  -- rows are dropped by their keys, which are their identifiers
  have hrows : (s.dropTasks tasks).taskRows =
      s.taskRows.keep fun r => decide (r.id ∉ tasks.map Task.id) := by
    refine KeyMap.ext_get? fun id => ?_
    rw [get?_taskRows_dropTasks, KeyMap.get?_keep]
    cases hr : s.taskRows.get? id with
    | none => exact ite_self none
    | some r =>
      rw [Option.filter_some, (h Task.table id r hr).1]
      by_cases hid : id ∈ tasks.map Task.id <;> simp [hid]
  unfold ownTasks
  rw [hrows, KeyMap.values_keep, List.filterMap_filter, List.filter_filterMap]
  refine List.filterMap_congr fun r _ => ?_
  cases hown : (ownTask session r.id r).toOption with
  | none => simp
  | some t =>
    have hid := Task.id_of_ofRecord (toOption_ownTask_eq_some_iff.1 hown).1
    rw [Option.filter_some, hid]

/-! ## The surplus -/

section Surplus

variable {tasks : List Task} {t : Task}

/-- The surplus are completed tasks beyond their limit, and failed ones beyond theirs. -/
theorem mem_surplus_iff :
    t ∈ surplus limits tasks ↔
      t ∈ ((tasks.filter (·.status = .completed)).mergeSort keptBefore).drop
          limits.maxCompletedTasks.toNat ∨
        t ∈ ((tasks.filter (·.status = .failed)).mergeSort fun a b => b.updatedAt ≤ a.updatedAt).drop
          limits.maxFailedTasks.toNat :=
  List.mem_append

/-- Among the tasks of one status, in some order, there are no others. -/
theorem status_of_mem_drop {status : TaskStatus} {le : Task → Task → Bool} {n : Nat}
    (h : t ∈ ((tasks.filter (·.status = status)).mergeSort le).drop n) : t.status = status :=
  of_decide_eq_true (List.mem_filter.1 (List.mem_mergeSort.1 (List.mem_of_mem_drop h))).2

theorem nodup_surplus (h : (tasks.map Task.id).Nodup) (limits : RetentionLimits) :
    ((surplus limits tasks).map Task.id).Nodup := by
  have hpart : ∀ (status : TaskStatus) (le : Task → Task → Bool) (n : Nat),
      ((((tasks.filter (·.status = status)).mergeSort le).drop n).map Task.id).Nodup := by
    intro status le n
    have hsub : ((tasks.filter (·.status = status)).map Task.id).Nodup :=
      h.sublist (List.filter_sublist.map Task.id)
    have hsorted := (((tasks.filter (·.status = status)).mergeSort_perm le).map Task.id).nodup_iff.2
      hsub
    exact hsorted.sublist ((List.drop_sublist n _).map Task.id)
  unfold surplus
  rw [List.map_append, List.nodup_append]
  refine ⟨hpart _ _ _, hpart _ _ _, ?_⟩
  intro a ha b hb heq
  obtain ⟨t, ht, rfl⟩ := List.mem_map.1 ha
  obtain ⟨u, hu, rfl⟩ := List.mem_map.1 hb
  have htasks : t ∈ tasks := mem_of_mem_surplus (mem_surplus_iff.2 (Or.inl ht))
  have hutasks : u ∈ tasks := mem_of_mem_surplus (mem_surplus_iff.2 (Or.inr hu))
  -- one task would be both completed and failed
  have hsame := List.inj_on_of_nodup_map h htasks hutasks heq
  have hcompleted := status_of_mem_drop ht
  rw [hsame, status_of_mem_drop hu] at hcompleted
  cases hcompleted

/-- A task with the identifier of a surplus task is this task. -/
theorem id_mem_surplus_iff (h : (tasks.map Task.id).Nodup) (ht : t ∈ tasks) :
    t.id ∈ (surplus limits tasks).map Task.id ↔ t ∈ surplus limits tasks := by
  refine ⟨fun hmem => ?_, fun hmem => List.mem_map_of_mem hmem⟩
  obtain ⟨u, hu, heq⟩ := List.mem_map.1 hmem
  rw [List.inj_on_of_nodup_map h ht (mem_of_mem_surplus hu) heq.symm]
  exact hu

/-- A completed task is in the surplus if it is beyond the limit of completed tasks. -/
theorem id_mem_surplus_of_completed (h : (tasks.map Task.id).Nodup) (ht : t ∈ tasks)
    (hstatus : t.status = .completed) :
    t.id ∈ (surplus limits tasks).map Task.id ↔
      t ∈ ((tasks.filter (·.status = .completed)).mergeSort keptBefore).drop
        limits.maxCompletedTasks.toNat := by
  rw [id_mem_surplus_iff h ht, mem_surplus_iff]
  refine or_iff_left fun hfailed => ?_
  rw [status_of_mem_drop hfailed] at hstatus
  cases hstatus

/-- A failed task is in the surplus if it is beyond the limit of failed tasks. -/
theorem id_mem_surplus_of_failed (h : (tasks.map Task.id).Nodup) (ht : t ∈ tasks)
    (hstatus : t.status = .failed) :
    t.id ∈ (surplus limits tasks).map Task.id ↔
      t ∈ ((tasks.filter (·.status = .failed)).mergeSort fun a b => b.updatedAt ≤ a.updatedAt).drop
        limits.maxFailedTasks.toNat := by
  rw [id_mem_surplus_iff h ht, mem_surplus_iff]
  refine or_iff_right fun hcompleted => ?_
  rw [status_of_mem_drop hcompleted] at hstatus
  cases hstatus

/-- Of the tasks of one status, those that are kept are the first ones in the order in which they
are kept. -/
theorem filter_status_perm_take {gone : List Task} {status : TaskStatus}
    {le : Task → Task → Bool} {n : Nat} (h : (tasks.map Task.id).Nodup)
    (hgone : ∀ t ∈ tasks, t.status = status →
      (t.id ∈ gone.map Task.id ↔ t ∈ ((tasks.filter (·.status = status)).mergeSort le).drop n)) :
    ((tasks.filter fun t => t.id ∉ gone.map Task.id).filter (·.status = status)).Perm
      (((tasks.filter (·.status = status)).mergeSort le).take n) := by
  have hperm := (tasks.filter (·.status = status)).mergeSort_perm le
  have hstatus : ∀ t ∈ tasks.filter (·.status = status), t ∈ tasks ∧ t.status = status :=
    fun t ht => ⟨List.mem_of_mem_filter ht, of_decide_eq_true (List.mem_filter.1 ht).2⟩
  generalize hsorted : (tasks.filter (·.status = status)).mergeSort le = sorted at hgone hperm ⊢
  have hnodup : sorted.Nodup := hperm.nodup_iff.2 (h.of_map.filter _)
  -- what is kept of the sorted tasks is what does not stand behind the first ones
  have hkept : sorted.filter (fun t => t.id ∉ gone.map Task.id) = sorted.take n := by
    rw [← List.take_append_drop n sorted] at hnodup
    have hdisjoint := (List.nodup_append.1 hnodup).2.2
    have hmem : ∀ t ∈ sorted, (t.id ∈ gone.map Task.id ↔ t ∈ sorted.drop n) := by
      intro t ht
      obtain ⟨hin, hst⟩ := hstatus t (hperm.mem_iff.1 ht)
      exact hgone t hin hst
    conv_lhs => rw [← List.take_append_drop n sorted]
    rw [List.filter_append, List.filter_eq_self.2, List.filter_eq_nil_iff.2, List.append_nil]
    · intro t ht
      simpa using (hmem t (List.mem_of_mem_drop ht)).2 ht
    · intro t ht
      refine decide_eq_true fun hc => ?_
      exact hdisjoint t ht t ((hmem t (List.mem_of_mem_take ht)).1 hc) rfl
  rw [← hkept, List.filter_comm]
  exact (hperm.filter _).symm

end Surplus

/-- The tasks of a session beyond the limits. -/
def surplusTasks (session : SessionKey) (limits : RetentionLimits) (s : Store) : List Task :=
  surplus limits ((s.ownTasks session).mergeSort isOlder)

theorem holds_surplusTasks (h : s.Filed) (session : SessionKey) (limits : RetentionLimits) :
    s.Holds (s.surplusTasks session limits) where
  nodup := nodup_surplus (nodup_listed h session) limits
  row := by
    intro t ht
    have hown := List.mem_mergeSort.1 (mem_of_mem_surplus ht)
    obtain ⟨r, hr, -⟩ := (mem_ownTasks_iff h).1 hown
    exact ⟨r, hr⟩

/-- **The surplus is dropped**, all of it, unless the store is poisoned. -/
theorem trimTasks_eq (h : s.Filed) (session : SessionKey) (limits : RetentionLimits) :
    s.trimTasks session limits =
      if s.poisoned then (.error .storePoisoned, s)
      else (.ok (s.surplusTasks session limits).length,
        s.dropTasks (s.surplusTasks session limits)) := by
  unfold trimTasks
  cases hpoisoned : s.poisoned with
  | true =>
    rw [tasks_eq, if_pos hpoisoned]
    rfl
  | false =>
    rw [tasks_eq_ownTasks hpoisoned]
    exact (holds_surplusTasks h session limits).deleteTasks_eq hpoisoned

theorem Filed.trimTasks (h : s.Filed) (session : SessionKey) (limits : RetentionLimits) :
    (s.trimTasks session limits).2.Filed := by
  rw [trimTasks_eq h]
  split
  · exact h
  · exact h.dropTasks _

/-! ## What trimming leaves -/

/-- The store `s'` is what trimming a session has left of the store `s`. -/
structure Trimmed (session : SessionKey) (limits : RetentionLimits) (s s' : Store) : Prop where
  settings : s'.settings = s.settings
  poisoned : s'.poisoned = s.poisoned
  /-- Other tables are as they were. -/
  tables : ∀ name, name ≠ Task.table → s'.tables.get? name = s.tables.get? name
  /-- Only the rows of surplus tasks are gone. -/
  rows : ∀ id, s'.taskRows.get? id =
    if id ∈ (s.surplusTasks session limits).map Task.id then none else s.taskRows.get? id
  /-- As many completed tasks are left as may be. -/
  completed : (s'.ownTasks session).countP (·.status = .completed) =
    min limits.maxCompletedTasks.toNat ((s.ownTasks session).countP (·.status = .completed))
  /-- As many failed tasks are left as may be. -/
  failed : (s'.ownTasks session).countP (·.status = .failed) =
    min limits.maxFailedTasks.toNat ((s.ownTasks session).countP (·.status = .failed))

/-- Of the tasks of one status as many are left as may be. -/
theorem countP_dropTasks (h : s.Filed) {status : TaskStatus} {le : Task → Task → Bool} {n : Nat}
    {gone : List Task}
    (hgone : ∀ t ∈ (s.ownTasks session).mergeSort isOlder, t.status = status →
      (t.id ∈ gone.map Task.id ↔
        t ∈ ((((s.ownTasks session).mergeSort isOlder).filter (·.status = status)).mergeSort
          le).drop n)) :
    ((s.dropTasks gone).ownTasks session).countP (·.status = status) =
      min n ((s.ownTasks session).countP (·.status = status)) := by
  have hperm := (s.ownTasks session).mergeSort_perm isOlder
  have hkept := (filter_status_perm_take (nodup_listed h session) hgone).length_eq
  rw [List.length_take, List.length_mergeSort, ← List.countP_eq_length_filter,
    ← List.countP_eq_length_filter, hperm.countP_eq, (hperm.filter _).countP_eq] at hkept
  rw [ownTasks_dropTasks h]
  exact hkept

/-- **What trimming leaves.**  In a store that is not poisoned the surplus tasks of the session
are gone, and nothing else is. -/
theorem trimmed_trimTasks (h : s.Filed) (hpoisoned : s.poisoned = false) (session : SessionKey)
    (limits : RetentionLimits) : s.Trimmed session limits (s.trimTasks session limits).2 := by
  have hnodup := nodup_listed h session
  have hafter : (s.trimTasks session limits).2 = s.dropTasks (s.surplusTasks session limits) := by
    rw [trimTasks_eq h, if_neg (by rw [hpoisoned]; exact Bool.false_ne_true)]
  rw [hafter]
  constructor
  · exact s.settings_dropTasks _
  · exact s.poisoned_dropTasks _
  · exact fun name => s.get?_dropTasks_of_ne _
  · exact s.get?_taskRows_dropTasks _
  · exact countP_dropTasks h fun t ht => id_mem_surplus_of_completed hnodup ht
  · exact countP_dropTasks h fun t ht => id_mem_surplus_of_failed hnodup ht

/-- A row is dropped for each task that is counted; where trimming fails, none is. -/
theorem size_trimTasks (h : s.Filed) (session : SessionKey) (limits : RetentionLimits) :
    (s.trimTasks session limits).2.taskRows.size +
        (s.trimTasks session limits).1.toOption.getD 0 = s.taskRows.size := by
  rw [trimTasks_eq h]
  cases s.poisoned with
  | true => rfl
  | false => exact (holds_surplusTasks h session limits).size_dropTasks

end Store

end SessionTasks
