/-
# Changes that are merged

A change gives some fields of a task and some of its notes, and leaves the others alone.  So two
changes that give different parts may come in either order, and a series of changes is one change
that gives, for each part, what was given last.

* `TaskUpdate.apply_apply` : two changes at one time are one, unless both give a status;
* `TaskUpdate.lastGiven_cons` : what is given last, change by change;
* `Store.merges_of_canonical` : changes to different parts lose nothing, and a series of changes
  without a status comes to what was given last.
-/
import SessionTasks.Proofs.Task.Rewriting
namespace SessionTasks

/-! ## Merged maps -/

namespace KeyMap

variable {α : Type}

/-- Of the entries that are inserted under a key the last counts. -/
theorem get?_foldl_insert (entries : List (String × α)) (m : KeyMap α) (key : String) :
    (entries.foldl (fun m e => m.insert e.1 e.2) m).get? key =
      (Entries.get? key entries.reverse).or (m.get? key) := by
  unfold get?
  rw [entries_foldl_insert, Entries.get?_foldl_insert]

/-- Under each key stands what the second map has there, or else what the first one has. -/
theorem get?_merge (m n : KeyMap α) (key : String) :
    (m.merge n).get? key = (n.get? key).or (m.get? key) := by
  unfold merge
  rw [get?_foldl_insert, n.sorted.get?_reverse]
  rfl

/-- Merging into an empty map is the other one. -/
theorem empty_merge (m : KeyMap α) : (empty : KeyMap α).merge m = m := by
  refine ext_get? fun key => ?_
  rw [get?_merge, get?_empty, Option.or_none]

theorem merge_assoc (l m n : KeyMap α) : (l.merge m).merge n = l.merge (m.merge n) := by
  refine ext_get? fun key => ?_
  rw [get?_merge, get?_merge, get?_merge, get?_merge, Option.or_assoc]

/-- Maps without a common key can be merged in either order. -/
theorem merge_comm {m n : KeyMap α} (h : ∀ key, m.get? key = none ∨ n.get? key = none) :
    m.merge n = n.merge m := by
  refine ext_get? fun key => ?_
  rw [get?_merge, get?_merge]
  rcases h key with hnone | hnone <;> rw [hnone, Option.or_none, Option.none_or]

/-- The entries of a map, and others behind them. -/
theorem ofList_entries_append (m : KeyMap α) (entries : List (String × α)) :
    ofList (m.entries ++ entries) = m.merge (ofList entries) := by
  refine ext_get? fun key => ?_
  rw [get?_merge]
  unfold ofList
  rw [get?_foldl_insert, get?_foldl_insert, List.reverse_append, Entries.get?_append,
    m.sorted.get?_reverse, get?_empty, Option.or_none, Option.or_none]
  rfl

end KeyMap

/-- What a task has noted down under a key. -/
def Task.note? (t : Task) (key : String) : Option Json := t.metadata.bind (·.get? key)

/-- Of the notes of two maps, either of which may be missing, those of the second one count. -/
theorem get?_optionMerge (m n : Option (KeyMap Json)) (key : String) :
    (m.merge KeyMap.merge n).bind (·.get? key) =
      (n.bind (·.get? key)).or (m.bind (·.get? key)) := by
  cases m with
  | none => cases n <;> simp [Option.merge]
  | some m =>
    cases n with
    | none => rfl
    | some n => exact KeyMap.get?_merge m n key

namespace TaskUpdate

variable {u v : TaskUpdate} {t t' : Task} {now : Int64}

/-! ## Two changes -/

/-- What a change makes of a task, field by field. -/
theorem apply_eq (u : TaskUpdate) (t : Task) (now : Int64) :
    u.apply t now = { t with
      status := u.status.getD t.status
      startedAt := if u.status = some .running then some (t.startedAt.getD now) else t.startedAt
      completedAt :=
        if u.status = some .completed then some (t.completedAt.getD now) else t.completedAt
      progress := (u.progress.map Binary64.clampPercent).getD t.progress
      currentStep := u.currentStep.or t.currentStep
      currentStepDescription := u.currentStepDescription.or t.currentStepDescription
      error := u.error.or t.error
      metadata := t.metadata.merge KeyMap.merge u.metadata
      updatedAt := now } := by
  have hnone : t.metadata.merge KeyMap.merge none = t.metadata := by
    cases t.metadata <;> rfl
  have hsome : ∀ notes, t.metadata.merge KeyMap.merge (some notes) =
      some ((t.metadata.getD .empty).merge notes) := by
    intro notes
    cases t.metadata with
    | none => exact (congrArg some notes.empty_merge).symm
    | some old => rfl
  unfold apply stampStatus
  cases u.metadata with
  | none =>
    rw [hnone]
    cases u.status with
    | none => rfl
    | some status => cases status <;> rfl
  | some notes =>
    rw [hsome]
    cases u.status with
    | none => rfl
    | some status => cases status <;> rfl

/-- The change that gives what either change gives; where both do, the second one counts. -/
def merge (u v : TaskUpdate) : TaskUpdate where
  status := v.status.or u.status
  progress := v.progress.or u.progress
  currentStep := v.currentStep.or u.currentStep
  currentStepDescription := v.currentStepDescription.or u.currentStepDescription
  error := v.error.or u.error
  metadata := u.metadata.merge KeyMap.merge v.metadata

/-- **Two changes at one time are one**, unless both give a status. -/
theorem apply_apply (h : u.status = none ∨ v.status = none) (t : Task) (now : Int64) :
    v.apply (u.apply t now) now = (u.merge v).apply t now := by
  have hassoc : ∀ l m n : Option (KeyMap Json), (l.merge KeyMap.merge m).merge KeyMap.merge n =
      l.merge KeyMap.merge (m.merge KeyMap.merge n) := by
    intro l m n
    cases l <;> cases m <;> cases n <;> simp [Option.merge, KeyMap.merge_assoc]
  rw [apply_eq v, apply_eq u, apply_eq (u.merge v)]
  unfold merge
  dsimp only
  rw [hassoc, Option.or_assoc, Option.or_assoc, Option.or_assoc]
  congr 1
  · cases v.status <;> rfl
  · cases v.progress <;> rfl
  · rcases h with h | h <;> rw [h]
    · cases v.status <;> rfl
    · rfl
  · rcases h with h | h <;> rw [h]
    · cases v.status <;> rfl
    · rfl

/-- The changes give no common field, and no common note. -/
structure Disjoint (u v : TaskUpdate) : Prop where
  status : u.status = none ∨ v.status = none
  progress : u.progress = none ∨ v.progress = none
  currentStep : u.currentStep = none ∨ v.currentStep = none
  currentStepDescription : u.currentStepDescription = none ∨ v.currentStepDescription = none
  error : u.error = none ∨ v.error = none
  metadata : ∀ m ∈ u.metadata, ∀ n ∈ v.metadata, ∀ key, m.get? key = none ∨ n.get? key = none

/-- Changes that give no common field may be merged in either order. -/
theorem merge_comm (h : u.Disjoint v) : u.merge v = v.merge u := by
  have hor : ∀ {α : Type} {x y : Option α}, x = none ∨ y = none → y.or x = x.or y := by
    rintro α x y (rfl | rfl)
    · rw [Option.or_none, Option.none_or]
    · rw [Option.or_none, Option.none_or]
  have hnotes : u.metadata.merge KeyMap.merge v.metadata =
      v.metadata.merge KeyMap.merge u.metadata := by
    cases hu : u.metadata with
    | none => cases v.metadata <;> rfl
    | some m =>
      cases hv : v.metadata with
      | none => rfl
      | some n => exact congrArg some (KeyMap.merge_comm (h.metadata m hu n hv))
  unfold merge
  rw [hor h.status, hor h.progress, hor h.currentStep, hor h.currentStepDescription, hor h.error,
    hnotes]

/-- The task has all that the change gives. -/
structure CarriedBy (u : TaskUpdate) (t : Task) : Prop where
  status : ∀ status ∈ u.status, t.status = status
  progress : ∀ progress ∈ u.progress, t.progress = progress.clampPercent
  currentStep : ∀ step ∈ u.currentStep, t.currentStep = some step
  currentStepDescription :
    ∀ description ∈ u.currentStepDescription, t.currentStepDescription = some description
  error : ∀ error ∈ u.error, t.error = some error
  metadata : ∀ notes ∈ u.metadata, ∀ key value, notes.get? key = some value →
    t.note? key = some value

/-- A task carries the change that was made to it. -/
theorem carriedBy_apply (u : TaskUpdate) (t : Task) (now : Int64) :
    u.CarriedBy (u.apply t now) := by
  rw [apply_eq]
  constructor
  · intro status h
    show u.status.getD t.status = status
    rw [h, Option.getD_some]
  · intro progress h
    show (u.progress.map Binary64.clampPercent).getD t.progress = progress.clampPercent
    rw [h, Option.map_some, Option.getD_some]
  · intro step h
    show u.currentStep.or t.currentStep = some step
    rw [h, Option.some_or]
  · intro description h
    show u.currentStepDescription.or t.currentStepDescription = some description
    rw [h, Option.some_or]
  · intro error h
    show u.error.or t.error = some error
    rw [h, Option.some_or]
  · intro notes h key value hvalue
    show (t.metadata.merge KeyMap.merge u.metadata).bind (·.get? key) = some value
    rw [get?_optionMerge, h, Option.bind_some, hvalue, Option.some_or]

/-! ## A series of changes -/

/-- The change that gives, for each field but the status and for each note, what was given last. -/
def lastGiven (changes : List TaskUpdate) : TaskUpdate where
  status := none
  progress := (changes.filterMap progress).getLast?
  currentStep := (changes.filterMap currentStep).getLast?
  currentStepDescription := (changes.filterMap currentStepDescription).getLast?
  error := (changes.filterMap error).getLast?
  metadata :=
    match changes.filterMap metadata with
    | [] => none
    | maps => some (.ofList (maps.flatMap KeyMap.entries))

/-- The last value that is given comes from the rest, or else from the first. -/
theorem getLast?_filterMap_cons {α β : Type} (f : α → Option β) (a : α) (rest : List α) :
    ((a :: rest).filterMap f).getLast? = (rest.filterMap f).getLast?.or (f a) := by
  rw [List.filterMap_cons]
  cases f a with
  | none => exact (Option.or_none).symm
  | some b =>
    rw [List.getLast?_cons]
    cases (rest.filterMap f).getLast? <;> rfl

/-- The metadata of some changes are merged in their order. -/
theorem metadata_lastGiven_cons (u : TaskUpdate) (rest : List TaskUpdate) :
    (lastGiven (u :: rest)).metadata =
      u.metadata.merge KeyMap.merge (lastGiven rest).metadata := by
  unfold lastGiven
  dsimp only
  rw [List.filterMap_cons]
  cases u.metadata with
  | none => cases rest.filterMap metadata <;> rfl
  | some m =>
    cases rest.filterMap metadata with
    | nil =>
      have hempty : KeyMap.ofList (m.entries ++ []) = m := by
        rw [List.append_nil, KeyMap.ofList_entries]
      exact congrArg some hempty
    | cons n maps => exact congrArg some (m.ofList_entries_append _)

/-- **What is given last**, change by change. -/
theorem lastGiven_cons (h : u.status = none) (rest : List TaskUpdate) :
    lastGiven (u :: rest) = u.merge (lastGiven rest) := by
  have hparts : lastGiven (u :: rest) =
      { lastGiven (u :: rest) with
        metadata := u.metadata.merge KeyMap.merge (lastGiven rest).metadata } := by
    rw [← metadata_lastGiven_cons]
  rw [hparts]
  unfold merge lastGiven
  dsimp only
  rw [getLast?_filterMap_cons, getLast?_filterMap_cons, getLast?_filterMap_cons,
    getLast?_filterMap_cons, h]
  rfl

/-- A single change gives last what it gives at all. -/
theorem lastGiven_singleton (h : u.status = none) : lastGiven [u] = u := by
  have hnotes : u.metadata.merge KeyMap.merge (lastGiven []).metadata = u.metadata := by
    cases u.metadata <;> rfl
  rw [lastGiven_cons h]
  unfold merge
  rw [hnotes, h]
  show { u with status := none } = u
  rw [← h]

/-- The note that is given last under a key. -/
theorem note_lastGiven (changes : List TaskUpdate) (key : String) :
    (lastGiven changes).metadata.bind (·.get? key) =
      (changes.filterMap fun u => u.metadata.bind (·.get? key)).getLast? := by
  induction changes with
  | nil => rfl
  | cons u rest ih =>
    rw [metadata_lastGiven_cons, get?_optionMerge, ih,
      getLast?_filterMap_cons fun u : TaskUpdate => u.metadata.bind (·.get? key)]

/-- The notes of a task after a change are those that the change gives, and the others. -/
theorem note?_apply (u : TaskUpdate) (t : Task) (now : Int64) (key : String) :
    (u.apply t now).note? key = (u.metadata.bind (·.get? key)).or (t.note? key) := by
  rw [apply_eq]
  exact get?_optionMerge t.metadata u.metadata key

end TaskUpdate

/-! ## Changes to a stored task -/

namespace Store

variable {s : Store} {session : SessionKey} {id : String} {r : Record} {t : Task}

/-- Merges several changes into a task, one after the other, at one time. -/
def updateEach (session : SessionKey) (id : String) (now : Int64) (s : Store) (u : TaskUpdate) :
    List TaskUpdate → Except Failure Task × Store
  | [] => s.updateTask session id now u
  | v :: rest => (s.updateTask session id now u).2.updateEach session id now v rest

/-- A change to a stored task answers with the task after the change, and leaves it in its row. -/
theorem updateTask_eq_of_hasTask (h : s.HasTask session id r t) (now : Int64) (u : TaskUpdate) :
    s.updateTask session id now u =
      (.ok (u.apply t now), s.setRow id (keptRow r (u.apply t now).toRecord)) :=
  modifyTask_eq_of_hasTask h (u.preserves_apply now) (u.isFinite_apply h.finite now)

/-- Two changes to a stored task, one after the other, are one, unless both give a status. -/
theorem updateTask_updateTask (h : s.HasTask session id r t) {u v : TaskUpdate}
    (hstatus : u.status = none ∨ v.status = none) (now : Int64) :
    (s.updateTask session id now u).2.updateTask session id now v =
      s.updateTask session id now (u.merge v) := by
  have hfinite := u.isFinite_apply h.finite now
  unfold updateTask
  rw [modifyTask_modifyTask h (u.preserves_apply now) (v.preserves_apply now) hfinite
    (v.isFinite_apply hfinite now)]
  exact congrArg (s.modifyTask session id)
    (funext fun t => TaskUpdate.apply_apply hstatus t now)

/-- A series of changes without a status comes to what was given last. -/
theorem updateEach_eq (h : s.HasTask session id r t) (now : Int64) {u : TaskUpdate}
    {rest : List TaskUpdate} (hstatus : ∀ v ∈ u :: rest, v.status = none) :
    s.updateEach session id now u rest =
      s.updateTask session id now (.lastGiven (u :: rest)) := by
  have hfirst := hstatus u List.mem_cons_self
  induction rest generalizing s r t u with
  | nil =>
    rw [TaskUpdate.lastGiven_singleton hfirst]
    rfl
  | cons v rest ih =>
    have hrest : ∀ w ∈ v :: rest, w.status = none := fun w hw =>
      hstatus w (List.mem_cons_of_mem u hw)
    have hnext := h.setRow ((u.preserves_apply now).id t) ((u.preserves_apply now).sessionKey t)
      (u.isFinite_apply h.finite now)
    have hstore : (s.updateTask session id now u).2 =
        s.setRow id (keptRow r (u.apply t now).toRecord) := by
      rw [updateTask_eq_of_hasTask h]
    rw [← hstore] at hnext
    calc s.updateEach session id now u (v :: rest)
        = (s.updateTask session id now u).2.updateTask session id now
            (.lastGiven (v :: rest)) := ih hnext hrest (hrest v List.mem_cons_self)
      _ = s.updateTask session id now (u.merge (.lastGiven (v :: rest))) :=
          updateTask_updateTask h (Or.inl hfirst) now
      _ = s.updateTask session id now (.lastGiven (u :: v :: rest)) := by
          rw [TaskUpdate.lastGiven_cons hfirst]

/-- What comes of changes that are made to the stored task `t` at one time. -/
structure Merges (s : Store) (session : SessionKey) (id : String) (t : Task) (now : Int64) :
    Prop where
  /-- Changes that give different parts may come in either order. -/
  comm : ∀ u v : TaskUpdate, u.Disjoint v →
    (s.updateTask session id now u).2.updateTask session id now v =
      (s.updateTask session id now v).2.updateTask session id now u
  /-- Neither is lost. -/
  both : ∀ u v : TaskUpdate, u.Disjoint v → ∃ t' s',
    (s.updateTask session id now u).2.updateTask session id now v = (.ok t', s') ∧
      s'.task session id = .ok t' ∧ u.CarriedBy t' ∧ v.CarriedBy t'
  /-- Of a series of changes the last value counts that is given for a part. -/
  last : ∀ (u : TaskUpdate) (rest : List TaskUpdate), (∀ v ∈ u :: rest, v.status = none) →
    s.updateEach session id now u rest =
      s.updateTask session id now (.lastGiven (u :: rest))
  /-- The last note of a key counts, and what none of them gives stays. -/
  notes : ∀ (u : TaskUpdate) (rest : List TaskUpdate), (∀ v ∈ u :: rest, v.status = none) →
    ∃ t' s', s.updateEach session id now u rest = (.ok t', s') ∧ s'.task session id = .ok t' ∧
      ∀ key, t'.note? key =
        ((u :: rest).filterMap fun v => v.metadata.bind (·.get? key)).getLast?.or (t.note? key)

/-- A task is answered as it was updated. -/
theorem task_updateTask (h : s.HasTask session id r t) (now : Int64) (u : TaskUpdate) :
    ∃ s', s.updateTask session id now u = (.ok (u.apply t now), s') ∧
      s'.task session id = .ok (u.apply t now) := by
  have hnext := h.setRow ((u.preserves_apply now).id t) ((u.preserves_apply now).sessionKey t)
    (u.isFinite_apply h.finite now)
  exact ⟨_, updateTask_eq_of_hasTask h now u, hnext.task⟩

/-- **Changes to different parts of a task are never lost**, and a series of changes without a
status is one change that gives, for each part, what was given last. -/
theorem merges_of_canonical (hr : s.find? Task.table id = .ok (some r)) (hcanonical : r.Canonical)
    (ht : Task.ofRecord r = .ok t) (howner : t.sessionKey = session.text) (now : Int64) :
    s.Merges session id t now := by
  have h : s.HasTask session id r t := .of_canonical hr hcanonical ht howner
  constructor
  · intro u v hdisjoint
    rw [updateTask_updateTask h hdisjoint.status, updateTask_updateTask h hdisjoint.status.symm,
      TaskUpdate.merge_comm hdisjoint]
  · intro u v hdisjoint
    obtain ⟨s', hupdate, htask⟩ := task_updateTask h now (u.merge v)
    refine ⟨_, s', (updateTask_updateTask h hdisjoint.status now).trans hupdate, htask, ?_, ?_⟩
    · rw [TaskUpdate.merge_comm hdisjoint, ← TaskUpdate.apply_apply hdisjoint.status.symm]
      exact u.carriedBy_apply _ now
    · rw [← TaskUpdate.apply_apply hdisjoint.status]
      exact v.carriedBy_apply _ now
  · exact fun u rest hstatus => updateEach_eq h now hstatus
  · intro u rest hstatus
    obtain ⟨s', hupdate, htask⟩ := task_updateTask h now (.lastGiven (u :: rest))
    refine ⟨_, s', (updateEach_eq h now hstatus).trans hupdate, htask, fun key => ?_⟩
    rw [TaskUpdate.note?_apply, TaskUpdate.note_lastGiven]

theorem merges_of_canonical_noted :
    notedStore.find? Task.table "t" = .ok (some notedRow) ∧ notedRow.Canonical ∧
      Task.ofRecord notedRow = .ok notedTask ∧
      notedTask.sessionKey = (SessionKey.sanitize "a").text ∧
      notedStore.Merges (.sanitize "a") "t" notedTask 9 := by
  have hr : notedStore.find? Task.table "t" = .ok (some notedRow) := by decide +kernel
  have ht : Task.ofRecord notedRow = .ok notedTask := by decide +kernel
  have howner : notedTask.sessionKey = (SessionKey.sanitize "a").text := rfl
  exact ⟨hr, canonical_notedRow, ht, howner,
    merges_of_canonical hr canonical_notedRow ht howner 9⟩

end Store

end SessionTasks
