/-
# The fields of a task

* `Task.ofJson?_eq_some_iff` : a value is read as a task when each of its fields is read;
* `Task.sessionKey_of_ofRecord` : the owner of a task is named in a column of its row.
-/
import SessionTasks.Proofs.Record
import SessionTasks.Task
namespace SessionTasks.Task

/-! ## Reading -/

/-- The fields are those of the task. -/
structure ReadFrom (f : Json.Fields) (t : Task) : Prop where
  id : f.required? "id" Json.text? = some t.id
  name : f.required? "name" Json.text? = some t.name
  description : f.optional? "description" Json.text? = some t.description
  status : f.required? "status" TaskStatus.ofJson? = some t.status
  progress : f.required? "progress" Json.double? = some t.progress
  currentStep : f.optional? "currentStep" Json.text? = some t.currentStep
  currentStepDescription :
    f.optional? "currentStepDescription" Json.text? = some t.currentStepDescription
  createdAt : f.required? "createdAt" Json.stamp? = some t.createdAt
  updatedAt : f.required? "updatedAt" Json.stamp? = some t.updatedAt
  startedAt : f.optional? "startedAt" Json.stamp? = some t.startedAt
  completedAt : f.optional? "completedAt" Json.stamp? = some t.completedAt
  error : f.optional? "error" Json.text? = some t.error
  metadata : f.optional? "metadata" Json.map? = some t.metadata
  sessionKey : f.required? "sessionKey" Json.text? = some t.sessionKey
  userId : f.optional? "userId" Json.text? = some t.userId
  ipAddress : f.optional? "ipAddress" Json.text? = some t.ipAddress

/-- **Reading a task** is reading its fields. -/
theorem ofJson?_eq_some_iff {v : Json} {t : Task} :
    ofJson? v = some t ↔ ∃ f, v.fields? .json fieldNames = some f ∧ t.ReadFrom f := by
  constructor
  · intro h
    obtain ⟨f, hf, h⟩ := Option.bind_eq_some_iff.1 h
    obtain ⟨id, hid, h⟩ := Option.bind_eq_some_iff.1 h
    obtain ⟨name, hname, h⟩ := Option.bind_eq_some_iff.1 h
    obtain ⟨description, hdescription, h⟩ := Option.bind_eq_some_iff.1 h
    obtain ⟨status, hstatus, h⟩ := Option.bind_eq_some_iff.1 h
    obtain ⟨progress, hprogress, h⟩ := Option.bind_eq_some_iff.1 h
    obtain ⟨step, hstep, h⟩ := Option.bind_eq_some_iff.1 h
    obtain ⟨stepDescription, hstepDescription, h⟩ := Option.bind_eq_some_iff.1 h
    obtain ⟨createdAt, hcreatedAt, h⟩ := Option.bind_eq_some_iff.1 h
    obtain ⟨updatedAt, hupdatedAt, h⟩ := Option.bind_eq_some_iff.1 h
    obtain ⟨startedAt, hstartedAt, h⟩ := Option.bind_eq_some_iff.1 h
    obtain ⟨completedAt, hcompletedAt, h⟩ := Option.bind_eq_some_iff.1 h
    obtain ⟨error, herror, h⟩ := Option.bind_eq_some_iff.1 h
    obtain ⟨metadata, hmetadata, h⟩ := Option.bind_eq_some_iff.1 h
    obtain ⟨sessionKey, hsessionKey, h⟩ := Option.bind_eq_some_iff.1 h
    obtain ⟨userId, huserId, h⟩ := Option.bind_eq_some_iff.1 h
    obtain ⟨ipAddress, hipAddress, h⟩ := Option.bind_eq_some_iff.1 h
    cases h
    exact ⟨f, hf, hid, hname, hdescription, hstatus, hprogress, hstep, hstepDescription,
      hcreatedAt, hupdatedAt, hstartedAt, hcompletedAt, herror, hmetadata, hsessionKey, huserId,
      hipAddress⟩
  · rintro ⟨f, hf, h⟩
    unfold ofJson?
    rw [hf, Option.bind_eq_bind, Option.bind_some, h.id, h.name, h.description, h.status,
      h.progress, h.currentStep, h.currentStepDescription, h.createdAt, h.updatedAt, h.startedAt,
      h.completedAt, h.error, h.metadata, h.sessionKey, h.userId, h.ipAddress]
    rfl

/-- The fields of a row are its columns. -/
theorem ofRecord_eq_ok_iff {r : Record} {t : Task} :
    ofRecord r = .ok t ↔ t.ReadFrom ⟨fun name => r.toJson.field? name⟩ := by
  have hread : ofJson? r.toJson = some t ↔ t.ReadFrom ⟨fun name => r.toJson.field? name⟩ := by
    rw [ofJson?_eq_some_iff]
    constructor
    · rintro ⟨f, hf, h⟩
      cases hf
      exact h
    · intro h
      exact ⟨_, rfl, h⟩
  rw [← hread]
  unfold ofRecord
  split
  · rename_i t' ht
    rw [ht, Except.ok.injEq, Option.some.injEq]
  · rename_i hnone
    simp [hnone]

theorem eq_str_of_text? {v : Json} {text : String} (h : v.text? = some text) : v = .str text := by
  unfold Json.text? at h
  split at h
  · cases h
    rfl
  · cases h

/-- The identifier of a task is the one of its row. -/
theorem id_of_ofRecord {r : Record} {t : Task} (h : ofRecord r = .ok t) : t.id = r.id := by
  obtain ⟨v, hv, htext⟩ := Option.bind_eq_some_iff.1 (ofRecord_eq_ok_iff.1 h).id
  dsimp only at hv
  rw [r.field?_toJson_id] at hv
  cases hv
  exact (Option.some.inj htext).symm

/-- The owner of a task is named in a column of its row. -/
theorem sessionKey_of_ofRecord {r : Record} {t : Task} (h : ofRecord r = .ok t) :
    r.fields.get? "sessionKey" = some (.str t.sessionKey) := by
  obtain ⟨v, hv, htext⟩ := Option.bind_eq_some_iff.1 (ofRecord_eq_ok_iff.1 h).sessionKey
  dsimp only at hv
  rw [r.field?_toJson_of_not_reserved (by decide)] at hv
  rw [hv, eq_str_of_text? htext]

/-! ## Writing -/

theorem names_column {α : Type} (name : String) (encode : α → Json) (value : Option α) :
    ((column name encode value).map Prod.fst).Sublist [name] := by
  cases value with
  | none => exact List.nil_sublist _
  | some v => exact List.Sublist.refl _

/-- The columns of a task are its fields but the identifier, in their order. -/
theorem names_columns (t : Task) : (t.columns.map Prod.fst).Sublist fieldNames.tail := by
  show (t.columns.map Prod.fst).Sublist
    (["name"] ++ ["description"] ++ ["status", "progress"] ++ ["currentStep"]
      ++ ["currentStepDescription"] ++ ["createdAt", "updatedAt"] ++ ["startedAt"]
      ++ ["completedAt"] ++ ["error"] ++ ["metadata"] ++ ["sessionKey"] ++ ["userId"]
      ++ ["ipAddress"])
  unfold columns
  simp only [List.map_append]
  repeat' apply List.Sublist.append
  all_goals first | exact names_column _ _ _ | exact List.Sublist.refl _

/-- The row of a task lies under its identifier. -/
@[simp] theorem id_toRecord (t : Task) : t.toRecord.id = t.id := by
  unfold toRecord
  refine Record.id_setAll fun e he hid => ?_
  have hname := (names_columns t).subset (List.mem_map_of_mem he)
  rw [hid] at hname
  exact absurd hname (by decide)

end SessionTasks.Task
