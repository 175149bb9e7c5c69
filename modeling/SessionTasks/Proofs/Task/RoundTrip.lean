/-
# Tasks read back from their rows

The columns of a task are one column for each field that is set, and the names of fields are
distinct, so that reading finds each field under its name.  Only a progress that is not finite
is lost.

* `Task.get?_toRecord` : what stands under the name of a field;
* `Task.ofRecord_of_fields` : a row that has the columns of a task is read as that task, under
  the identifier of the row.
-/
import SessionTasks.Proofs.Task.Fields
namespace SessionTasks

/-! ## Columns that may be unset -/

namespace Entries

/-- The entries that have a value. -/
def given {α : Type} (slots : List (String × Option α)) : List (String × α) :=
  slots.flatMap fun e => (e.2.map fun v => (e.1, v)).toList

/-- Among names that are distinct, what stands under a name is the value of its slot. -/
theorem get?_reverse_given {α : Type} {slots : List (String × Option α)}
    (hnodup : (slots.map Prod.fst).Nodup) {e : String × Option α} (he : e ∈ slots) :
    get? e.1 (given slots).reverse = e.2 := by
  induction slots with
  | nil => cases he
  | cons first rest ih =>
    obtain ⟨hfirst, hrest⟩ := List.nodup_cons.1 hnodup
    have hsplit : (given (first :: rest)).reverse =
        (given rest).reverse ++ (first.2.map fun v => (first.1, v)).toList := by
      unfold given
      rw [List.flatMap_cons, List.reverse_append]
      cases first.2 <;> rfl
    rw [hsplit, get?_append]
    rcases List.mem_cons.1 he with rfl | he
    · -- the slots behind it have other names
      have hnone : get? e.1 (given rest).reverse = none := by
        refine get?_eq_none_iff.2 fun other hother heq => hfirst ?_
        obtain ⟨slot, hslot, hmem⟩ := List.mem_flatMap.1 (List.mem_reverse.1 hother)
        obtain ⟨v, -, rfl⟩ := Option.map_eq_some_iff.1 (Option.mem_toList.1 hmem)
        rw [← heq]
        exact List.mem_map_of_mem hslot
      rw [hnone, Option.none_or]
      cases e.2 with
      | none => rfl
      | some v => simp [get?]
    · have hne : first.1 ≠ e.1 := by
        intro heq
        exact hfirst (heq ▸ List.mem_map_of_mem he)
      have hother : get? e.1 (first.2.map fun v => (first.1, v)).toList = none := by
        cases first.2 with
        | none => rfl
        | some v => simp [get?, hne]
      rw [ih hrest he, hother, Option.or_none]

end Entries

namespace Task

/-! ## The columns of a task -/

/-- The fields of a task but the identifier, with their values. -/
def slots (t : Task) : List (String × Option Json) :=
  [("name", some (.str t.name)), ("description", t.description.map .str),
    ("status", some (.str t.status.name)), ("progress", some (.ofDouble t.progress)),
    ("currentStep", t.currentStep.map .str),
    ("currentStepDescription", t.currentStepDescription.map .str),
    ("createdAt", some (.ofStamp t.createdAt)), ("updatedAt", some (.ofStamp t.updatedAt)),
    ("startedAt", t.startedAt.map .ofStamp), ("completedAt", t.completedAt.map .ofStamp),
    ("error", t.error.map .str), ("metadata", t.metadata.map .ofMap),
    ("sessionKey", some (.str t.sessionKey)), ("userId", t.userId.map .str),
    ("ipAddress", t.ipAddress.map .str)]

theorem names_slots (t : Task) : t.slots.map Prod.fst = fieldNames.tail := rfl

theorem columns_eq_given (t : Task) : t.columns = Entries.given t.slots := by
  have hcolumn : ∀ {α : Type} (name : String) (encode : α → Json) (value : Option α),
      column name encode value = ((value.map encode).map fun v => (name, v)).toList := by
    intro α name encode value
    cases value <;> rfl
  unfold columns Entries.given slots
  simp only [hcolumn, List.flatMap_cons, List.flatMap_nil, Option.map_some, Option.toList_some,
    List.append_assoc, List.cons_append, List.nil_append, List.append_nil]

theorem not_reserved_of_mem_slots {t : Task} {e : String × Option Json} (he : e ∈ t.slots) :
    e.1 ∉ reservedColumns := by
  have hname : e.1 ∈ fieldNames.tail := by
    rw [← t.names_slots]
    exact List.mem_map_of_mem he
  have hdisjoint : ∀ name ∈ fieldNames.tail, name ∉ reservedColumns := by decide
  exact hdisjoint e.1 hname

/-- **What stands under the name of a field.** -/
theorem get?_toRecord (t : Task) {e : String × Option Json} (he : e ∈ t.slots) :
    t.toRecord.fields.get? e.1 = e.2 := by
  unfold toRecord
  rw [Record.get?_setAll (not_reserved_of_mem_slots he), columns_eq_given,
    Entries.get?_reverse_given (by rw [names_slots]; decide) he]
  exact Option.or_none

/-- The row of a task names its owner. -/
theorem sessionKey_toRecord (t : Task) :
    t.toRecord.fields.get? "sessionKey" = some (.str t.sessionKey) :=
  t.get?_toRecord (e := ("sessionKey", some (.str t.sessionKey))) (by simp [slots])

end Task

/-! ## Reading a field back -/

namespace Json.Fields

variable {α : Type} {f : Fields} {name : String} {encode : α → Json} {decode : Json → Option α}

theorem required?_of_given {a : α} (hgiven : f.given? name = some (encode a))
    (hread : ∀ a, decode (encode a) = some a) : f.required? name decode = some a := by
  unfold required?
  rw [hgiven]
  exact hread a

/-- A field that may be unset is read back if no value of it is written as `null`. -/
theorem optional?_of_given {value : Option α} (hgiven : f.given? name = value.map encode)
    (hread : ∀ a, decode (encode a) = some a) (hnull : ∀ a, encode a ≠ .null) :
    f.optional? name decode = some value := by
  unfold optional?
  rw [hgiven]
  cases value with
  | none => rfl
  | some a =>
    rw [Option.map_some]
    split
    · rename_i h
      cases h
    · rename_i h
      exact absurd (Option.some.inj h) (hnull a)
    · rename_i v h
      rw [← Option.some.inj h, hread]
      rfl

end Json.Fields

namespace Task

theorem status_ofJson?_name (s : TaskStatus) : TaskStatus.ofJson? (.str s.name) = some s := by
  cases s <;> rfl

theorem map?_ofMap (m : KeyMap Json) : (Json.ofMap m).map? = some m := by
  show some (KeyMap.ofList m.entries) = some m
  rw [KeyMap.ofList_entries]

variable {t t' : Task} {r : Record}

/-- A progress is read back exactly if it is finite. -/
theorem double?_ofDouble_eq_some_iff {x y : Binary64} :
    (Json.ofDouble x).double? = some y ↔ x.isFinite = true ∧ x = y := by
  unfold Json.ofDouble
  cases hx : x.isFinite with
  | true => simp [Json.double?]
  | false => simp [Json.double?]

/-- A row that has the columns of a task has its fields, if the progress is finite. -/
theorem readFrom_of_fields (hr : r.fields = t.toRecord.fields)
    (hfinite : t.progress.isFinite = true) :
    ReadFrom ⟨fun name => r.toJson.field? name⟩ { t with id := r.id } := by
  have hgiven : ∀ name v, (name, v) ∈ t.slots → r.toJson.field? name = v := by
    intro name v he
    rw [r.field?_toJson_of_not_reserved (not_reserved_of_mem_slots he), hr]
    exact t.get?_toRecord he
  -- texts and times, that are always set or may be unset
  have htext : ∀ name s, (name, some (Json.str s)) ∈ t.slots →
      Json.Fields.required? ⟨fun name => r.toJson.field? name⟩ name Json.text? = some s :=
    fun name s he => Json.Fields.required?_of_given (hgiven name _ he) fun _ => rfl
  have htext? : ∀ name (s : Option String), (name, s.map Json.str) ∈ t.slots →
      Json.Fields.optional? ⟨fun name => r.toJson.field? name⟩ name Json.text? = some s :=
    fun name s he => Json.Fields.optional?_of_given (hgiven name _ he) (fun _ => rfl) (by simp)
  have hstamp : ∀ name d, (name, some (Json.ofStamp d)) ∈ t.slots →
      Json.Fields.required? ⟨fun name => r.toJson.field? name⟩ name Json.stamp? = some d :=
    fun name d he => Json.Fields.required?_of_given (hgiven name _ he) Record.stamp?_ofStamp
  have hstamp? : ∀ name (d : Option Int64), (name, d.map Json.ofStamp) ∈ t.slots →
      Json.Fields.optional? ⟨fun name => r.toJson.field? name⟩ name Json.stamp? = some d :=
    fun name d he =>
      Json.Fields.optional?_of_given (hgiven name _ he) Record.stamp?_ofStamp (by simp [Json.ofStamp])
  constructor
  case id => exact Json.Fields.required?_of_given r.field?_toJson_id fun _ => rfl
  case name => exact htext _ _ (by simp [slots])
  case description => exact htext? _ _ (by simp [slots])
  case status =>
    exact @Json.Fields.required?_of_given _ _ _ (fun s : TaskStatus => .str s.name) _ _
      (hgiven _ _ (by simp [slots])) status_ofJson?_name
  case progress =>
    unfold Json.Fields.required?
    dsimp only
    rw [hgiven "progress" (some (.ofDouble t.progress)) (by simp [slots])]
    exact double?_ofDouble_eq_some_iff.2 ⟨hfinite, rfl⟩
  case currentStep => exact htext? _ _ (by simp [slots])
  case currentStepDescription => exact htext? _ _ (by simp [slots])
  case createdAt => exact hstamp _ _ (by simp [slots])
  case updatedAt => exact hstamp _ _ (by simp [slots])
  case startedAt => exact hstamp? _ _ (by simp [slots])
  case completedAt => exact hstamp? _ _ (by simp [slots])
  case error => exact htext? _ _ (by simp [slots])
  case metadata =>
    exact Json.Fields.optional?_of_given (hgiven "metadata" _ (by simp [slots])) map?_ofMap
      (by simp [Json.ofMap])
  case sessionKey => exact htext _ _ (by simp [slots])
  case userId => exact htext? _ _ (by simp [slots])
  case ipAddress => exact htext? _ _ (by simp [slots])

/-- **A row that has the columns of a task is read as that task**, under the identifier of the
row, exactly if the progress of the task is finite. -/
theorem ofRecord_of_fields (hr : r.fields = t.toRecord.fields) :
    ofRecord r = .ok t' ↔ t.progress.isFinite = true ∧ t' = { t with id := r.id } := by
  constructor
  · intro h
    obtain ⟨v, hv, hdouble⟩ := Option.bind_eq_some_iff.1 (ofRecord_eq_ok_iff.1 h).progress
    have hgiven : r.toJson.field? "progress" = some (.ofDouble t.progress) := by
      rw [r.field?_toJson_of_not_reserved (by decide), hr]
      exact t.get?_toRecord (e := ("progress", some (.ofDouble t.progress))) (by simp [slots])
    dsimp only at hv
    rw [hgiven] at hv
    rw [← Option.some.inj hv] at hdouble
    have hfinite := (double?_ofDouble_eq_some_iff.1 hdouble).1
    refine ⟨hfinite, ?_⟩
    rw [ofRecord_eq_ok_iff.2 (readFrom_of_fields hr hfinite)] at h
    exact (Except.ok.inj h).symm
  · rintro ⟨hfinite, rfl⟩
    exact ofRecord_eq_ok_iff.2 (readFrom_of_fields hr hfinite)

end Task

end SessionTasks
