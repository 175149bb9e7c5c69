/-
# Records as objects

* `Record.field?_toJson_of_not_reserved` : the object of a record has the columns of the record;
* `Record.get?_setAll` : of the columns that are set the last one of a name counts.
-/
import SessionTasks.Proofs.KeyMap
import SessionTasks.Record
namespace SessionTasks.Record

/-! ## The object of a record -/

/-- No column of a record has one of the two names that every record has. -/
theorem name_not_reserved {r : Record} {e : String × Json} (he : e ∈ r.fields.entries) :
    e.1 ∉ reservedColumns := by
  intro hreserved
  have hnone := r.unreserved e.1 hreserved
  rw [KeyMap.get?_eq_some_iff.2 he] at hnone
  cases hnone

/-- The value that the object of a record has under a name. -/
theorem field?_toJson (r : Record) (name : String) :
    r.toJson.field? name = Entries.get? name r.columns.reverse := by
  show Entries.get? name (r.columns.foldl (fun done e => Entries.insert e.1 e.2 done) []) = _
  rw [Entries.get?_foldl_insert]
  exact Option.or_none

theorem columns_reverse (r : Record) :
    r.columns.reverse = r.fields.entries.reverse
      ++ (r.createdDate.map fun d => ("createdDate", Json.ofStamp d)).toList
      ++ [("id", .str r.id)] := by
  unfold columns
  cases r.createdDate <;> simp

theorem field?_toJson_id (r : Record) : r.toJson.field? "id" = some (.str r.id) := by
  have hfields : Entries.get? "id" r.fields.entries.reverse = none := by
    rw [r.fields.sorted.get?_reverse]
    exact r.unreserved "id" (by decide)
  rw [field?_toJson, columns_reverse, Entries.get?_append, Entries.get?_append, hfields]
  cases r.createdDate <;> rfl

theorem field?_toJson_of_not_reserved (r : Record) {name : String} (h : name ∉ reservedColumns) :
    r.toJson.field? name = r.fields.get? name := by
  have hid : "id" ≠ name := fun he => h (he ▸ by decide)
  have hdate : "createdDate" ≠ name := fun he => h (he ▸ by decide)
  rw [field?_toJson, columns_reverse, Entries.get?_append, Entries.get?_append,
    r.fields.sorted.get?_reverse]
  cases r.createdDate with
  | none => simp [Entries.get?, hid, KeyMap.get?]
  | some d => simp [Entries.get?, hid, hdate, KeyMap.get?]

theorem field?_toJson_createdDate (r : Record) :
    r.toJson.field? "createdDate" = r.createdDate.map Json.ofStamp := by
  have hfields : Entries.get? "createdDate" r.fields.entries.reverse = none := by
    rw [r.fields.sorted.get?_reverse]
    exact r.unreserved "createdDate" (by decide)
  rw [field?_toJson, columns_reverse, Entries.get?_append, Entries.get?_append, hfields]
  cases r.createdDate <;> rfl

/-- A record is determined by its identifier, its time and its other columns. -/
theorem ext_fields {r s : Record} (hid : r.id = s.id) (hdate : r.createdDate = s.createdDate)
    (hfields : ∀ name, name ∉ reservedColumns → r.fields.get? name = s.fields.get? name) :
    r = s := by
  have hmap : r.fields = s.fields := by
    refine KeyMap.ext_get? fun name => ?_
    by_cases hname : name ∈ reservedColumns
    · rw [r.unreserved name hname, s.unreserved name hname]
    · exact hfields name hname
  cases r
  cases s
  cases hid
  cases hdate
  cases hmap
  rfl

/-! ## Setting columns -/

theorem get?_set {name : String} (h : name ∉ reservedColumns) (r : Record) (other : String)
    (value : Json) :
    (r.set other value).fields.get? name =
      if other = name then some value else r.fields.get? name := by
  have hid : "id" ≠ name := fun he => h (he ▸ by decide)
  have hdate : "createdDate" ≠ name := fun he => h (he ▸ by decide)
  unfold set
  split
  · rename_i hother
    rw [hother, if_neg hid]
    split <;> rfl
  · split
    · rename_i hother
      rw [hother, if_neg hdate]
    · split
      · rename_i hreserved
        have hne : other ≠ name := fun he => h (he ▸ hreserved)
        rw [if_neg hne]
      · exact KeyMap.get?_insert r.fields other name value

/-- Of the columns that are set the last one of a name counts. -/
theorem get?_setAll {name : String} (h : name ∉ reservedColumns) (r : Record)
    (columns : List (String × Json)) :
    (r.setAll columns).fields.get? name =
      (Entries.get? name columns.reverse).or (r.fields.get? name) := by
  induction columns generalizing r with
  | nil => rfl
  | cons e rest ih =>
    show ((r.set e.1 e.2).setAll rest).fields.get? name = _
    rw [ih, get?_set h, List.reverse_cons, Entries.get?_append, Option.or_assoc]
    congr 1
    rw [Entries.get?, Entries.get?]
    split <;> rfl

/-- Only the column `id` is the identifier. -/
theorem id_setAll {columns : List (String × Json)} (h : ∀ e ∈ columns, e.1 ≠ "id") {r : Record} :
    (r.setAll columns).id = r.id := by
  induction columns generalizing r with
  | nil => rfl
  | cons e rest ih =>
    have hset : (r.set e.1 e.2).id = r.id := by
      unfold set
      rw [if_neg (h e List.mem_cons_self)]
      split
      · rfl
      · split <;> rfl
    show ((r.set e.1 e.2).setAll rest).id = r.id
    rw [ih fun e' he' => h e' (List.mem_cons_of_mem e he'), hset]

/-! ## Reading an object -/

theorem stamp?_ofStamp (d : Int64) : (Json.ofStamp d).stamp? = some d := by
  have hlow : -Int.pow 2 63 ≤ d.toInt := Int64.le_toInt d
  have hhigh : d.toInt < Int.pow 2 63 := Int64.toInt_lt d
  show (if -Int.pow 2 63 ≤ d.toInt ∧ d.toInt < Int.pow 2 63 then some (Int64.ofInt d.toInt)
    else none) = some d
  rw [if_pos ⟨hlow, hhigh⟩, Int64.ofInt_toInt]

/-- **Reading a record** is reading its identifier and its time and taking over the rest. -/
theorem ofMembers?_eq_some_iff {members : List (String × Json)} {r : Record} :
    ofMembers? members = some r ↔
      ∃ id createdDate,
        Json.Fields.orElse? ⟨fun name => Entries.get? name members⟩ "id" "" Json.text? = some id ∧
        Json.Fields.optional? ⟨fun name => Entries.get? name members⟩ "createdDate" Json.stamp? =
          some createdDate ∧
        r = { empty.setAll (members.filter fun e => e.1 ∉ reservedColumns) with id, createdDate } := by
  constructor
  · intro h
    obtain ⟨id, hid, h⟩ := Option.bind_eq_some_iff.1 h
    obtain ⟨createdDate, hdate, h⟩ := Option.bind_eq_some_iff.1 h
    cases h
    exact ⟨id, createdDate, hid, hdate, rfl⟩
  · rintro ⟨id, createdDate, hid, hdate, rfl⟩
    unfold ofMembers?
    dsimp only
    rw [hid, hdate]
    rfl

/-- **A record is read back from its object.** -/
theorem ofMembers?_toJson {r : Record} {members : List (String × Json)}
    (h : r.toJson = .obj members) : ofMembers? members = some r := by
  have hsorted : Entries.Sorted members := by
    cases h
    exact Entries.sorted_foldl_insert _ List.Pairwise.nil
  have hgiven : ∀ name, Entries.get? name members = r.toJson.field? name := by
    intro name
    rw [h]
    rfl
  refine ofMembers?_eq_some_iff.2 ⟨r.id, r.createdDate, ?_, ?_, ?_⟩
  · unfold Json.Fields.orElse?
    dsimp only
    rw [hgiven, field?_toJson_id]
    rfl
  · unfold Json.Fields.optional?
    dsimp only
    rw [hgiven, field?_toJson_createdDate]
    cases r.createdDate with
    | none => rfl
    | some d => exact congrArg (Option.map some) (stamp?_ofStamp d)
  · refine ext_fields rfl rfl fun name hname => ?_
    show r.fields.get? name =
      (empty.setAll (members.filter fun e => e.1 ∉ reservedColumns)).fields.get? name
    have hother := Entries.get?_filter (fun name => name ∉ reservedColumns) name members
    rw [if_pos (decide_eq_true hname)] at hother
    rw [get?_setAll hname, (hsorted.filter _).get?_reverse, hother, hgiven,
      field?_toJson_of_not_reserved r hname]
    exact Option.or_none.symm

end SessionTasks.Record
