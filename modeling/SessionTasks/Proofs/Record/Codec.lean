/-
# Records and the objects they are read from

A record is written with its identifier, empty or not, and with its time if it has one.  So a
record is read back from its object, while an object that is read and written again comes back
completed: with an identifier, and without a time that is `null`.

* `Record.Built.canonical` : the columns of a record hold what was put there;
* `Record.toJson_of_ofJson` : the object of a record that was read.
-/
import SessionTasks.Proofs.Store.Decoding
import SessionTasks.Proofs.Task.Rewriting
namespace SessionTasks

theorem Json.canonicalItems_iff {items : List Json} :
    Json.CanonicalItems items ↔ ∀ v ∈ items, v.Canonical := by
  induction items with
  | nil => simp [CanonicalItems]
  | cons v rest ih => rw [List.forall_mem_cons, ← ih, CanonicalItems]

theorem Json.canonicalMembers_iff {members : List (String × Json)} :
    Json.CanonicalMembers members ↔ ∀ e ∈ members, e.2.Canonical := by
  induction members with
  | nil => simp [CanonicalMembers]
  | cons e rest ih => rw [List.forall_mem_cons, ← ih, CanonicalMembers]

namespace Record

/-- Only objects are read as records. -/
theorem ofJson_eq_ok_iff {v : Json} {r : Record} :
    ofJson v = .ok r ↔ ∃ members, v = .obj members ∧ ofMembers? members = some r := by
  cases v with
  | obj members =>
    unfold ofJson
    dsimp only
    cases hread : ofMembers? members <;> simp [hread]
  | _ => simp [ofJson]

/-! ## Records made of values -/

/-- The record is made without columns, or read from an object, and then its columns are set.
Every value that is used is canonical. -/
inductive Built : Record → Prop
  | empty : Built .empty
  | withId (id : String) : Built (.withId id)
  | ofJson {v : Json} {r : Record} (hv : v.Canonical) (h : Record.ofJson v = .ok r) : Built r
  | set {r : Record} (h : Built r) (name : String) {value : Json} (hv : value.Canonical) :
      Built (r.set name value)

theorem Canonical.set {r : Record} (h : r.Canonical) (name : String) {value : Json}
    (hv : value.Canonical) : (r.set name value).Canonical := by
  unfold Record.set
  split
  · split <;> exact h
  · split
    · exact h
    · split
      · exact h
      · intro e he
        rcases Entries.mem_insert he with rfl | he
        · exact hv
        · exact h e he

theorem Canonical.setAll {r : Record} (h : r.Canonical) {columns : List (String × Json)}
    (hcolumns : ∀ e ∈ columns, e.2.Canonical) : (r.setAll columns).Canonical := by
  induction columns generalizing r with
  | nil => exact h
  | cons e rest ih =>
    obtain ⟨hfirst, hrest⟩ := List.forall_mem_cons.1 hcolumns
    exact ih (h.set e.1 hfirst) hrest

theorem canonical_empty : Record.empty.Canonical := fun _ he => by cases he

/-- What is read from a canonical value has canonical columns. -/
theorem canonical_of_ofJson {v : Json} {r : Record} (hv : v.Canonical) (h : ofJson v = .ok r) :
    r.Canonical := by
  obtain ⟨members, rfl, hread⟩ := ofJson_eq_ok_iff.1 h
  obtain ⟨id, createdDate, -, -, rfl⟩ := ofMembers?_eq_some_iff.1 hread
  have hothers : (empty.setAll (members.filter fun e => e.1 ∉ reservedColumns)).Canonical :=
    canonical_empty.setAll fun e he =>
      Json.canonicalMembers_iff.1 hv.2 e (List.mem_filter.1 he).1
  exact hothers

/-- **The columns of a record hold what was put there.** -/
theorem Built.canonical {r : Record} (h : r.Built) : r.Canonical := by
  induction h with
  | empty => exact canonical_empty
  | withId id => exact canonical_empty
  | ofJson hv h => exact canonical_of_ofJson hv h
  | set _ name hv ih => exact ih.set name hv

/-! ## The members of the object -/

theorem field?_of_not_reserved (r : Record) {name : String} (h : name ∉ reservedColumns) :
    r.field? name = r.fields.get? name := by
  have hid : name ≠ "id" := fun he => h (he ▸ by decide)
  have hdate : name ≠ "createdDate" := fun he => h (he ▸ by decide)
  unfold field?
  rw [if_neg hid, if_neg hdate]

/-- A record that has an identifier has the columns of its object. -/
theorem field?_eq_field?_toJson {r : Record} (hid : r.id ≠ "") (name : String) :
    r.field? name = r.toJson.field? name := by
  by_cases hname : name ∈ reservedColumns
  · rcases List.mem_cons.1 hname with rfl | hname
    · rw [field?_toJson_id]
      show (if r.id.isEmpty then none else some (Json.str r.id)) = some (.str r.id)
      exact if_neg (by simpa using hid)
    · rw [List.mem_singleton.1 hname, field?_toJson_createdDate]
      rfl
  · rw [r.field?_of_not_reserved hname, r.field?_toJson_of_not_reserved hname]

theorem sorted_of_toJson {r : Record} {members : List (String × Json)}
    (h : r.toJson = .obj members) : Entries.Sorted members := by
  cases h
  exact Entries.sorted_foldl_insert _ List.Pairwise.nil

/-- The object of a record with canonical columns is canonical. -/
theorem Canonical.toJson {r : Record} (h : r.Canonical) : r.toJson.Canonical := by
  refine ⟨Entries.sorted_foldl_insert _ List.Pairwise.nil, Json.canonicalMembers_iff.2 ?_⟩
  rintro ⟨name, v⟩ hmem
  have hcolumn : (name, v) ∈ r.columns := by
    have hfound := (sorted_of_toJson (r := r) rfl).get?_eq_some_iff.2 hmem
    rw [Entries.get?_foldl_insert] at hfound
    have hreverse := Entries.mem_of_get? (Option.or_none.symm.trans hfound)
    exact List.mem_reverse.1 hreverse
  rcases List.mem_append.1 hcolumn with hreserved | hfield
  · rcases List.mem_cons.1 hreserved with heq | hdate
    · cases heq
      trivial
    · obtain ⟨d, -, heq⟩ := Option.map_eq_some_iff.1 (Option.mem_toList.1 hdate)
      cases heq
      have hlow : -Int.pow 2 63 ≤ d.toInt := Int64.le_toInt d
      have hhigh : d.toInt < Int.pow 2 63 := Int64.toInt_lt d
      exact ⟨hlow, Int.lt_trans hhigh (by decide)⟩
  · exact h (name, v) hfield

/-! ## Writing what was read -/

/-- The members of an object with a time that is not `null`, if it has one. -/
def dateless (members : List (String × Json)) : List (String × Json) :=
  if Entries.get? "createdDate" members = some .null then Entries.erase "createdDate" members
  else members

/-- The members of an object with an empty identifier where it has none, and without a time that
is `null`. -/
def completed (members : List (String × Json)) : List (String × Json) :=
  match Entries.get? "id" members with
  | none => Entries.insert "id" (.str "") (dateless members)
  | some _ => dateless members

theorem sorted_completed {members : List (String × Json)} (h : Entries.Sorted members) :
    Entries.Sorted (completed members) := by
  have hdateless : Entries.Sorted (dateless members) := by
    unfold dateless
    split
    · exact h.filter _
    · exact h
  unfold completed
  split
  · exact hdateless.insert _ _
  · exact hdateless

/-- Only the two columns that every record has are completed. -/
theorem get?_completed (members : List (String × Json)) (name : String) :
    Entries.get? name (completed members) =
      if name = "id" then (Entries.get? "id" members).or (some (.str ""))
      else if name = "createdDate" then
        (Entries.get? "createdDate" members).filter (· ≠ .null)
      else Entries.get? name members := by
  -- first the date, which goes if it is null; then the identifier, which comes if there is none
  have hdateless : Entries.get? name (dateless members) =
      if name = "createdDate" then (Entries.get? "createdDate" members).filter (· ≠ .null)
      else Entries.get? name members := by
    unfold dateless
    by_cases hnull : Entries.get? "createdDate" members = some .null
    · rw [if_pos hnull, Entries.get?_erase, hnull]
      simp only [eq_comm (a := "createdDate")]
      rfl
    · rw [if_neg hnull]
      split
      · rename_i hname
        rw [hname]
        cases hdate : Entries.get? "createdDate" members with
        | none => rfl
        | some v =>
          rw [Option.filter_some, if_pos]
          simpa [hdate] using hnull
      · rfl
  unfold completed
  split
  · rename_i hid
    rw [Entries.get?_insert, hdateless, hid]
    simp only [eq_comm (a := "id")]
    rfl
  · rename_i v hid
    rw [hdateless, hid]
    by_cases hname : name = "id"
    · subst hname
      rw [if_pos rfl, if_neg (by decide), hid]
      rfl
    · rw [if_neg hname]

/-- **An object that is read as a record comes back completed.** -/
theorem toJson_of_ofJson {members : List (String × Json)} (hsorted : Entries.Sorted members)
    {r : Record} (h : ofJson (.obj members) = .ok r) : r.toJson = .obj (completed members) := by
  obtain ⟨_, heq, hread⟩ := ofJson_eq_ok_iff.1 h
  cases heq
  obtain ⟨id, createdDate, hid, hdate, rfl⟩ := ofMembers?_eq_some_iff.1 hread
  -- both sides are sorted, so that it is enough to look every name up
  refine congrArg Json.obj (Entries.Sorted.eq_of_get?_eq
    (Entries.sorted_foldl_insert _ List.Pairwise.nil) (sorted_completed hsorted) fun name => ?_)
  show (Record.toJson _).field? name = _
  rw [get?_completed]
  split
  · rename_i hname
    rw [hname, field?_toJson_id]
    rcases Json.Fields.orElse?_eq_some_iff.1 hid with ⟨hnone, rfl⟩ | ⟨v, hsome, htext⟩
    · dsimp only at hnone
      rw [hnone]
      rfl
    · dsimp only at hsome
      rw [hsome, Json.text?_eq_some_iff.1 htext]
      rfl
  · rename_i hid
    split
    · rename_i hname
      rw [hname, field?_toJson_createdDate]
      rcases Json.Fields.optional?_eq_some_iff.1 hdate with
        ⟨hnone | hnull, rfl⟩ | ⟨v, d, hsome, -, hstamp, rfl⟩
      · dsimp only at hnone
        rw [hnone]
        rfl
      · dsimp only at hnull
        rw [hnull]
        rfl
      · dsimp only at hsome
        rw [hsome, Json.stamp?_eq_some_iff.1 hstamp]
        rfl
    · rename_i hcreated
      have hname : name ∉ reservedColumns := by simp [reservedColumns, hid, hcreated]
      have hother := Entries.get?_filter (fun name => name ∉ reservedColumns) name members
      rw [if_pos (decide_eq_true hname)] at hother
      rw [field?_toJson_of_not_reserved _ hname]
      show (empty.setAll (members.filter fun e => e.1 ∉ reservedColumns)).fields.get? name = _
      rw [get?_setAll hname, (hsorted.filter _).get?_reverse, hother]
      exact Option.or_none

end Record

end SessionTasks
