/-
# Saving and loading

What a store writes to its file is read back by every store that has the same file.

* `Tables.ofText?_toText` : tables are read back from their text;
* `Store.ordered_of_reachedBy` : calls with values in order leave values in order;
* `Store.load_of_save` : a load after a save restores the tables.
-/
import SessionTasks.Proofs.FileTree
import SessionTasks.Proofs.Json.RoundTrip
import SessionTasks.Proofs.Record
import SessionTasks.Proofs.Store.Calls
namespace SessionTasks

/-! ## Records with values in order -/

namespace Record

/-- The values of a record are ordered. -/
def Ordered (r : Record) : Prop := ∀ e ∈ r.fields.entries, e.2.Ordered

theorem ordered_empty : empty.Ordered := by
  intro e he
  cases he

/-- Setting a column to an ordered value. -/
theorem Ordered.set {r : Record} (h : r.Ordered) (name : String) {value : Json}
    (hvalue : value.Ordered) : (r.set name value).Ordered := by
  unfold Record.set
  split
  · split <;> exact h
  · split
    · exact h
    · split
      · exact h
      · intro e he
        rcases Entries.mem_insert he with rfl | he
        · exact hvalue
        · exact h e he

theorem Ordered.setAll {r : Record} (h : r.Ordered) {columns : List (String × Json)}
    (hcolumns : ∀ e ∈ columns, e.2.Ordered) : (r.setAll columns).Ordered := by
  induction columns generalizing r with
  | nil => exact h
  | cons e rest ih =>
    exact ih (h.set e.1 (hcolumns e List.mem_cons_self))
      fun e' he' => hcolumns e' (List.mem_cons_of_mem e he')

theorem ordered_ofMembers? {members : List (String × Json)} {r : Record}
    (hmembers : ∀ e ∈ members, e.2.Ordered) (h : ofMembers? members = some r) : r.Ordered := by
  obtain ⟨id, createdDate, -, -, rfl⟩ := ofMembers?_eq_some_iff.1 h
  exact ordered_empty.setAll fun e he => hmembers e (List.mem_of_mem_filter he)

theorem fits_ofStamp (d : Int64) : (Json.ofStamp d).Fits := by
  have hlow : -Int.pow 2 63 ≤ d.toInt := Int64.le_toInt d
  have hhigh : d.toInt < Int.pow 2 63 := Int64.toInt_lt d
  have hpow : Int.pow 2 63 < Int.pow 2 64 := by decide
  exact ⟨hlow, hhigh.trans hpow⟩

/-- The values of a record that is written. -/
theorem ordered_columns {r : Record} (h : r.Ordered) : Json.OrderedMembers r.columns := by
  rw [Json.orderedMembers_iff]
  unfold columns
  intro e he
  rcases List.mem_cons.1 he with rfl | he
  · trivial
  · rcases List.mem_append.1 he with he | he
    · rw [Option.mem_toList] at he
      obtain ⟨d, -, rfl⟩ := Option.map_eq_some_iff.1 he
      exact fits_ofStamp d
    · exact h e he

/-- The two columns that every record has are written once. -/
theorem occurrences_columns (r : Record) {name : String} (h : name ∈ reservedColumns) :
    Tables.occurrences name r.columns ≤ 1 := by
  have hfields : r.fields.entries.countP (·.1 = name) = 0 := by
    rw [List.countP_eq_zero]
    intro e he hname
    rw [decide_eq_true_eq] at hname
    exact name_not_reserved he (hname ▸ h)
  have hname : name = "id" ∨ name = "createdDate" := by
    simpa [reservedColumns] using h
  unfold Tables.occurrences columns
  rw [List.cons_append, List.countP_cons, List.countP_append, hfields]
  rcases hname with rfl | rfl <;> cases r.createdDate <;> simp

end Record

/-! ## Tables as text -/

namespace Tables

/-- **A row is read back.** -/
theorem row?_columns {r : Record} (h : r.Ordered) : row? (.obj r.columns) = some r := by
  have hcanonical : Json.canonical (.obj r.columns) = r.toJson := by
    rw [Json.canonical, Json.canonicalMembers_of_ordered _ (Record.ordered_columns h)]
    rfl
  have honce : (reservedColumns.all fun name => decide (occurrences name r.columns ≤ 1)) = true := by
    rw [List.all_eq_true]
    exact fun name hname => decide_eq_true (Record.occurrences_columns r hname)
  unfold row?
  dsimp only
  rw [if_pos honce, hcanonical]
  exact Record.ofMembers?_toJson rfl

/-- A row that is read has values in order. -/
theorem ordered_row? {v : Json} {r : Record} (hv : v.Fits) (h : row? v = some r) :
    r.Ordered := by
  unfold row? at h
  split at h
  · rename_i members
    split at h
    · have hordered := Json.ordered_canonical (.obj members) hv
      split at h
      · rename_i sorted hsorted
        rw [hsorted] at hordered
        exact Record.ordered_ofMembers? (Json.orderedMembers_iff.1 hordered.2) h
      · cases h
    · cases h
  · cases h

/-- What is read back item by item. -/
theorem mapM_eq_some_map {α β : Type} {f : α → Option β} {g : α → β} {items : List α}
    (h : ∀ a ∈ items, f a = some (g a)) : items.mapM f = some (items.map g) :=
  mapM_eq_some_iff.2 (List.forall₂_map_right_iff.2 (List.forall₂_same.2 h))

/-- Rows that lie under their identifiers are put back into their places. -/
theorem ofRows_values {rows : Rows}
    (h : ∀ id r, rows.get? id = some r → r.id = id ∧ id ≠ "") : ofRows rows.values = rows := by
  have hrow : ∀ e ∈ rows.entries, e.2.id = e.1 ∧ e.1 ≠ "" :=
    fun e he => h e.1 e.2 (KeyMap.get?_eq_some_iff.2 he)
  have hkept : (rows.values.filter fun r => !r.id.isEmpty) = rows.values := by
    refine List.filter_eq_self.2 fun r hr => ?_
    obtain ⟨e, he, rfl⟩ := List.mem_map.1 hr
    obtain ⟨hid, hne⟩ := hrow e he
    rw [hid]
    simpa using hne
  have hentries : (rows.values.map fun r => (r.id, r)) = rows.entries := by
    unfold KeyMap.values
    rw [List.map_map]
    conv => rhs; rw [← List.map_id rows.entries]
    refine List.map_congr_left fun e he => ?_
    exact Prod.ext (hrow e he).1 rfl
  unfold ofRows
  rw [hkept, hentries, KeyMap.ofList_entries]

/-- A table and its rows, as they are read. -/
theorem get?_of_mem {tables : Tables} {e : String × Rows} (he : e ∈ tables.entries) (id : String) :
    tables.find? e.1 id = e.2.get? id := by
  unfold find? Tables.rows
  rw [KeyMap.get?_eq_some_iff.2 he]
  rfl

variable {tables : Tables}

/-- The values of every row are ordered. -/
def Ordered (tables : Tables) : Prop :=
  ∀ table id r, tables.find? table id = some r → r.Ordered

theorem Ordered.of_mem (h : tables.Ordered) {e : String × Rows} (he : e ∈ tables.entries)
    {r : Record} (hr : r ∈ e.2.values) : r.Ordered := by
  obtain ⟨id, hid⟩ := KeyMap.mem_values_iff.1 hr
  exact h e.1 id r (by rw [get?_of_mem he, hid])

theorem fits_toJson (h : tables.Ordered) : tables.toJson.Fits := by
  unfold toJson
  refine Json.fitsItems_iff.2 fun v hv => ?_
  obtain ⟨e, he, rfl⟩ := List.mem_map.1 hv
  refine ⟨trivial, ?_, trivial⟩
  refine Json.fitsItems_iff.2 fun w hw => ?_
  obtain ⟨r, hr, rfl⟩ := List.mem_map.1 hw
  exact Json.OrderedMembers.fits _ (Record.ordered_columns (h.of_mem he hr))

/-- **Tables are read back from their text.** -/
theorem ofText?_toText (h : tables.Ordered)
    (hfiled : ∀ table id r, tables.find? table id = some r → r.id = id ∧ id ≠ "")
    (hdoubles : ∀ x ∈ tables.toJson.doubles, Json.IsRead x)
    (hdepth : tables.toJson.depth ≤ Json.depthLimit) : ofText? tables.toText = some tables := by
  have htables : (tables.entries.map fun e =>
      Json.arr [.str e.1, .arr (e.2.values.map fun r => .obj r.columns)]).mapM table? =
      some (tables.entries.map fun e => (e.1, e.2.values)) := by
    rw [List.mapM_map]
    refine mapM_eq_some_map fun e he => ?_
    have hrows : (e.2.values.map fun r => Json.obj r.columns).mapM row? = some e.2.values := by
      rw [List.mapM_map, mapM_eq_some_map (g := id), List.map_id]
      exact fun r hr => row?_columns (h.of_mem he hr)
    show ((e.2.values.map fun r => Json.obj r.columns).mapM row?).map (e.1, ·) = _
    rw [hrows]
    rfl
  have hplaces : (tables.entries.map fun e => (e.1, e.2.values)).map
      (fun t => (t.1, ofRows t.2)) = tables.entries := by
    rw [List.map_map]
    conv => rhs; rw [← List.map_id tables.entries]
    refine List.map_congr_left fun e he => Prod.ext rfl ?_
    exact ofRows_values fun id r hr => hfiled e.1 id r (by rw [get?_of_mem he, hr])
  unfold ofText? toText
  rw [Json.written?_pretty (fits_toJson h) hdoubles hdepth]
  unfold toJson
  dsimp only
  rw [htables, Option.map_some, hplaces, KeyMap.ofList_entries]

end Tables

/-! ## Stores -/

/-- The records that the call stores have values in order. -/
def StoreCall.IsOrdered : StoreCall → Prop
  | .put _ _ _ r => r.Ordered
  | .modify _ _ change => ∀ old new, old.Ordered → change old = .done new → new.Ordered
  | _ => True

namespace Store

variable {s t : Store} {files saved later : FileTree} {path : String}

/-- A call with values in order keeps the values in order. -/
theorem ordered_call (h : s.tables.Ordered) {c : StoreCall} (hc : c.IsOrdered) :
    (s.call c).tables.Ordered := by
  intro table id r hr
  rcases find?_call hr with hr | hmakes
  · exact h table id r hr
  · cases hmakes with
    | put now issued table r =>
      have hr' : r.Ordered := hc
      unfold stamped
      split <;> exact hr'
    | modify hold hnew =>
      have hordered := hc _ _ (h table id _ hold) hnew
      exact hordered
    | load htables hr =>
      obtain ⟨-, -, items, rows, v, hitems, htable, hv, hrow⟩ := Tables.row_of_ofText? htables hr
      have hfits := Json.fitsItems_iff.1 (Json.fits_written? hitems) _ htable
      exact Tables.ordered_row? (Json.fitsItems_iff.1 hfits.2.1 v hv) hrow

/-- **Calls with values in order leave values in order**, whatever files are loaded. -/
theorem ordered_of_reachedBy (hs : s.ReachedBy StoreCall.IsOrdered) : s.tables.Ordered :=
  hs.induct (P := fun s => s.tables.Ordered) (fun _ _ _ _ hr => by cases hr)
    fun _ h _ hc => ordered_call h hc

/-- **A load after a save restores the tables**, in every store that has the same file and is
not poisoned, as long as the file is as it was saved. -/
theorem load_of_save (hs : s.ReachedBy StoreCall.IsOrdered) (hpath : s.settings.path = some path)
    (hdepth : s.tables.toJson.depth ≤ Json.depthLimit)
    (hdoubles : ∀ x ∈ s.tables.toJson.doubles, Json.IsRead x)
    (hsave : s.save files = .ok saved) (hlater : later.readText path = saved.readText path)
    (ht : t.settings.path = some path) (hsound : t.poisoned = false) :
    t.load later = .ok { t with tables := s.tables } := by
  obtain ⟨-, hwrite⟩ := save_eq_ok hsave hpath
  have htext : later.readText path = .ok s.tables.toText :=
    hlater.trans (FileTree.readText_write hwrite)
  have hread : Tables.ofText? s.tables.toText = some s.tables :=
    Tables.ofText?_toText (ordered_of_reachedBy hs) (filed_of_reachedBy hs) hdoubles hdepth
  unfold load
  rw [ht]
  dsimp only
  rw [htext]
  dsimp only
  rw [hread]
  unfold replace access
  rw [hsound]
  rfl

/-! ## Two stores with one file -/

/-- A note with a text and a great number. -/
def sampleNote : Record :=
  (Record.empty.set "text" (.str "a\n")).set "size" (.double (.ofInt 10000000000000000))

/-- The note is stored. -/
def sampleCalls : List StoreCall := [.put 0 1 "notes" sampleNote]

/-- The change of the note breaks off. -/
def brokenCall : StoreCall := .modify "notes" (identifier 1) fun _ => .broken "stop"

/-- A store with a file. -/
def notesStore : Store := sampleCalls.foldl call { settings := ⟨some "db", false⟩ }

/-- A store with the same file whose last change broke off. -/
def brokenStore : Store :=
  (sampleCalls ++ [brokenCall]).foldl call { settings := ⟨some "db", false⟩ }

theorem reachedBy_notesStore : notesStore.ReachedBy StoreCall.IsOrdered := by
  have htext : (Json.str "a\n").Ordered := trivial
  have hsize : (Json.double (.ofInt 10000000000000000)).Ordered := trivial
  refine ⟨_, sampleCalls, fun c hc => ?_, rfl⟩
  cases List.mem_singleton.1 hc
  exact (Record.ordered_empty.set "text" htext).set "size" hsize

theorem isRead_of_notesStore : ∀ x ∈ notesStore.tables.toJson.doubles, Json.IsRead x := by
  have hdoubles : notesStore.tables.toJson.doubles = [.ofInt 10000000000000000] := by
    decide +kernel
  have hread : Json.IsRead (.ofInt 10000000000000000) := by
    unfold Json.IsRead
    decide +kernel
  rw [hdoubles]
  intro x hx
  rw [List.mem_singleton.1 hx]
  exact hread

theorem save_notesStore : ∃ saved, notesStore.save .empty = .ok saved := by
  have hsome : (notesStore.save .empty).toOption.isSome = true := by decide +kernel
  cases h : notesStore.save .empty with
  | ok saved => exact ⟨saved, rfl⟩
  | error f =>
    rw [h] at hsome
    cases hsome

/-- The note is saved, and loaded into a store that held other tables. -/
theorem load_of_save_notes :
    notesStore.ReachedBy StoreCall.IsOrdered ∧ notesStore.settings.path = some "db" ∧
      notesStore.tables.toJson.depth ≤ Json.depthLimit ∧
      (∀ x ∈ notesStore.tables.toJson.doubles, Json.IsRead x) ∧
      ∃ saved, notesStore.save .empty = .ok saved ∧
        load { settings := ⟨some "db", true⟩, tables := .ofList [("old", .empty)] } saved =
          .ok { settings := ⟨some "db", true⟩, tables := notesStore.tables } := by
  have hdepth : notesStore.tables.toJson.depth ≤ Json.depthLimit := by decide +kernel
  obtain ⟨saved, hsave⟩ := save_notesStore
  exact ⟨reachedBy_notesStore, rfl, hdepth, isRead_of_notesStore, saved, hsave,
    load_of_save reachedBy_notesStore rfl hdepth isRead_of_notesStore hsave rfl rfl rfl⟩

/-- **A poisoned store is not restored**, though its file was saved and is as it was. -/
theorem load_brokenStore :
    notesStore.ReachedBy StoreCall.IsOrdered ∧ notesStore.settings.path = some "db" ∧
      notesStore.tables.toJson.depth ≤ Json.depthLimit ∧
      (∀ x ∈ notesStore.tables.toJson.doubles, Json.IsRead x) ∧
      brokenStore.settings.path = some "db" ∧
      ∃ saved, notesStore.save .empty = .ok saved ∧
        brokenStore.load saved = .error .storePoisoned := by
  obtain ⟨saved, hsave⟩ := save_notesStore
  have hdepth : notesStore.tables.toJson.depth ≤ Json.depthLimit := by decide +kernel
  have hpoisoned : brokenStore.poisoned = true := by decide +kernel
  obtain ⟨-, hwrite⟩ := save_eq_ok hsave rfl
  have hread : Tables.ofText? notesStore.tables.toText = some notesStore.tables :=
    Tables.ofText?_toText (ordered_of_reachedBy reachedBy_notesStore)
      (filed_of_reachedBy reachedBy_notesStore) isRead_of_notesStore hdepth
  refine ⟨reachedBy_notesStore, rfl, hdepth, isRead_of_notesStore, rfl, saved, hsave, ?_⟩
  unfold load
  rw [show brokenStore.settings.path = some "db" from rfl]
  dsimp only
  rw [FileTree.readText_write hwrite]
  dsimp only
  rw [hread]
  unfold replace access
  rw [hpoisoned]
  rfl

end Store

end SessionTasks
