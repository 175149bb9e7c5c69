/-
# What can be done with a store

A store is made without tables, and its tables change by calls only.  A row that is there after
a call was there before, or is the one that the call has made.

* `Store.find?_call` : where the rows come from that are there after a call;
* `Store.filed_of_reachedBy` : every row of a store lies under its own identifier, and no
  identifier is empty.
-/
import SessionTasks.Proofs.KeyMap
import SessionTasks.Identifier
import SessionTasks.Store.File
namespace SessionTasks

theorem identifier_ne_empty (n : Nat) : identifier n ≠ "" := by
  intro h
  have hlist := congrArg String.toList h
  unfold identifier at hlist
  rw [String.toList_append] at hlist
  exact absurd (List.append_eq_nil_iff.1 hlist).2 (by decide)

/-! ## Calls -/

/-- A call that may change the tables of a store. -/
inductive StoreCall where
  /-- Stores a record; if it has no identifier, it is given the one with this number. -/
  | put (now : Int64) (issued : Nat) (table : String) (r : Record)
  /-- Changes one record. -/
  | modify (table id : String) (change : Record → Change)
  /-- Drops a record. -/
  | delete (table id : String)
  /-- Drops a table. -/
  | deleteTable (table : String)
  /-- Drops every table. -/
  | clear
  /-- Reads the file of the store. -/
  | load (files : FileTree)

namespace Store

/-- The store after a call. -/
def call (s : Store) : StoreCall → Store
  | .put now issued table r => (s.put now (identifier issued) table r).2
  | .modify table id change => (s.modify table id change).2
  | .delete table id => (s.delete table id).2
  | .deleteTable table => (s.deleteTable table).2
  | .clear => s.clear.2
  | .load files =>
    match s.load files with
    | .ok s' => s'
    | .error _ => s

/-- The store was made and then called, and every call is admitted. -/
def ReachedBy (admits : StoreCall → Prop) (s : Store) : Prop :=
  ∃ (settings : StoreSettings) (calls : List StoreCall),
    (∀ c ∈ calls, admits c) ∧ s = calls.foldl call { settings }

/-- The store was made and then called. -/
def Reached (s : Store) : Prop := s.ReachedBy fun _ => True

/-- What a fresh store has and every call keeps, every store has that was reached. -/
theorem ReachedBy.induct {P : Store → Prop} {admits : StoreCall → Prop}
    (hfresh : ∀ settings, P { settings }) (hcall : ∀ s, P s → ∀ c, admits c → P (s.call c))
    {s : Store} (hs : s.ReachedBy admits) : P s := by
  obtain ⟨settings, calls, hadmits, rfl⟩ := hs
  induction calls using List.reverseRecOn with
  | nil => exact hfresh settings
  | append_singleton calls c ih =>
    rw [List.foldl_append]
    refine hcall _ (ih fun d hd => hadmits d (List.mem_append_left _ hd)) c (hadmits c ?_)
    exact List.mem_append_right _ List.mem_cons_self

end Store

/-! ## Rows of changed tables -/

namespace Tables

theorem find?_insert (tables : Tables) (name : String) (rows : Rows) (table id : String) :
    Tables.find? (KeyMap.insert tables name rows) table id =
      if name = table then rows.get? id else tables.find? table id := by
  unfold find? Tables.rows
  rw [KeyMap.get?_insert]
  split <;> rfl

/-- Putting one row into a table reaches no other row. -/
theorem find?_insert_row (tables : Tables) (table key : String) (r : Record) (name id : String) :
    Tables.find? (KeyMap.insert tables table ((tables.rows table).insert key r)) name id =
      if (name, id) = (table, key) then some r else tables.find? name id := by
  rw [find?_insert, KeyMap.get?_insert]
  by_cases hname : table = name
  · subst hname
    by_cases hkey : key = id
    · subst hkey
      simp
    · rw [if_pos rfl, if_neg hkey, if_neg fun h => hkey (Prod.mk.inj h).2.symm]
      rfl
  · rw [if_neg hname, if_neg fun h => hname (Prod.mk.inj h).1.symm]

theorem find?_drop (tables : Tables) (name gone table id : String) :
    (tables.drop name gone).find? table id =
      if name = table ∧ gone = id then none else tables.find? table id := by
  unfold drop
  cases hrows : tables.get? name with
  | none =>
    dsimp only
    split
    · rename_i h
      unfold find? Tables.rows
      rw [← h.1, hrows]
      rfl
    · rfl
  | some rows =>
    have hfind : tables.find? name id = rows.get? id := by
      unfold find? Tables.rows
      rw [hrows]
      rfl
    dsimp only
    rw [find?_insert, KeyMap.get?_erase]
    by_cases hname : name = table
    · subst hname
      rw [if_pos rfl, hfind]
      simp
    · rw [if_neg hname, if_neg fun h => hname h.1]

theorem find?_erase (tables : Tables) (name table id : String) :
    Tables.find? (KeyMap.erase tables name) table id =
      if name = table then none else tables.find? table id := by
  unfold find? Tables.rows
  rw [KeyMap.get?_erase]
  split <;> rfl

/-- What is read item by item. -/
theorem mapM_eq_some_iff {α β : Type} {f : α → Option β} {items : List α} {read : List β} :
    items.mapM f = some read ↔ List.Forall₂ (fun a b => f a = some b) items read := by
  induction items generalizing read with
  | nil =>
    rw [List.mapM_nil, List.forall₂_nil_left_iff]
    exact ⟨fun h => (Option.some.inj h).symm, fun h => by rw [h]; rfl⟩
  | cons a rest ih =>
    rw [List.mapM_cons]
    constructor
    · intro h
      obtain ⟨first, hfirst, h⟩ := Option.bind_eq_some_iff.1 h
      obtain ⟨others, hothers, h⟩ := Option.bind_eq_some_iff.1 h
      cases h
      exact .cons hfirst (ih.1 hothers)
    · intro h
      cases h with
      | cons hfirst hothers =>
        rw [hfirst, ih.2 hothers]
        rfl

/-- What was read item by item was read from one of the items. -/
theorem exists_of_mem_mapM {α β : Type} {f : α → Option β} {items : List α} {read : List β}
    (h : items.mapM f = some read) {b : β} (hb : b ∈ read) : ∃ a ∈ items, f a = some b := by
  have hall := mapM_eq_some_iff.1 h
  clear h
  induction hall with
  | nil => cases hb
  | @cons a _ rest _ hfirst _ ih =>
    rcases List.mem_cons.1 hb with rfl | hb
    · exact ⟨a, List.mem_cons_self, hfirst⟩
    · obtain ⟨a', ha', hread⟩ := ih hb
      exact ⟨a', List.mem_cons_of_mem a ha', hread⟩

/-- A row of a file stands in the list of one of its tables, under its identifier. -/
theorem row_of_ofText? {text : String} {tables : Tables} (h : ofText? text = some tables)
    {table id : String} {r : Record} (hr : tables.find? table id = some r) :
    r.id = id ∧ id ≠ "" ∧ ∃ items rows v, Json.written? text = some (.arr items) ∧
      .arr [.str table, .arr rows] ∈ items ∧ v ∈ rows ∧ row? v = some r := by
  unfold ofText? at h
  split at h
  · rename_i items hitems
    obtain ⟨read, hread, rfl⟩ := Option.map_eq_some_iff.1 h
    unfold find? Tables.rows at hr
    cases hfound : KeyMap.get? (KeyMap.ofList (read.map fun t => (t.1, ofRows t.2))) table with
    | none =>
      rw [hfound] at hr
      cases hr
    | some found =>
      rw [hfound] at hr
      obtain ⟨t, ht, heq⟩ := List.mem_map.1 (KeyMap.mem_of_get?_ofList hfound)
      cases heq
      obtain ⟨other, hother, heq⟩ := List.mem_map.1 (KeyMap.mem_of_get?_ofList hr)
      cases heq
      obtain ⟨hmem, hid⟩ := List.mem_filter.1 hother
      obtain ⟨item, hitem, htable⟩ := exists_of_mem_mapM hread ht
      unfold table? at htable
      split at htable
      · rename_i name rows
        obtain ⟨records, hrecords, rfl⟩ := Option.map_eq_some_iff.1 htable
        obtain ⟨v, hv, hrow⟩ := exists_of_mem_mapM hrecords hmem
        exact ⟨rfl, by simpa using hid, items, rows, v, hitems, hitem, hv, hrow⟩
      · cases htable
  · cases h

end Tables

namespace Store

variable {s : Store}

theorem access_eq_ok_iff {tables : Tables} :
    s.access = .ok tables ↔ s.poisoned = false ∧ s.tables = tables := by
  unfold access
  cases s.poisoned <;> simp

theorem access_of_poisoned (h : s.poisoned = true) : s.access = .error .storePoisoned := if_pos h

theorem find?_eq (s : Store) (table id : String) :
    s.find? table id =
      if s.poisoned then .error .storePoisoned else .ok (s.tables.find? table id) := by
  unfold find? access
  split <;> rfl

theorem replace_eq_ok {tables : Tables} {s' : Store} (h : s.replace tables = .ok s') :
    s.poisoned = false ∧ s' = { s with tables } := by
  unfold replace access at h
  split at h
  · cases h
  · rename_i hpoisoned
    cases h
    exact ⟨by simpa using hpoisoned, rfl⟩

/-- **What a load leaves.**  The tables are those of the file, or none. -/
theorem load_eq_ok {files : FileTree} {s' : Store} (h : s.load files = .ok s') :
    s.poisoned = false ∧ ∃ tables, s' = { s with tables } ∧
      (tables = .empty ∨ ∃ path text, s.settings.path = some path ∧
        files.readText path = .ok text ∧ Tables.ofText? text = some tables) := by
  unfold load at h
  split at h
  · obtain ⟨hpoisoned, rfl⟩ := replace_eq_ok h
    exact ⟨hpoisoned, _, rfl, Or.inl rfl⟩
  · rename_i path hpath
    split at h
    · obtain ⟨hpoisoned, rfl⟩ := replace_eq_ok h
      exact ⟨hpoisoned, _, rfl, Or.inl rfl⟩
    · cases h
    · rename_i text htext
      split at h
      · cases h
      · rename_i tables htables
        obtain ⟨hpoisoned, rfl⟩ := replace_eq_ok h
        exact ⟨hpoisoned, _, rfl, Or.inr ⟨path, text, hpath, htext, htables⟩⟩

theorem save_eq_ok {path : String} {files saved : FileTree} (h : s.save files = .ok saved)
    (hpath : s.settings.path = some path) :
    s.poisoned = false ∧ files.write path s.tables.toText.toUTF8 = .ok saved := by
  unfold save at h
  rw [hpath] at h
  dsimp only at h
  split at h
  · cases h
  · rename_i tables haccess
    obtain ⟨hpoisoned, rfl⟩ := access_eq_ok_iff.1 haccess
    refine ⟨hpoisoned, ?_⟩
    cases hwrite : files.write path s.tables.toText.toUTF8 with
    | error fault =>
      rw [hwrite] at h
      cases h
    | ok written =>
      rw [hwrite] at h
      cases h
      rfl

/-- A call changes nothing in a store that is poisoned. -/
theorem call_of_poisoned (h : s.poisoned = true) (c : StoreCall) : s.call c = s := by
  have haccess := access_of_poisoned h
  cases c with
  | put now issued table r =>
    unfold call put
    rw [haccess]
  | modify table id change =>
    unfold call modify
    rw [haccess]
  | delete table id =>
    unfold call delete
    rw [haccess]
  | deleteTable table =>
    unfold call deleteTable
    rw [haccess]
  | clear =>
    unfold call clear
    rw [haccess]
  | load files =>
    unfold call
    dsimp only
    split
    · rename_i s' hload
      obtain ⟨hp, -⟩ := load_eq_ok hload
      rw [h] at hp
      cases hp
    · rfl

/-! ## Rows after a call -/

/-- The record that a change leaves in the place of another one. -/
def keptRow (old new : Record) : Record :=
  { new with id := old.id, createdDate := old.createdDate.or new.createdDate }

/-- The call makes the row `r` of a table. -/
inductive Makes (s : Store) : StoreCall → String → String → Record → Prop
  /-- A record is stored. -/
  | put (now : Int64) (issued : Nat) (table : String) (r : Record) :
      Makes s (.put now issued table r) table
        (stamped (s.tables.find? table r.id) now (identifier issued) r).id
        (stamped (s.tables.find? table r.id) now (identifier issued) r)
  /-- A record is changed. -/
  | modify {table id : String} {change : Record → Change} {old new : Record}
      (hold : s.tables.find? table id = some old) (hnew : change old = .done new) :
      Makes s (.modify table id change) table id (keptRow old new)
  /-- A file is read. -/
  | load {files : FileTree} {text : String} {tables : Tables} {table id : String} {r : Record}
      (htables : Tables.ofText? text = some tables) (hr : tables.find? table id = some r) :
      Makes s (.load files) table id r

/-- **Where rows come from.**  A row that is there after a call was there before, or the call
has made it. -/
theorem find?_call {c : StoreCall} {table id : String} {r : Record}
    (h : (s.call c).tables.find? table id = some r) :
    s.tables.find? table id = some r ∨ s.Makes c table id r := by
  cases c with
  | put now issued name new =>
    change (s.put now (identifier issued) name new).2.tables.find? table id = some r at h
    unfold Store.put at h
    split at h
    · exact Or.inl h
    · rename_i tables haccess
      obtain ⟨-, rfl⟩ := access_eq_ok_iff.1 haccess
      dsimp only at h
      unfold Tables.write at h
      rw [Tables.find?_insert_row] at h
      split at h
      · rename_i heq
        cases heq
        cases h
        exact Or.inr (.put now issued _ new)
      · exact Or.inl h
  | modify name key change =>
    change (s.modify name key change).2.tables.find? table id = some r at h
    unfold Store.modify at h
    split at h
    · exact Or.inl h
    · rename_i tables haccess
      obtain ⟨-, rfl⟩ := access_eq_ok_iff.1 haccess
      split at h
      · exact Or.inl h
      · rename_i old hold
        split at h
        · exact Or.inl h
        · exact Or.inl h
        · rename_i new hnew
          dsimp only at h
          rw [Tables.find?_insert_row] at h
          split at h
          · rename_i heq
            cases heq
            cases h
            exact Or.inr (.modify hold hnew)
          · exact Or.inl h
  | delete name key =>
    change (s.delete name key).2.tables.find? table id = some r at h
    unfold Store.delete at h
    split at h
    · exact Or.inl h
    · rename_i tables haccess
      obtain ⟨-, rfl⟩ := access_eq_ok_iff.1 haccess
      dsimp only at h
      rw [Tables.find?_drop] at h
      split at h
      · cases h
      · exact Or.inl h
  | deleteTable name =>
    change (s.deleteTable name).2.tables.find? table id = some r at h
    unfold Store.deleteTable at h
    split at h
    · exact Or.inl h
    · rename_i tables haccess
      obtain ⟨-, rfl⟩ := access_eq_ok_iff.1 haccess
      dsimp only at h
      rw [Tables.find?_erase] at h
      split at h
      · cases h
      · exact Or.inl h
  | clear =>
    change s.clear.2.tables.find? table id = some r at h
    unfold Store.clear at h
    split at h
    · exact Or.inl h
    · cases h
  | load files =>
    unfold call at h
    dsimp only at h
    split at h
    · rename_i s' hload
      obtain ⟨-, tables, rfl, rfl | ⟨path, text, -, -, htables⟩⟩ := load_eq_ok hload
      · cases h
      · exact Or.inr (.load htables h)
    · exact Or.inl h

/-! ## Rows under their identifiers -/

/-- The identifier under which a record is stored. -/
theorem stamped_id (existing : Option Record) (now : Int64) (fresh : String) (r : Record) :
    (stamped existing now fresh r).id = if r.id.isEmpty then fresh else r.id := by
  unfold stamped
  split <;> rfl

/-- A record is never stored without an identifier. -/
theorem stamped_id_ne_empty (existing : Option Record) (now : Int64) {fresh : String}
    (hfresh : fresh ≠ "") (r : Record) : (stamped existing now fresh r).id ≠ "" := by
  rw [stamped_id]
  split
  · exact hfresh
  · rename_i hid
    simpa using hid

/-- Every row lies under its own identifier, which is not empty. -/
def Filed (s : Store) : Prop :=
  ∀ table id r, s.tables.find? table id = some r → r.id = id ∧ id ≠ ""

/-- A call keeps every row under its identifier. -/
theorem Filed.call (h : s.Filed) (c : StoreCall) : (s.call c).Filed := by
  intro table id r hr
  rcases find?_call hr with hr | hmakes
  · exact h table id r hr
  · cases hmakes with
    | put now issued table r =>
      exact ⟨rfl, stamped_id_ne_empty _ now (identifier_ne_empty issued) r⟩
    | modify hold hnew =>
      have hfiled := h table id _ hold
      exact hfiled
    | load htables hr =>
      obtain ⟨hid, hne, -⟩ := Tables.row_of_ofText? htables hr
      exact ⟨hid, hne⟩

/-- **Every row of a store lies under its own identifier.** -/
theorem filed_of_reachedBy {admits : StoreCall → Prop} (hs : s.ReachedBy admits) : s.Filed :=
  hs.induct (P := Filed) (fun _ _ _ _ hr => by cases hr) fun _ h c _ => h.call c

end Store

end SessionTasks
