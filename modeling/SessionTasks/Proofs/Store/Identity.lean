/-
# The identity of rows

A row is known by its table, its identifier and the time it was first stored.  Whatever is
called, and whatever the changes to records try, none of these is mixed up.

* `Store.put_eq_ok_iff`, `Store.modify_eq_stored_iff` : what a call that writes leaves;
* `Store.dated_call` : one call keeps the time of a row, unless it removes the row;
* `Store.identity_of_reached` : every row lies under its identifier, is read back as it was
  written, and keeps its time.
-/
import SessionTasks.Proofs.Store.Calls
namespace SessionTasks

namespace Store

variable {s s' : Store} {now : Int64} {fresh table id : String} {r stored : Record} {d : Int64}

/-! ## What a write leaves -/

/-- The row was written: it is found, and every other row of every table is as it was. -/
structure Wrote (table : String) (r : Record) (s s' : Store) : Prop where
  found : s'.find? table r.id = .ok (some r)
  others : ∀ name id, (name, id) ≠ (table, r.id) → s'.find? name id = s.find? name id

/-- A store in which one row of a table was put. -/
def withRow (s : Store) (table id : String) (r : Record) : Store :=
  { s with tables := KeyMap.insert s.tables table ((s.tables.rows table).insert id r) }

theorem wrote_withRow (hpoisoned : s.poisoned = false) (table : String) (r : Record) :
    Wrote table r s (s.withRow table r.id r) where
  found := by
    rw [find?_eq]
    show (if s.poisoned then _ else _) = _
    rw [hpoisoned]
    show Except.ok (Tables.find? (KeyMap.insert s.tables table _) table r.id) = _
    rw [Tables.find?_insert_row, if_pos rfl]
  others := by
    intro name id hne
    rw [find?_eq, find?_eq]
    show (if s.poisoned then _ else Except.ok (Tables.find? (KeyMap.insert s.tables table _) name id))
      = _
    rw [Tables.find?_insert_row, if_neg hne]

/-- **What it is to store a record.** -/
theorem put_eq_ok_iff :
    s.put now fresh table r = (.ok stored, s') ↔
      s.poisoned = false ∧ stored = stamped (s.tables.find? table r.id) now fresh r ∧
        s' = s.withRow table stored.id stored := by
  unfold put
  split
  · rename_i f haccess
    have hpoisoned : s.poisoned ≠ false := fun h => by
      rw [access_eq_ok_iff.2 ⟨h, rfl⟩] at haccess
      cases haccess
    simp [hpoisoned]
  · rename_i tables haccess
    obtain ⟨hpoisoned, rfl⟩ := access_eq_ok_iff.1 haccess
    rw [Prod.mk.injEq, Except.ok.injEq, and_iff_right hpoisoned]
    constructor
    · rintro ⟨rfl, rfl⟩
      exact ⟨rfl, rfl⟩
    · rintro ⟨rfl, rfl⟩
      exact ⟨rfl, rfl⟩

/-- **What it is to change a record.** -/
theorem modify_eq_stored_iff {change : Record → Change} :
    s.modify table id change = (.stored stored, s') ↔
      s.poisoned = false ∧ ∃ old new, s.tables.find? table id = some old ∧
        change old = .done new ∧ stored = keptRow old new ∧ s' = s.withRow table id stored := by
  unfold modify
  split
  · rename_i f haccess
    have hpoisoned : s.poisoned ≠ false := fun h => by
      rw [access_eq_ok_iff.2 ⟨h, rfl⟩] at haccess
      cases haccess
    simp [hpoisoned]
  · rename_i tables haccess
    obtain ⟨hpoisoned, rfl⟩ := access_eq_ok_iff.1 haccess
    rw [and_iff_right hpoisoned]
    split
    · rename_i hold
      simp [hold]
    · rename_i old hold
      split
      · rename_i f hrefused
        simp [hold, hrefused]
      · rename_i text hbroken
        simp [hold, hbroken]
      · rename_i new hnew
        constructor
        · intro h
          cases h
          exact ⟨old, new, hold, hnew, rfl, rfl⟩
        · rintro ⟨old', new', hold', hnew', rfl, rfl⟩
          rw [hold] at hold'
          cases hold'
          rw [hnew] at hnew'
          cases hnew'
          rfl

/-- A change that is not stored leaves the tables as they are. -/
theorem tables_modify {change : Record → Change}
    (h : ∀ stored, (s.modify table id change).1 ≠ .stored stored) :
    (s.modify table id change).2.tables = s.tables := by
  unfold modify at h ⊢
  split
  · rfl
  · rename_i tables haccess
    rw [haccess] at h
    split
    · rfl
    · rename_i old hold
      dsimp only at h
      rw [hold] at h
      split
      · rfl
      · rfl
      · rename_i new hnew
        dsimp only at h
        rw [hnew] at h
        exact absurd rfl (h _)

/-- A record that is stored has a time. -/
theorem createdDate_stamped (existing : Option Record) :
    (stamped existing now fresh r).createdDate.isSome = true := by
  unfold stamped
  split <;> rfl

/-! ## The time of a row -/

/-- The row is there and has this time. -/
def Dated (s : Store) (table id : String) (d : Int64) : Prop :=
  ∃ r, s.tables.find? table id = some r ∧ r.createdDate = some d

/-- The call removes the row, or replaces every table by those of the file. -/
inductive Removes (s : Store) (table id : String) : StoreCall → Prop
  /-- The row is dropped. -/
  | delete (hpoisoned : s.poisoned = false) : Removes s table id (.delete table id)
  /-- The table is dropped. -/
  | deleteTable (hpoisoned : s.poisoned = false) : Removes s table id (.deleteTable table)
  /-- Every table is dropped. -/
  | clear (hpoisoned : s.poisoned = false) : Removes s table id .clear
  /-- The file is loaded. -/
  | load {files : FileTree} {s' : Store} (hload : s.load files = .ok s') :
      Removes s table id (.load files)

/-- An identifier that the call gives out is not in use. -/
def IsFresh (s : Store) : StoreCall → Prop
  | .put _ issued table r => r.id = "" → s.tables.find? table (identifier issued) = none
  | _ => True

/-- The record that is stored over a row keeps the time of the row. -/
theorem createdDate_stamped_of_dated {old : Record} (hid : r.id ≠ "")
    (hold : old.createdDate = some d) :
    (stamped (some old) now fresh r).createdDate = some d := by
  unfold stamped
  rw [if_neg (by simpa using hid), Option.bind_some, hold]
  rfl

theorem createdDate_keptRow {old : Record} (hold : old.createdDate = some d) (new : Record) :
    (keptRow old new).createdDate = some d := by
  unfold keptRow
  rw [hold]
  rfl

theorem dated_withRow (h : s.Dated table id d) (name key : String) {r : Record}
    (hr : (name, key) = (table, id) → r.createdDate = some d) :
    (s.withRow name key r).Dated table id d := by
  obtain ⟨old, hold, hdate⟩ := h
  unfold Dated withRow
  dsimp only
  rw [Tables.find?_insert_row]
  split
  · rename_i heq
    exact ⟨r, rfl, hr heq.symm⟩
  · exact ⟨old, hold, hdate⟩

/-- **Step lemma.**  A call keeps the row and its time, unless it removes the row. -/
theorem dated_call (h : s.Dated table id d) {c : StoreCall} (hremoves : ¬ s.Removes table id c)
    (hfresh : s.IsFresh c) : (s.call c).Dated table id d := by
  cases hpoisoned : s.poisoned with
  | true =>
    rw [call_of_poisoned hpoisoned]
    exact h
  | false =>
    have haccess : s.access = .ok s.tables := access_eq_ok_iff.2 ⟨hpoisoned, rfl⟩
    have hrow := h
    obtain ⟨old, hold, hdate⟩ := hrow
    cases c with
    | put now issued name r =>
      have hput := put_eq_ok_iff.2 ⟨hpoisoned,
        (rfl : stamped (s.tables.find? name r.id) now (identifier issued) r = _), rfl⟩
      show (s.put now (identifier issued) name r).2.Dated table id d
      rw [hput]
      refine dated_withRow h _ _ fun heq => ?_
      -- a record without an identifier is given one that is not in use
      have hid : r.id ≠ "" := by
        intro hempty
        have hunused := hfresh hempty
        rw [stamped_id, if_pos (by rw [hempty]; rfl)] at heq
        cases heq
        rw [hold] at hunused
        cases hunused
      rw [stamped_id, if_neg (by simpa using hid)] at heq
      cases heq
      rw [hold]
      exact createdDate_stamped_of_dated hid hdate
    | modify name key change =>
      show (s.modify name key change).2.Dated table id d
      by_cases hstored : ∃ stored, (s.modify name key change).1 = .stored stored
      · obtain ⟨stored, hstored⟩ := hstored
        obtain ⟨-, found, new, hfound, -, rfl, hafter⟩ := modify_eq_stored_iff.1
          (show s.modify name key change = (.stored stored, (s.modify name key change).2) by
            rw [← hstored])
        rw [hafter]
        refine dated_withRow h _ _ fun heq => ?_
        cases heq
        rw [hold] at hfound
        cases hfound
        exact createdDate_keptRow hdate new
      · refine ⟨old, ?_, hdate⟩
        rw [tables_modify fun stored hs => hstored ⟨stored, hs⟩]
        exact hold
    | delete name key =>
      have hne : ¬ (name = table ∧ key = id) := by
        rintro ⟨rfl, rfl⟩
        exact hremoves (.delete hpoisoned)
      refine ⟨old, ?_, hdate⟩
      show (s.delete name key).2.tables.find? table id = some old
      unfold delete
      rw [haccess]
      exact (Tables.find?_drop ..).trans ((if_neg hne).trans hold)
    | deleteTable name =>
      have hne : name ≠ table := by
        rintro rfl
        exact hremoves (.deleteTable hpoisoned)
      refine ⟨old, ?_, hdate⟩
      show (s.deleteTable name).2.tables.find? table id = some old
      unfold deleteTable
      rw [haccess]
      exact (Tables.find?_erase ..).trans ((if_neg hne).trans hold)
    | clear => exact absurd (.clear hpoisoned) hremoves
    | load files =>
      unfold call
      dsimp only
      split
      · rename_i s' hload
        exact absurd (.load hload) hremoves
      · exact h

/-- At one of the calls `P` was the case, of the store before the call and of the call. -/
def Happens (P : Store → StoreCall → Prop) (s : Store) : List StoreCall → Prop
  | [] => False
  | c :: rest => P s c ∨ Happens P (s.call c) rest

/-- The call removes the row, or gives out an identifier that is in use. -/
def Loses (table id : String) (s : Store) (c : StoreCall) : Prop :=
  s.Removes table id c ∨ ¬ s.IsFresh c

/-- **Run lemma.**  Calls keep the row and its time, unless one of them removes the row. -/
theorem dated_calls (h : s.Dated table id d) {calls : List StoreCall}
    (hkept : ¬ s.Happens (Loses table id) calls) : (calls.foldl call s).Dated table id d := by
  induction calls generalizing s with
  | nil => exact h
  | cons c rest ih =>
    have hc : ¬ Loses table id s c := fun hc => hkept (Or.inl hc)
    have hstep : (s.call c).Dated table id d :=
      dated_call h (fun hr => hc (Or.inl hr)) (by_contra fun hf => hc (Or.inr hf))
    exact ih hstep fun hrest => hkept (Or.inr hrest)

/-- Every read of the row that succeeds gives the time. -/
structure ReadsDate (table id : String) (d : Int64) (s : Store) : Prop where
  find : ∀ found, s.find? table id = .ok found → ∃ r, found = some r ∧ r.createdDate = some d
  all : ∀ rows, s.all table = .ok rows → ∀ r ∈ rows, r.id = id → r.createdDate = some d

theorem readsDate_of_dated (hfiled : s.Filed) (h : s.Dated table id d) :
    s.ReadsDate table id d := by
  obtain ⟨r, hr, hdate⟩ := h
  constructor
  · intro found hfound
    rw [find?_eq, hr] at hfound
    split at hfound
    · cases hfound
    · cases hfound
      exact ⟨r, rfl, hdate⟩
  · intro rows hrows q hq hid
    unfold all access at hrows
    split at hrows
    · cases hrows
    · cases hrows
      -- a row is listed under its own identifier
      obtain ⟨key, hkey⟩ := KeyMap.mem_values_iff.1 hq
      have hown := (hfiled table key q hkey).1
      rw [← hown, hid] at hkey
      have hfind : s.tables.find? table id = some q := hkey
      rw [hr] at hfind
      cases hfind
      exact hdate

theorem filed_calls (h : s.Filed) (calls : List StoreCall) : (calls.foldl call s).Filed := by
  induction calls generalizing s with
  | nil => exact h
  | cons c rest ih => exact ih (h.call c)

/-! ## Identity -/

/-- Rows are known by their tables, their identifiers and the times they were first stored. -/
structure KeepsIdentity (s : Store) : Prop where
  /-- Every row lies under its own identifier, which is not empty. -/
  filed : s.Filed
  /-- A record that is stored has a time, and is read back as it was given back. -/
  stored : ∀ now issued table r stored s',
    s.put now (identifier issued) table r = (.ok stored, s') →
      stored.createdDate.isSome = true ∧ Wrote table stored s s'
  /-- A record that is changed keeps its identifier, and is read back as it was given back. -/
  changed : ∀ table id change stored s', s.modify table id change = (.stored stored, s') →
    stored.id = id ∧ Wrote table stored s s'
  /-- A row that has a time keeps it, whatever is called, until it is removed. -/
  dated : ∀ table id d calls, s.Dated table id d → ¬ s.Happens (Loses table id) calls →
    (calls.foldl call s).ReadsDate table id d

/-- **Every store that was reached keeps the identity of its rows**, whatever was called before
and whatever the changes to its records tried. -/
theorem identity_of_reached (hs : s.Reached) : s.KeepsIdentity where
  filed := filed_of_reachedBy hs
  stored := by
    intro now issued table r stored s' hput
    obtain ⟨hpoisoned, hstored, rfl⟩ := put_eq_ok_iff.1 hput
    refine ⟨?_, wrote_withRow hpoisoned table stored⟩
    rw [hstored]
    exact createdDate_stamped _
  changed := by
    intro table id change stored s' hmodify
    obtain ⟨hpoisoned, old, new, hold, -, hstored, rfl⟩ := modify_eq_stored_iff.1 hmodify
    have hid : stored.id = id := by
      rw [hstored]
      exact (filed_of_reachedBy hs table id old hold).1
    have hwrote := wrote_withRow hpoisoned table stored
    rw [hid] at hwrote
    exact ⟨hid, hwrote⟩
  dated := by
    intro table id d calls hdated hkept
    exact readsDate_of_dated (filed_calls (filed_of_reachedBy hs) calls) (dated_calls hdated hkept)

/-- A store with one note. -/
def noteStore : Store := [StoreCall.put 5 1 "notes" (.withId "n")].foldl call {}

/-- The note is stored again with another time, a change tries to take its identity, and a note
is stored that is given an identifier. -/
def noteCalls : List StoreCall :=
  [.put 9 2 "notes" { Record.withId "n" with createdDate := some 8 },
    .modify "notes" "n" fun _ => .done { Record.withId "m" with createdDate := some 7 },
    .put 9 3 "notes" .empty]

theorem identity_of_reached_note :
    noteStore.Reached ∧ noteStore.KeepsIdentity ∧ noteStore.Dated "notes" "n" 5 ∧
      ¬ noteStore.Happens (Loses "notes" "n") noteCalls ∧
      (noteCalls.foldl call noteStore).ReadsDate "notes" "n" 5 := by
  have hreached : noteStore.Reached := ⟨{}, _, fun _ _ => trivial, rfl⟩
  have hdated : noteStore.Dated "notes" "n" 5 :=
    ⟨{ Record.withId "n" with createdDate := some 5 }, by decide +kernel, rfl⟩
  have hkept : ¬ noteStore.Happens (Loses "notes" "n") noteCalls := by
    rintro ((h | h) | (h | h) | (h | h) | h)
    · cases h
    · exact h fun hid => absurd hid (by decide)
    · cases h
    · exact h trivial
    · cases h
    · exact h fun _ => by decide +kernel
    · exact h
  exact ⟨hreached, identity_of_reached hreached, hdated, hkept,
    (identity_of_reached hreached).dated _ _ _ _ hdated hkept⟩

end Store

end SessionTasks
