/-
# Parts of finite maps

* `Entries.get?_foldl_insert` : of the entries that are inserted the last one of a key counts;
* `KeyMap.keep` : the entries whose values pass a test, and how it goes with insertion and
  erasure;
* `KeyMap.mem_of_get?_ofList` : what is found in a map made of a list stands in the list.
-/
import Mathlib
import SessionTasks.KeyMap
namespace SessionTasks

universe u

variable {α : Type u}

/-! ## Entry lists -/

namespace Entries

/-- A key is looked up in the first piece and then in the second. -/
theorem get?_append (key : String) (a b : List (String × α)) :
    get? key (a ++ b) = (get? key a).or (get? key b) := by
  induction a with
  | nil => rfl
  | cons e rest ih =>
    rw [List.cons_append, get?, get?, ih]
    split <;> rfl

/-- A key is not found when no entry has it. -/
theorem get?_eq_none_iff {key : String} {entries : List (String × α)} :
    get? key entries = none ↔ ∀ e ∈ entries, e.1 ≠ key := by
  induction entries with
  | nil => simp [get?]
  | cons e rest ih =>
    rw [get?, List.forall_mem_cons]
    by_cases h : e.1 = key
    · simp [h]
    · rw [if_neg h, ih]
      exact (and_iff_right h).symm

/-- The entries whose keys pass a test. -/
theorem get?_filter (test : String → Bool) (key : String) (entries : List (String × α)) :
    get? key (entries.filter fun e => test e.1) = if test key then get? key entries else none := by
  induction entries with
  | nil => simp [get?]
  | cons e rest ih =>
    rw [List.filter_cons]
    by_cases hkey : e.1 = key
    · subst hkey
      by_cases htest : test e.1 = true
      · simp [htest, get?]
      · rw [if_neg htest, ih, if_neg htest, if_neg htest]
    · split
      · rw [get?, get?, if_neg hkey, if_neg hkey, ih]
      · rw [ih, get?, if_neg hkey]

/-- Of the entries that are inserted, one after the other, the last one of a key counts. -/
theorem get?_foldl_insert (key : String) (entries done : List (String × α)) :
    get? key (entries.foldl (fun done e => insert e.1 e.2 done) done) =
      (get? key entries.reverse).or (get? key done) := by
  induction entries generalizing done with
  | nil => rfl
  | cons e rest ih =>
    rw [List.foldl_cons, ih, List.reverse_cons, get?_append, get?_insert, Option.or_assoc]
    congr 1
    rw [get?, get?]
    split <;> rfl

/-- In a sorted list the first entry of a key is the last one. -/
theorem Sorted.get?_reverse {entries : List (String × α)} (h : Sorted entries) (key : String) :
    get? key entries.reverse = get? key entries := by
  induction entries with
  | nil => rfl
  | cons e rest ih =>
    obtain ⟨hfirst, hrest⟩ := List.pairwise_cons.1 h
    rw [List.reverse_cons, get?_append, ih hrest, get?, get?, get?]
    split
    · rename_i hkey
      have hnone : get? key rest = none := by
        refine get?_eq_none_iff.2 fun other hother heq => ?_
        have hlt := hfirst other hother
        rw [hkey, heq] at hlt
        exact String.lt_irrefl key hlt
      rw [hnone]
      rfl
    · exact Option.or_none

/-- Inserting some entries keeps the order. -/
theorem sorted_foldl_insert (entries : List (String × α)) {done : List (String × α)}
    (h : Sorted done) : Sorted (entries.foldl (fun done e => insert e.1 e.2 done) done) := by
  induction entries generalizing done with
  | nil => exact h
  | cons e rest ih => exact ih (h.insert e.1 e.2)

/-- A sorted list is the same after its entries are inserted one after the other. -/
theorem Sorted.foldl_insert {entries : List (String × α)} (h : Sorted entries) :
    entries.foldl (fun done e => Entries.insert e.1 e.2 done) [] = entries := by
  refine Sorted.eq_of_get?_eq (sorted_foldl_insert entries List.Pairwise.nil) h fun key => ?_
  rw [get?_foldl_insert, h.get?_reverse]
  exact Option.or_none

end Entries

namespace KeyMap

/-! ## Parts -/

/-- The entries whose values pass a test. -/
def keep (m : KeyMap α) (test : α → Bool) : KeyMap α :=
  ⟨m.entries.filter fun e => test e.2, m.sorted.filter _⟩

/-- A value is found among those that are kept when it passes the test. -/
theorem get?_keep (m : KeyMap α) (test : α → Bool) (key : String) :
    (m.keep test).get? key = (m.get? key).filter test := by
  ext value
  rw [get?_eq_some_iff, Option.filter_eq_some_iff, get?_eq_some_iff]
  exact List.mem_filter

@[simp] theorem values_keep (m : KeyMap α) (test : α → Bool) :
    (m.keep test).values = m.values.filter test := by
  unfold values keep
  rw [List.filter_map]
  rfl

/-- A value that is kept may be inserted afterwards. -/
theorem keep_insert_of_pos (m : KeyMap α) {test : α → Bool} (key : String) {value : α}
    (h : test value = true) : (m.insert key value).keep test = (m.keep test).insert key value := by
  refine ext_get? fun other => ?_
  rw [get?_keep, get?_insert, get?_insert, get?_keep]
  split
  · rw [Option.filter_some, if_pos h]
  · rfl

/-- A value that is not kept is erased. -/
theorem keep_insert_of_neg (m : KeyMap α) {test : α → Bool} (key : String) {value : α}
    (h : test value = false) : (m.insert key value).keep test = (m.keep test).erase key := by
  refine ext_get? fun other => ?_
  rw [get?_keep, get?_insert, get?_erase, get?_keep]
  split
  · rw [Option.filter_some, h]
    rfl
  · rfl

/-- It does not matter whether a key is erased before or after others are left out. -/
theorem keep_erase (m : KeyMap α) (test : α → Bool) (key : String) :
    (m.erase key).keep test = (m.keep test).erase key := by
  refine ext_get? fun other => ?_
  rw [get?_keep, get?_erase, get?_erase, get?_keep]
  split <;> rfl

/-- There is nothing to erase under a key that has no value. -/
theorem erase_of_get?_eq_none {m : KeyMap α} {key : String} (h : m.get? key = none) :
    m.erase key = m := by
  refine ext_get? fun other => ?_
  rw [get?_erase]
  split
  · rename_i hkey
    rw [← hkey, h]
  · rfl

/-- The values are those that are found under some key. -/
theorem mem_values_iff {m : KeyMap α} {value : α} :
    value ∈ m.values ↔ ∃ key, m.get? key = some value := by
  unfold values
  rw [List.mem_map]
  constructor
  · rintro ⟨e, he, rfl⟩
    exact ⟨e.1, get?_eq_some_iff.2 he⟩
  · rintro ⟨key, hkey⟩
    exact ⟨(key, value), get?_eq_some_iff.1 hkey, rfl⟩

/-! ## Lists -/

/-- Inserting into a map is inserting into its entries. -/
theorem entries_foldl_insert (entries : List (String × α)) (m : KeyMap α) :
    (entries.foldl (fun m e => m.insert e.1 e.2) m).entries =
      entries.foldl (fun done e => Entries.insert e.1 e.2 done) m.entries := by
  induction entries generalizing m with
  | nil => rfl
  | cons e rest ih => exact ih (m.insert e.1 e.2)

/-- A map is made of its own entries. -/
@[simp] theorem ofList_entries (m : KeyMap α) : ofList m.entries = m := by
  refine ext_get? fun key => ?_
  unfold ofList get?
  rw [entries_foldl_insert]
  exact congrArg _ m.sorted.foldl_insert

/-- What is found in a map that entries were added to was there, or is one of them. -/
theorem mem_of_get?_foldl_insert {entries : List (String × α)} {m : KeyMap α} {key : String}
    {value : α}
    (h : (entries.foldl (fun m e => m.insert e.1 e.2) m).get? key = some value) :
    m.get? key = some value ∨ (key, value) ∈ entries := by
  induction entries generalizing m with
  | nil => exact Or.inl h
  | cons e rest ih =>
    rcases ih h with hfound | hmem
    · rw [get?_insert] at hfound
      split at hfound
      · rename_i hkey
        cases hfound
        rw [← hkey]
        exact Or.inr List.mem_cons_self
      · exact Or.inl hfound
    · exact Or.inr (List.mem_cons_of_mem e hmem)

/-- What is found in a map made of a list stands in the list. -/
theorem mem_of_get?_ofList {entries : List (String × α)} {key : String} {value : α}
    (h : (ofList entries).get? key = some value) : (key, value) ∈ entries := by
  rcases mem_of_get?_foldl_insert h with hempty | hmem
  · cases hempty
  · exact hmem

end KeyMap

end SessionTasks
