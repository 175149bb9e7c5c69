/-
# Finite maps with text keys

A `KeyMap α` lists its entries with strictly growing keys, in code point order, so
that a map has one representation and listing it is already sorted.  The operations
on plain entry lists come first, because objects of `Json` hold such a list too.

* `get?_insert`, `get?_erase` : what each operation does to the view `get?`;
* `KeyMap.ext_get?` : two maps with the same view are equal.
-/
namespace SessionTasks

universe u v

variable {α : Type u} {β : Type v}

/-! ## Entry lists -/

namespace Entries

/-- The keys grow strictly. -/
def Sorted (entries : List (String × α)) : Prop :=
  entries.Pairwise (fun a b => a.1 < b.1)

instance (entries : List (String × α)) : Decidable (Sorted entries) :=
  inferInstanceAs (Decidable (entries.Pairwise _))

/-- The first value listed under `key`. -/
def get? (key : String) : List (String × α) → Option α
  | [] => none
  | (k, v) :: rest => if k = key then some v else get? key rest

/-- Puts `value` under `key` at its place in the order, instead of what was there. -/
def insert (key : String) (value : α) : List (String × α) → List (String × α)
  | [] => [(key, value)]
  | (k, v) :: rest =>
    if key < k then (key, value) :: (k, v) :: rest
    else if key = k then (key, value) :: rest
    else (k, v) :: insert key value rest

/-- Drops every entry under `key`. -/
def erase (key : String) (entries : List (String × α)) : List (String × α) :=
  entries.filter (fun e => e.1 ≠ key)

/-- An entry after an insertion is the new one, or was there before. -/
theorem mem_insert {key : String} {value : α} {e : String × α}
    {entries : List (String × α)} (h : e ∈ insert key value entries) :
    e = (key, value) ∨ e ∈ entries := by
  induction entries with
  | nil => simpa [insert] using h
  | cons head rest ih =>
    obtain ⟨k, v⟩ := head
    rw [insert] at h
    split at h
    · simpa using h
    · split at h
      · rcases List.mem_cons.1 h with h | h
        · exact .inl h
        · exact .inr (List.mem_cons_of_mem _ h)
      · rcases List.mem_cons.1 h with h | h
        · exact .inr (h ▸ List.mem_cons_self)
        · exact (ih h).imp_right (List.mem_cons_of_mem _)

/-- Insertion keeps the entries in order. -/
theorem Sorted.insert {entries : List (String × α)} (h : Sorted entries)
    (key : String) (value : α) : Sorted (Entries.insert key value entries) := by
  induction entries with
  | nil => simp [Entries.insert, Sorted]
  | cons head rest ih =>
    obtain ⟨k, v⟩ := head
    obtain ⟨hk, hrest⟩ := List.pairwise_cons.1 h
    rw [Entries.insert]
    split
    next hlt =>
      refine List.pairwise_cons.2 ⟨?_, h⟩
      intro e he
      rcases List.mem_cons.1 he with rfl | he
      · exact hlt
      · exact String.lt_trans hlt (hk e he)
    next hlt =>
      split
      next heq => exact List.pairwise_cons.2 ⟨fun e he => heq ▸ hk e he, hrest⟩
      next hne =>
        refine List.pairwise_cons.2 ⟨?_, ih hrest⟩
        intro e he
        rcases mem_insert he with rfl | he
        · rcases Decidable.em (k < key) with hlt' | hlt'
          · exact hlt'
          · exact absurd (String.le_antisymm (String.not_lt.1 hlt')
              (String.not_lt.1 hlt)) hne
        · exact hk e he

theorem Sorted.filter {entries : List (String × α)} (h : Sorted entries)
    (p : String × α → Bool) : Sorted (entries.filter p) :=
  List.Pairwise.filter p h

/-- An insertion is seen under its own key only. -/
theorem get?_insert (key other : String) (value : α) (entries : List (String × α)) :
    get? other (insert key value entries)
      = if key = other then some value else get? other entries := by
  induction entries with
  | nil => rfl
  | cons head rest ih =>
    obtain ⟨k, v⟩ := head
    rw [insert]
    split
    · simp [get?]
    · split
      next heq => subst heq; by_cases h : key = other <;> simp [get?, h]
      next hne =>
        simp only [get?, ih]
        by_cases h : k = other
        · subst h; simp [hne]
        · simp [h]

theorem erase_cons_self (key : String) (value : α) (rest : List (String × α)) :
    erase key ((key, value) :: rest) = erase key rest := by
  simp [erase]

theorem erase_cons_of_ne {k key : String} (h : k ≠ key) (value : α)
    (rest : List (String × α)) :
    erase key ((k, value) :: rest) = (k, value) :: erase key rest := by
  simp [erase, h]

/-- An erasure is seen under its own key only. -/
theorem get?_erase (key other : String) (entries : List (String × α)) :
    get? other (erase key entries) = if key = other then none else get? other entries := by
  induction entries with
  | nil => simp [erase, get?]
  | cons head rest ih =>
    obtain ⟨k, v⟩ := head
    by_cases hk : k = key
    · subst hk
      rw [erase_cons_self, ih]
      by_cases h : k = other <;> simp [get?, h]
    · rw [erase_cons_of_ne hk, get?, get?, ih]
      by_cases h : k = other
      · subst h; simp [Ne.symm hk]
      · simp [h]

theorem mem_of_get? {key : String} {value : α} {entries : List (String × α)}
    (h : get? key entries = some value) : (key, value) ∈ entries := by
  induction entries with
  | nil => simp [get?] at h
  | cons head rest ih =>
    obtain ⟨k, v⟩ := head
    by_cases hk : k = key
    · subst hk; simp_all [get?]
    · exact List.mem_cons_of_mem _ (ih (by simpa [get?, hk] using h))

/-- There is nothing to erase when no entry has the key. -/
theorem erase_of_forall_ne {key : String} {entries : List (String × α)}
    (h : ∀ e ∈ entries, e.1 ≠ key) : erase key entries = entries :=
  List.filter_eq_self.2 fun e he => by simpa using h e he

/-- Up to the order, inserting puts the new entry before what is left without the key. -/
theorem Sorted.insert_perm {entries : List (String × α)} (h : Sorted entries) (key : String)
    (value : α) : (Entries.insert key value entries).Perm ((key, value) :: erase key entries) := by
  induction entries with
  | nil => exact List.Perm.refl _
  | cons head rest ih =>
    obtain ⟨k, v⟩ := head
    obtain ⟨hk, hrest⟩ := List.pairwise_cons.1 h
    rw [Entries.insert]
    split
    next hlt =>
      rw [erase_of_forall_ne]
      intro e he heq
      rcases List.mem_cons.1 he with rfl | he
      · exact String.lt_irrefl key (heq ▸ hlt)
      · exact String.lt_asymm hlt (heq ▸ hk e he)
    next =>
      split
      next heq =>
        subst heq
        rw [erase_cons_self, erase_of_forall_ne]
        intro e he heq
        exact String.lt_irrefl key (heq ▸ hk e he)
      next hne =>
        rw [erase_cons_of_ne (Ne.symm hne)]
        exact (List.Perm.cons (k, v) (ih hrest)).trans (List.Perm.swap (key, value) (k, v) _)

/-- In a sorted list every entry is the one its key finds. -/
theorem Sorted.get?_eq_some_iff {entries : List (String × α)} (h : Sorted entries)
    {key : String} {value : α} : get? key entries = some value ↔ (key, value) ∈ entries := by
  refine ⟨mem_of_get?, fun hm => ?_⟩
  induction entries with
  | nil => simp at hm
  | cons head rest ih =>
    obtain ⟨k, v⟩ := head
    obtain ⟨hk, hrest⟩ := List.pairwise_cons.1 h
    rcases List.mem_cons.1 hm with hm | hm
    · cases hm; simp [get?]
    · have hne : k ≠ key := fun e => String.lt_irrefl key (e ▸ hk _ hm)
      simp [get?, hne, ih hrest hm]

/-- Two sorted lists with the same view are equal. -/
theorem Sorted.eq_of_get?_eq {a b : List (String × α)} (ha : Sorted a) (hb : Sorted b)
    (h : ∀ key, get? key a = get? key b) : a = b := by
  induction a generalizing b with
  | nil =>
    cases b with
    | nil => rfl
    | cons head rest => simpa [get?] using h head.1
  | cons x xs ih =>
    cases b with
    | nil => simpa [get?] using h x.1
    | cons y ys =>
      obtain ⟨hx, hxs⟩ := List.pairwise_cons.1 ha
      obtain ⟨hy, hys⟩ := List.pairwise_cons.1 hb
      have hxb : x ∈ y :: ys :=
        (Sorted.get?_eq_some_iff hb).1 ((h x.1).symm.trans (by simp [get?]))
      have hya : y ∈ x :: xs :=
        (Sorted.get?_eq_some_iff ha).1 ((h y.1).trans (by simp [get?]))
      -- each head is in the other list, and the heads are the least
      have hxy : x = y := by
        rcases List.mem_cons.1 hxb with e | hxb
        · exact e
        · rcases List.mem_cons.1 hya with e | hya
          · exact e.symm
          · exact absurd (hy x hxb) (String.lt_asymm (hx y hya))
      subst hxy
      refine congrArg (x :: ·) (ih hxs hys fun key => ?_)
      have hkey := h key
      by_cases hk : x.1 = key
      · subst hk
        have none_of : ∀ {l : List (String × α)}, (∀ e ∈ l, x.1 < e.1) → get? x.1 l = none := by
          intro l hl
          cases hg : get? x.1 l with
          | none => rfl
          | some v => exact absurd (hl _ (mem_of_get? hg)) (String.lt_irrefl _)
        rw [none_of hx, none_of hy]
      · simpa [get?, hk] using hkey

end Entries

/-! ## Maps -/

/-- A finite map from text to `α`. -/
structure KeyMap (α : Type u) where
  /-- The entries, in the order of their keys. -/
  entries : List (String × α)
  /-- Each key occurs once and the keys grow. -/
  sorted : Entries.Sorted entries
  deriving DecidableEq

namespace KeyMap

/-- The map without entries. -/
def empty : KeyMap α := ⟨[], List.Pairwise.nil⟩

instance : EmptyCollection (KeyMap α) := ⟨empty⟩

instance : Inhabited (KeyMap α) := ⟨empty⟩

/-- The value under `key`. -/
def get? (m : KeyMap α) (key : String) : Option α := Entries.get? key m.entries

/-- Puts `value` under `key`. -/
def insert (m : KeyMap α) (key : String) (value : α) : KeyMap α :=
  ⟨Entries.insert key value m.entries, m.sorted.insert key value⟩

/-- Leaves nothing under `key`. -/
def erase (m : KeyMap α) (key : String) : KeyMap α :=
  ⟨Entries.erase key m.entries, m.sorted.filter _⟩

/-- The keys, in order. -/
def keys (m : KeyMap α) : List String := m.entries.map Prod.fst

/-- The values, in the order of their keys. -/
def values (m : KeyMap α) : List α := m.entries.map Prod.snd

/-- The number of entries. -/
def size (m : KeyMap α) : Nat := m.entries.length

/-- The map that takes, for each key, the last value listed for it. -/
def ofList (entries : List (String × α)) : KeyMap α :=
  entries.foldl (fun m e => m.insert e.1 e.2) empty

/-- The entries of `other` written over those of `m`. -/
def merge (m other : KeyMap α) : KeyMap α :=
  other.entries.foldl (fun m e => m.insert e.1 e.2) m

@[simp] theorem get?_empty (key : String) : (empty : KeyMap α).get? key = none := rfl

theorem get?_insert (m : KeyMap α) (key other : String) (value : α) :
    (m.insert key value).get? other = if key = other then some value else m.get? other :=
  Entries.get?_insert key other value m.entries

theorem get?_erase (m : KeyMap α) (key other : String) :
    (m.erase key).get? other = if key = other then none else m.get? other :=
  Entries.get?_erase key other m.entries

/-- The values that are found are those of the entries. -/
theorem get?_eq_some_iff {m : KeyMap α} {key : String} {value : α} :
    m.get? key = some value ↔ (key, value) ∈ m.entries :=
  m.sorted.get?_eq_some_iff

/-- A map is determined by its view. -/
theorem ext_get? {m n : KeyMap α} (h : ∀ key, m.get? key = n.get? key) : m = n := by
  cases m with | mk a ha =>
  cases n with | mk b hb =>
  cases Entries.Sorted.eq_of_get?_eq ha hb h
  rfl

end KeyMap

end SessionTasks
