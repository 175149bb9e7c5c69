/-
# Edits that fail, and sealed stores

A caller changes a record by a function that edits a copy of it.  What the function leaves of the
copy counts only if it returns.  If it fails, the store is as it was; if it breaks off, the store
is sealed: its tables are as they were, and whoever asks for them is refused.

* `Store.editLaws` : what comes of an edit;
* `Store.failure?_reply` : a sealed store answers no question;
* `Server.failure?_reply` : every operation that takes the lock of a sealed store is refused.
-/
import SessionTasks.Proofs.Example
import SessionTasks.Proofs.Script
import SessionTasks.Proofs.Store.Decoding
import SessionTasks.Proofs.Task.Ownership
namespace SessionTasks

/-! ## Edits -/

/-- How a function that edits a record ends. -/
inductive EditEnd where
  /-- It returns. -/
  | returned
  /-- It fails. -/
  | failed (f : Failure)
  /-- It breaks off with a text. -/
  | panicked (text : String)

/-- A function that edits a record: what it leaves of the record, and how it ends. -/
abbrev Edit := Record → Record × EditEnd

/-- The change that an edit of a copy makes. -/
def Edit.change (e : Edit) (r : Record) : Change :=
  match e r with
  | (left, .returned) => .done left
  | (_, .failed f) => .refused f
  | (_, .panicked text) => .broken text

namespace Store

variable {s : Store} {table id : String}

/-- The store after a change of one of its records broke off. -/
def sealed (s : Store) : Store := { s with poisoned := true }

theorem find?_eq_ok_iff {found : Option Record} :
    s.find? table id = .ok found ↔ s.poisoned = false ∧ s.tables.find? table id = found := by
  rw [find?_eq]
  cases s.poisoned <;> simp

/-- What a store does with edits of its records, if it is not sealed. -/
structure EditLaws (s : Store) : Prop where
  /-- There is no record: no edit is tried, and none is made. -/
  missing : ∀ table id, s.find? table id = .ok none → ∀ e : Edit,
    s.modify table id e.change = (.missing, s)
  /-- What a failing edit leaves of the copy is dropped. -/
  failed : ∀ table id old, s.find? table id = .ok (some old) → ∀ (e : Edit) left f,
    e old = (left, .failed f) → s.modify table id e.change = (.refused f, s)
  /-- So is what a breaking edit leaves, and the store is sealed. -/
  panicked : ∀ table id old, s.find? table id = .ok (some old) → ∀ (e : Edit) left text,
    e old = (left, .panicked text) → s.modify table id e.change = (.broken text, s.sealed)

/-- **A failing edit leaves the store as it is, and a breaking one seals it.** -/
theorem editLaws (s : Store) : s.EditLaws where
  missing := by
    intro table id hfound e
    obtain ⟨hpoisoned, hnone⟩ := find?_eq_ok_iff.1 hfound
    have haccess : s.access = .ok s.tables := access_eq_ok_iff.2 ⟨hpoisoned, rfl⟩
    simp only [modify, haccess, hnone]
  failed := by
    intro table id old hfound e left f he
    obtain ⟨hpoisoned, hold⟩ := find?_eq_ok_iff.1 hfound
    have haccess : s.access = .ok s.tables := access_eq_ok_iff.2 ⟨hpoisoned, rfl⟩
    simp only [modify, haccess, hold, Edit.change, he]
  panicked := by
    intro table id old hfound e left text he
    obtain ⟨hpoisoned, hold⟩ := find?_eq_ok_iff.1 hfound
    have haccess : s.access = .ok s.tables := access_eq_ok_iff.2 ⟨hpoisoned, rfl⟩
    simp only [modify, haccess, hold, Edit.change, he, sealed]

/-- A change that broke off has found a record, and has sealed the store. -/
theorem modify_of_broken {change : Record → Change} {text : String}
    (h : (s.modify table id change).1 = .broken text) :
    (∃ old, s.tables.find? table id = some old) ∧ (s.modify table id change).2 = s.sealed := by
  unfold modify at h ⊢
  split at h
  · cases h
  · rename_i tables haccess
    obtain ⟨-, rfl⟩ := access_eq_ok_iff.1 haccess
    split at h
    · cases h
    · rename_i old hold
      split at h
      · cases h
      · exact ⟨⟨old, hold⟩, rfl⟩
      · cases h

/-! ## A sealed store is asked -/

theorem modify_of_poisoned (h : s.poisoned = true) (table id : String)
    (change : Record → Change) : s.modify table id change = (.refused .storePoisoned, s) := by
  unfold modify
  rw [access_of_poisoned h]

theorem modifyTask_of_poisoned (h : s.poisoned = true) (session : SessionKey) (id : String)
    (f : Task → Task) : s.modifyTask session id f = (.error .storePoisoned, s) := by
  rw [modifyTask_eq, if_pos h]

theorem put_of_poisoned (h : s.poisoned = true) (now : Int64) (fresh table : String) (r : Record) :
    s.put now fresh table r = (.error .storePoisoned, s) := by
  unfold put
  rw [access_of_poisoned h]

/-- A sealed store takes no tables from its file. -/
theorem load_of_poisoned (h : s.poisoned = true) {files : FileTree} {tables : Tables}
    (hfile : FileSays files s.settings.path tables) : s.load files = .error .storePoisoned := by
  have hreplace : ∀ tables, s.replace tables = .error .storePoisoned := by
    intro tables
    unfold replace
    rw [access_of_poisoned h]
    rfl
  unfold load
  cases hpath : s.settings.path with
  | none => exact hreplace .empty
  | some path =>
    rw [hpath] at hfile
    dsimp only
    rcases fileSays_some_iff.1 hfile with ⟨hread, -⟩ | ⟨text, hread, htext⟩
    · rw [hread]
      exact hreplace .empty
    · rw [hread]
      dsimp only
      rw [htext]
      exact hreplace tables

end Store

/-! ## What is told of a failure -/

/-- The failure that a caller is told, in place of what was asked for. -/
def StoreReply.failure? : StoreReply → Option Failure
  | .names (.error f) | .row (.error f) | .rows (.error f) | .record (.error f)
  | .changed (.refused f) | .task (.error f) | .tasks (.error f) | .stats (.error f)
  | .count (.error f) | .loaded (.error f) | .done (.error f) => some f
  | _ => none

/-- **A sealed store answers no question.** -/
theorem Store.failure?_reply {s : Store} (h : s.poisoned = true) (q : StoreQuery) :
    (s.reply q).failure? = some .storePoisoned := by
  unfold reply
  cases q with
  | tableNames =>
    dsimp only
    unfold tableNames
    rw [access_of_poisoned h]
    rfl
  | find table id =>
    dsimp only
    rw [find?_eq, if_pos h]
    rfl
  | all table =>
    dsimp only
    rw [(withholds_of_poisoned h table .empty).all]
    rfl
  | findAll table e =>
    dsimp only
    rw [(withholds_of_poisoned h table e).findAll]
    rfl
  | findFirst table e =>
    dsimp only
    rw [(withholds_of_poisoned h table e).findFirst]
    rfl
  | task session id =>
    dsimp only
    rw [task_eq, if_pos h]
    rfl
  | tasks session filter =>
    dsimp only
    rw [tasks_eq, if_pos h]
    rfl
  | taskStats session =>
    dsimp only
    unfold taskStats
    rw [tasks_eq, if_pos h]
    rfl

namespace Server

variable {s : Server} {id : StoreId}

/-- The operation comes to take the lock of the store.  A store without a file is not saved, one
whose file cannot be read is not loaded, and one that is not to be loaded is not started. -/
def Locks (s : Server) (id : StoreId) : StoreOperation → Prop
  | .save => ∃ path, (s.store id).settings.path = some path
  | .load => ∃ tables, Store.FileSays s.files (s.store id).settings.path tables
  | .start => (s.store id).settings.loadOnStartup = true ∧
      ∃ tables, Store.FileSays s.files (s.store id).settings.path tables
  | _ => True

theorem onStore_fst {α : Type} (s : Server) (id : StoreId) (f : Store → α × Store) :
    (s.onStore id f).1 = (f (s.store id)).1 :=
  rfl

/-- A sealed store is not written to its file. -/
theorem save_of_poisoned (h : (s.store id).poisoned = true) :
    ∃ f, s.save id = (.error f, s) ∧
      (f = .storePoisoned ∨ (s.store id).settings.path = none) := by
  have hsave : ∃ f, (s.store id).save s.files = .error f ∧
      (f = .storePoisoned ∨ (s.store id).settings.path = none) := by
    unfold Store.save
    cases (s.store id).settings.path with
    | none => exact ⟨_, rfl, Or.inr rfl⟩
    | some path =>
      rw [Store.access_of_poisoned h]
      exact ⟨_, rfl, Or.inl rfl⟩
  obtain ⟨f, hsave, hf⟩ := hsave
  refine ⟨f, ?_, hf⟩
  unfold save
  rw [hsave]

/-- A sealed store is not loaded. -/
theorem load_of_poisoned (h : (s.store id).poisoned = true) :
    ∃ f, (s.store id).load s.files = .error f := by
  cases hload : (s.store id).load s.files with
  | error f => exact ⟨f, rfl⟩
  | ok after =>
    have hsound := (Store.load_eq_ok_iff.1 hload).1
    rw [h] at hsound
    cases hsound

/-- **Every operation that takes the lock of a sealed store is refused.** -/
theorem failure?_reply (h : (s.store id).poisoned = true) {o : StoreOperation}
    (ho : s.Locks id o) : (s.reply id o).failure? = some .storePoisoned := by
  unfold reply
  cases o with
  | put table r =>
    have hput : ∀ s' : Server, s'.store id = s.store id →
        (s'.onStore id fun store => store.put s.clock s.issue.1 table r).1 =
          .error .storePoisoned := by
      intro s' hs'
      rw [onStore_fst, hs', Store.put_of_poisoned h]
    dsimp only
    unfold put
    dsimp only
    rw [hput]
    · rfl
    · split <;> rfl
  | modify table name change =>
    dsimp only
    rw [onStore_fst]
    rw [Store.modify_of_poisoned h]
    rfl
  | delete table name =>
    dsimp only
    rw [onStore_fst]
    unfold Store.delete
    rw [Store.access_of_poisoned h]
    rfl
  | deleteTable table =>
    dsimp only
    rw [onStore_fst]
    unfold Store.deleteTable
    rw [Store.access_of_poisoned h]
    rfl
  | clear =>
    dsimp only
    rw [onStore_fst]
    unfold Store.clear
    rw [Store.access_of_poisoned h]
    rfl
  | createTask session d =>
    have hcreate : ∀ fresh now, ((s.store id).createTask session fresh now d).1 =
        .error .storePoisoned := by
      intro fresh now
      unfold Store.createTask
      rw [Store.put_of_poisoned h]
    dsimp only
    show (StoreReply.task ((s.store id).createTask session _ _ d).1).failure? = _
    rw [hcreate]
    rfl
  | updateTask session task u =>
    dsimp only
    rw [onStore_fst]
    unfold Store.updateTask
    rw [Store.modifyTask_of_poisoned h]
    rfl
  | cancelTask session task =>
    dsimp only
    rw [onStore_fst]
    unfold Store.cancelTask
    rw [Store.modifyTask_of_poisoned h]
    rfl
  | retryTask session task =>
    dsimp only
    rw [onStore_fst]
    unfold Store.retryTask
    rw [Store.modifyTask_of_poisoned h]
    rfl
  | deleteTask session task =>
    dsimp only
    rw [onStore_fst]
    unfold Store.deleteTask
    rw [Store.task_eq, if_pos h]
    rfl
  | trimTasks session limits =>
    dsimp only
    rw [onStore_fst]
    unfold Store.trimTasks
    rw [Store.tasks_eq, if_pos h]
    rfl
  | save =>
    obtain ⟨path, hpath⟩ := ho
    obtain ⟨f, hsave, rfl | hnone⟩ := save_of_poisoned h
    · dsimp only
      rw [hsave]
      rfl
    · rw [hpath] at hnone
      cases hnone
  | load =>
    obtain ⟨tables, hfile⟩ := ho
    dsimp only
    unfold load
    rw [Store.load_of_poisoned h hfile]
    rfl
  | start =>
    obtain ⟨hstart, tables, hfile⟩ := ho
    dsimp only
    unfold start startFrom Store.start
    rw [if_pos hstart, Store.load_of_poisoned h hfile]
    rfl

/-- A sealed store gives nothing away.  Whatever is asked of it fails, but for the start of a
store that is not to be loaded, which does nothing. -/
theorem failure?_reply_or (h : (s.store id).poisoned = true) (o : StoreOperation) :
    (∃ f, (s.reply id o).failure? = some f) ∨ s.reply id o = .loaded (.ok false) := by
  by_cases ho : s.Locks id o
  · exact Or.inl ⟨_, failure?_reply h ho⟩
  · cases o with
    | save =>
      obtain ⟨f, hsave, -⟩ := save_of_poisoned h
      refine Or.inl ⟨f, ?_⟩
      show (StoreReply.done (s.save id).1).failure? = some f
      rw [hsave]
      rfl
    | load =>
      obtain ⟨f, hload⟩ := load_of_poisoned h
      refine Or.inl ⟨f, ?_⟩
      show (StoreReply.done (s.load id).1).failure? = some f
      unfold load
      rw [hload]
      rfl
    | start =>
      obtain ⟨f, hload⟩ := load_of_poisoned h
      show (∃ f, (StoreReply.loaded (s.start id).1).failure? = some f) ∨
        StoreReply.loaded (s.start id).1 = .loaded (.ok false)
      unfold start startFrom Store.start
      by_cases hstart : (s.store id).settings.loadOnStartup = true
      · rw [if_pos hstart, hload]
        exact Or.inl ⟨f, rfl⟩
      · rw [if_neg hstart]
        exact Or.inr rfl
    | _ => exact absurd trivial ho

/-- No operation on a sealed store writes a file. -/
theorem files_useStore (h : (s.store id).poisoned = true) (o : StoreOperation) :
    (s.useStore id o).files = s.files := by
  cases o with
  | put table r =>
    show (s.put id table r).2.files = s.files
    unfold put
    dsimp only
    split <;> rfl
  | save =>
    obtain ⟨f, hsave, -⟩ := save_of_poisoned h
    show (s.save id).2.files = s.files
    rw [hsave]
  | load =>
    obtain ⟨f, hload⟩ := load_of_poisoned h
    show (s.load id).2.files = s.files
    unfold load
    rw [hload]
  | start =>
    show (s.start id).2.files = s.files
    unfold start startFrom
    split <;> rfl
  | _ => rfl

end Server

end SessionTasks
