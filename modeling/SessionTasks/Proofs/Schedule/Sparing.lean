/-
# What leaves a task alone

A task in a store changes when something is written to it, or when its row is put in its place or
read from a file.  All else that callers do leaves the task as it is, or drops it.

* `StoreOperation.Supplants`, `StoreOperation.write?` : what changes a task;
* `Server.spares_perform` : what callers do besides leaves the task alone;
* `Server.store_writeUpdate` : where a write on behalf of a run goes.
-/
import SessionTasks.Proofs.Schedule.Frame
import SessionTasks.Proofs.Schedule.Loading
import SessionTasks.Proofs.Sessions.Owners
import SessionTasks.Proofs.Task.Lifetime
namespace SessionTasks

namespace StoreOperation

/-- The operation puts a row in the place of that of a task, or reads the store from its file.  An
identifier that it gives out follows the first `issued`. -/
def Supplants (key : TaskKey) (issued : Nat) : StoreOperation → Prop
  | .put table r =>
    table = Task.table ∧ (if r.id.isEmpty then identifier (issued + 1) else r.id) = key.task
  | .modify table name _ => table = Task.table ∧ name = key.task
  | .createTask _ _ => identifier (issued + 1) = key.task
  | .load => True
  | .start => True
  | _ => False

/-- What the operation writes to a task, if it writes to it. -/
def write? (key : TaskKey) : StoreOperation → Option TaskWrite
  | .updateTask session name u => if TaskKey.mk session name = key then some (.update u) else none
  | .cancelTask session name => if TaskKey.mk session name = key then some .cancel else none
  | .retryTask session name => if TaskKey.mk session name = key then some .retry else none
  | _ => none

end StoreOperation

namespace Server

variable {s s' s'' : Server} {id : StoreId} {key : TaskKey}

/-- In the store the task has gone, or it is as it was. -/
def Spares (id : StoreId) (key : TaskKey) (s s' : Server) : Prop :=
  Store.Spares key.session key.task (s.store id) (s'.store id)

theorem Spares.of_store (h : s'.store id = s.store id) : Spares id key s s' := by
  unfold Spares
  rw [h]
  exact Store.Spares.refl _ _ _

theorem Spares.trans (h : Spares id key s s') (h' : Spares id key s' s'') : Spares id key s s'' :=
  Store.Spares.trans h h'

theorem store_of_stores (h : s'.stores = s.stores) : s'.store id = s.store id := by
  unfold store
  rw [h]

theorem spares_setStore {other : StoreId} {store : Store}
    (h : other = id → Store.Spares key.session key.task (s.store other) store) :
    Spares id key s (s.setStore other store) := by
  unfold Spares
  rw [store_setStore]
  split
  · rename_i hid
    rw [hid.1]
    exact h hid.1.symm
  · exact Store.Spares.refl _ _ _

/-! ## What callers do -/

/-- What is done with another store does not reach this one. -/
theorem store_useStore_of_ne {other : StoreId} (hne : id ≠ other) (o : StoreOperation) :
    (s.useStore other o).store id = s.store id := by
  have hset : ∀ (t : Server) (store : Store), t.stores = s.stores →
      (t.setStore other store).store id = s.store id := by
    intro t store ht
    rw [store_setStore, if_neg fun h => hne h.1, store_of_stores ht]
  cases o with
  | put table r =>
    refine hset (if r.id.isEmpty && !(s.store other).poisoned then s.issue.2 else s) _ ?_
    split <;> rfl
  | createTask session d => exact hset s.issue.2 _ rfl
  | save =>
    show (s.save other).2.store id = s.store id
    unfold save
    split <;> rfl
  | load =>
    show (s.load other).2.store id = s.store id
    unfold load
    split
    · exact hset s _ rfl
    · rfl
  | start =>
    show (s.start other).2.store id = s.store id
    unfold start startFrom
    split
    · exact hset s _ rfl
    · rfl
  | _ => exact hset s _ rfl

/-- **What a caller does with a store** leaves the task alone, unless it writes to the task. -/
theorem spares_useStore {other : StoreId} {o : StoreOperation}
    (hkept : other = id → ¬ o.Supplants key s.issued) (hwrite : other = id → o.write? key = none) :
    Spares id key s (s.useStore other o) := by
  by_cases hid : other = id
  · subst hid
    have hkept : ¬ o.Supplants key s.issued := hkept rfl
    have hwrite : o.write? key = none := hwrite rfl
    have hother : ∀ {session : SessionKey} {name : String} {w : TaskWrite},
        (if TaskKey.mk session name = key then some w else none) = none →
          ¬ (session = key.session ∧ name = key.task) := by
      rintro session name w hnone ⟨rfl, rfl⟩
      rw [if_pos rfl] at hnone
      cases hnone
    cases o with
    | put table r =>
      -- a record that has an identifier keeps it, and any other takes the one given out
      have hstore :
          (if r.id.isEmpty && !(s.store other).poisoned then s.issue.2 else s).store other =
            s.store other := by
        split <;> rfl
      have hput : Spares other key
          (if r.id.isEmpty && !(s.store other).poisoned then s.issue.2 else s)
          (s.useStore other (.put table r)) :=
        spares_setStore fun _ => Store.spares_put hkept
      unfold Spares at hput ⊢
      rw [hstore] at hput
      exact hput
    | modify table name change => exact spares_setStore fun _ => Store.spares_modify hkept
    | delete table name => exact spares_setStore fun _ => Store.spares_delete table name
    | deleteTable table => exact spares_setStore fun _ => Store.spares_deleteTable table
    | clear => exact spares_setStore fun _ => Store.spares_clear
    | createTask session d =>
      exact spares_setStore (s := s.issue.2) fun _ => Store.spares_createTask hkept
    | updateTask session name u =>
      exact spares_setStore fun _ =>
        Store.spares_modifyTask (u.preserves_apply s.clock) (hother hwrite)
    | cancelTask session name =>
      exact spares_setStore fun _ =>
        Store.spares_modifyTask (Task.preserves_cancel s.clock) (hother hwrite)
    | retryTask session name =>
      exact spares_setStore fun _ =>
        Store.spares_modifyTask (Task.preserves_retry s.clock) (hother hwrite)
    | deleteTask session name => exact spares_setStore fun _ => Store.spares_deleteTask session name
    | trimTasks session limits =>
      exact spares_setStore fun _ => Store.spares_trimTasks session limits
    | save =>
      refine .of_store ?_
      show (s.save other).2.store other = s.store other
      unfold save
      split <;> rfl
    | load => exact absurd trivial hkept
    | start => exact absurd trivial hkept
  · exact .of_store (store_useStore_of_ne (Ne.symm hid) o)

/-- A lookup does not reach the stores that there are. -/
theorem store_lookup (hid : id < s.stores.length) (session : SessionKey) :
    (s.lookup session).2.store id = s.store id := by
  unfold store
  rw [lookup_stores]
  split
  · rw [List.getElem?_append_left hid]
  · rfl

theorem store_openSession (hid : id < s.stores.length) (session : SessionKey) :
    (s.openSession session).2.store id = s.store id := by
  rw [openSession_snd]
  split
  · rename_i hcreated
    -- only the store that was just made is started
    have hne : id ≠ (s.lookup session).1.store := by
      rw [store_of_created hcreated]
      exact Nat.ne_of_lt hid
    exact (store_useStore_of_ne hne .start).trans (store_lookup hid session)
  · exact store_lookup hid session

theorem spares_trimSessions (limits : RetentionLimits) (sessions : List SessionKey) (s : Server) :
    Spares id key s (s.trimSessions limits sessions).2 := by
  induction sessions generalizing s with
  | nil => exact .of_store rfl
  | cons session rest ih =>
    unfold trimSessions
    cases s.existing? session with
    | none => exact ih s
    | some opened =>
      have htrim : Spares id key s
          (s.onStore opened.store fun store => store.trimTasks session limits).2 :=
        spares_setStore fun _ => Store.spares_trimTasks session limits
      dsimp only
      split
      all_goals exact htrim.trans (ih _)

theorem spares_sweep (s : Server) : Spares id key s s.sweep.2 := by
  have htrim : Spares id key s.expireSessions.2
      (s.expireSessions.2.trimSessions s.expireSessions.2.sweeper.options.limits
        s.expireSessions.2.pool.keys).2 := spares_trimSessions _ _ _
  exact htrim

/-- **What callers do** leaves the task alone, unless they write to it. -/
theorem spares_perform (hid : id < s.stores.length) {o : Operation}
    (ho : ∀ p, o = .useStore id p → ¬ p.Supplants key s.issued ∧ p.write? key = none) :
    Spares id key s (s.perform o) := by
  cases o with
  | lookup raw => exact .of_store (store_lookup hid _)
  | openSession raw => exact .of_store (store_openSession hid _)
  | addStore settings =>
    refine .of_store ?_
    show (s.addStore settings).2.store id = s.store id
    rw [store_addStore, if_neg (Nat.ne_of_lt hid)]
  | useStore other p =>
    refine spares_useStore (fun h => (ho p ?_).1) fun h => (ho p ?_).2 <;> rw [h]
  | sweep => exact spares_sweep s
  | startTimer =>
    refine .of_store (store_of_stores ?_)
    show s.startTimer.2.stores = s.stores
    unfold startTimer
    split <;> rfl
  | tick =>
    show Spares id key s s.tick
    unfold tick
    split
    · exact .of_store rfl
    · exact spares_sweep _
  | _ => exact .of_store rfl

/-! ## What is written on behalf of runs -/

theorem lookup_key (s : Server) (session : SessionKey) : (s.lookup session).1.key = session := by
  rw [lookup_fst]
  unfold SessionPool.lookup
  dsimp only
  split <;> rfl

theorem lookup_clock (s : Server) (session : SessionKey) :
    (s.lookup session).2.clock = s.clock := by
  rw [(s.sameAround_lookup session).2]
  rfl

/-- The store that a write for a task leaves. -/
theorem store_writeUpdate (hid : id < s.stores.length) (other : TaskKey) (u : TaskUpdate) :
    (s.writeUpdate other u).2.store id =
      if (s.lookup other.session).1.store = id then
        ((s.store id).updateTask other.session other.task s.clock u).2
      else s.store id := by
  have hlength : id < (s.lookup other.session).2.stores.length :=
    lt_of_lt_of_le hid (s.extends_lookup other.session).stores
  rw [writeUpdate_snd, store_setStore, lookup_key, lookup_clock]
  split
  · rename_i h
    rw [if_pos h.1.symm, ← h.1, store_lookup hid]
  · rename_i h
    rw [if_neg fun hstore => h ⟨hstore.symm, hlength⟩, store_lookup hid]

end Server

end SessionTasks
