/-
# Sessions that have not idled for too long

Sessions that have idled for too long may be dropped at any time: a lookup would drop them, or
make room by dropping them before any other.  So it makes no difference to later lookups which
of them are still there.

* `SessionPool.SameLive` : two pools differ in such sessions only;
* `SessionPool.SameLive.lookup` : a lookup in both pools has one answer, and leaves it so;
* `Server.SameLive.answers` : what two servers answer to lookups, whatever else they are asked.
-/
import SessionTasks.Proofs.Sessions.Lookup
import SessionTasks.Proofs.Sessions.Twins
import SessionTasks.Proofs.Recency.Simulation
namespace SessionTasks

namespace SessionPool

variable {p q : SessionPool} {now later : Nat} {key : SessionKey}

/-! ## Dropping what has idled for too long -/

/-- The sessions that have not idled for too long. -/
theorem sessions_expire (p : SessionPool) (now : Nat) :
    (p.expire now).sessions = p.sessions.keep fun s => !p.isExpired now s := rfl

/-- The sessions that are live are those that expiry leaves. -/
theorem isLive_iff_find?_expire {s : Session} :
    p.IsLive now key s ↔ (p.expire now).find? key = some s := by
  unfold IsLive expire
  rw [find?_keep, Option.filter_eq_some_iff, Bool.not_eq_true']

@[simp] theorem expire_expire (p : SessionPool) (now : Nat) :
    (p.expire now).expire now = p.expire now := by
  unfold expire keep
  congr 2
  dsimp only
  rw [List.filter_filter]
  exact List.filter_congr fun e _ => Bool.and_self _

/-- A session that has idled for too long has done so later too. -/
theorem expire_expire_of_le (h : now ≤ later) (p : SessionPool) :
    (p.expire now).expire later = p.expire later := by
  unfold expire keep
  congr 2
  dsimp only
  rw [List.filter_filter]
  refine List.filter_congr fun e _ => ?_
  -- idling only gets longer, so the later test keeps nothing that the earlier one drops
  unfold isExpired
  dsimp only
  simp only [← decide_not, ← Bool.decide_and]
  refine decide_eq_decide.2 ?_
  omega

/-- It does not matter whether a session is dropped before expiry or after it. -/
theorem expire_drop (p : SessionPool) (now : Nat) (key : SessionKey) :
    (p.drop key).expire now = (p.expire now).drop key :=
  congrArg (SessionPool.mk p.settings p.turns)
    (p.sessions.keep_erase (fun s => !p.isExpired now s) key.text)

/-- One of those sessions may be dropped before. -/
theorem expire_expireOne (p : SessionPool) (now : Nat) (key : SessionKey) :
    (p.expireOne now key).expire now = p.expire now := by
  unfold expireOne
  split
  · rename_i s hs
    split
    · rename_i hexpired
      have hnone : (p.expire now).sessions.get? key.text = none := by
        rw [sessions_expire, KeyMap.get?_keep, hs, Option.filter_some, hexpired]
        rfl
      rw [expire_drop]
      exact congrArg (SessionPool.mk p.settings p.turns) (KeyMap.erase_of_get?_eq_none hnone)
    · rfl
  · rfl

/-- A session that was looked up just now has not idled. -/
theorem expire_insert (p : SessionPool) {s : Session} (hs : s.lastAccess = now) (turns : Nat)
    (key : SessionKey) :
    SessionPool.expire
        { p with turns := turns, sessions := p.sessions.insert key.text s } now =
      { p.expire now with
        turns := turns
        sessions := (p.expire now).sessions.insert key.text s } := by
  have hkept : (!p.isExpired now s) = true := by
    unfold isExpired
    rw [hs, Nat.sub_self]
    rfl
  have hinsert : (p.sessions.insert key.text s).keep (fun s => !p.isExpired now s) =
      (p.expire now).sessions.insert key.text s :=
    p.sessions.keep_insert_of_pos key.text hkept
  exact congrArg (SessionPool.mk p.settings turns) hinsert

/-- Expiry leaves no more sessions than there were. -/
theorem size_expire_le (p : SessionPool) (now : Nat) :
    (p.expire now).sessions.size ≤ p.sessions.size :=
  List.length_filter_le _ _

/-- Room is made for a session by dropping those first. -/
theorem expire_makeRoom (p : SessionPool) (now : Nat) :
    (p.makeRoom now).expire now = ((p.expire now).makeRoom now).expire now := by
  cases hfull : p.isFull with
  | false =>
    -- where there is room, there is room without them too
    have hroom : (p.expire now).isFull = false := by
      have hsize := p.size_expire_le now
      unfold isFull at hfull ⊢
      rw [decide_eq_false_iff_not] at hfull ⊢
      exact fun hc => hfull (hc.trans hsize)
    rw [makeRoom_of_not_full hfull, makeRoom_of_not_full hroom, expire_expire]
  | true =>
    -- they are the first to go, whether a session is dropped after them or not
    unfold makeRoom
    dsimp only
    rw [hfull, if_pos rfl, expire_expire, ite_self]

/-! ## Pools that differ in such sessions only -/

/-- The pools differ only in sessions that have idled for too long. -/
def SameLive (now : Nat) (p q : SessionPool) : Prop := p.expire now = q.expire now

/-- Pools that differ in such sessions only have the same live ones. -/
theorem SameLive.isLive_iff (h : SameLive now p q) {s : Session} :
    p.IsLive now key s ↔ q.IsLive now key s := by
  rw [isLive_iff_find?_expire, isLive_iff_find?_expire, h]

theorem SameLive.mono (h : SameLive now p q) (hle : now ≤ later) : SameLive later p q := by
  unfold SameLive at h ⊢
  rw [← expire_expire_of_le hle p, h, expire_expire_of_le hle]

theorem SameLive.turns (h : SameLive now p q) : p.turns = q.turns := by
  have hturns := congrArg SessionPool.turns h
  exact hturns

theorem SameLive.drop (h : SameLive now p q) (key : SessionKey) :
    SameLive now (p.drop key) (q.drop key) := by
  unfold SameLive
  rw [expire_drop, expire_drop, h]

theorem SameLive.expire (h : SameLive now p q) : SameLive now (p.expire now) (q.expire now) :=
  congrArg (SessionPool.expire · now) h

/-- **A lookup in both pools** finds the session in both or makes it in both, and drops the same
sessions of those that have not idled for too long. -/
theorem SameLive.lookup (h : SameLive now p q) (fresh : StoreId) (key : SessionKey) :
    (p.lookup now fresh key).1 = (q.lookup now fresh key).1 ∧
      SameLive now (p.lookup now fresh key).2 (q.lookup now fresh key).2 := by
  have hturn : p.nextTurn = q.nextTurn := by
    unfold nextTurn
    rw [h.turns]
  by_cases hlive : ∃ s, p.IsLive now key s
  · obtain ⟨s, hs⟩ := hlive
    have hs' := h.isLive_iff.1 hs
    rw [lookup_of_live hs.1 hs.2, lookup_of_live hs'.1 hs'.2]
    refine ⟨rfl, ?_⟩
    unfold SameLive
    rw [hturn, expire_insert _ rfl, expire_insert _ rfl, h]
  · -- both pools make room, and it is the same pool in which they drop a session to do so
    have hdead := not_exists.1 hlive
    have hdead' : ∀ s, ¬ q.IsLive now key s := fun s hs => hdead s (h.isLive_iff.2 hs)
    rw [lookup_of_not_live (find?_expireOne_of_not_live hdead),
      lookup_of_not_live (find?_expireOne_of_not_live hdead')]
    refine ⟨rfl, ?_⟩
    have hone : SameLive now (p.expireOne now key) (q.expireOne now key) := by
      unfold SameLive
      rw [expire_expireOne, expire_expireOne, h]
    have hnext : (p.expireOne now key).nextTurn = (q.expireOne now key).nextTurn := by
      unfold nextTurn
      rw [hone.turns]
    have hroom : ((p.expireOne now key).makeRoom now).expire now =
        ((q.expireOne now key).makeRoom now).expire now := by
      rw [expire_makeRoom, expire_makeRoom (q.expireOne now key), hone]
    unfold SameLive
    rw [hnext, expire_insert _ rfl, expire_insert _ rfl, hroom]

end SessionPool

/-! ## Servers that differ in such sessions only -/

/-- The session that was looked up, if the call was a lookup. -/
def SessionAnswer.opened? : SessionAnswer → Option Opened
  | .opened o => some o
  | _ => none

namespace Server

/-- The servers have made as many stores, and their pools differ only in sessions that have
idled for too long. -/
structure SameLive (s s' : Server) : Prop where
  now : s.now = s'.now
  pool : SessionPool.SameLive s.now s.pool s'.pool
  stores : s.stores.length = s'.stores.length

variable {s s' : Server} {now : Nat}

/-- The clock of both servers may be moved on. -/
theorem SameLive.setClock (h : s.SameLive s') (hnow : s.now ≤ now) :
    SameLive { s with now } { s' with now } :=
  ⟨rfl, h.pool.mono hnow, h.stores⟩

/-- The pools may change as long as they differ in such sessions only. -/
theorem SameLive.setPools (h : s.SameLive s') {p p' : SessionPool}
    (hpool : SessionPool.SameLive s.now p p') :
    SameLive { s with pool := p } { s' with pool := p' } :=
  ⟨h.now, hpool, h.stores⟩

theorem lookup_now (s : Server) (key : SessionKey) : (s.lookup key).2.now = s.now := by
  unfold lookup
  dsimp only
  split <;> rfl

/-- A lookup has one answer in both servers. -/
theorem SameLive.lookup (h : s.SameLive s') (key : SessionKey) :
    (s.lookup key).1 = (s'.lookup key).1 ∧ (s.lookup key).2.SameLive (s'.lookup key).2 := by
  obtain ⟨hopened, hpool⟩ := h.pool.lookup s.stores.length key
  rw [← lookup_fst] at hopened
  rw [← lookup_pool] at hpool
  have hopened' : (s.lookup key).1 = (s'.lookup key).1 := by
    rw [hopened, h.now, h.stores, ← lookup_fst]
  refine ⟨hopened', ?_, ?_, ?_⟩
  · rw [lookup_now, lookup_now, h.now]
  · rw [lookup_now, lookup_pool s']
    rw [h.now, h.stores] at hpool
    rw [h.now]
    exact hpool
  · rw [lookup_stores, lookup_stores, hopened']
    split
    · rw [List.length_append, List.length_append, h.stores]
      rfl
    · exact h.stores

/-- **Step lemma.**  A lookup has one answer in both servers, and no call makes another
difference between them. -/
theorem SameLive.answer (h : s.SameLive s') (hnow : s.now ≤ now) (c : SessionCall) :
    (s.answer now c).1.opened? = (s'.answer now c).1.opened? ∧
      (s.answer now c).2.SameLive (s'.answer now c).2 := by
  have hclock := h.setClock hnow
  cases c with
  | lookup raw =>
    obtain ⟨hopened, hafter⟩ := hclock.lookup (.sanitize raw)
    exact ⟨congrArg some hopened, hafter⟩
  | find raw => exact ⟨rfl, hclock⟩
  | remove raw => exact ⟨rfl, hclock.setPools (hclock.pool.drop _)⟩
  | expire => exact ⟨rfl, hclock.setPools hclock.pool.expire⟩
  | keys => exact ⟨rfl, hclock⟩

theorem answer_now (s : Server) (now : Nat) (c : SessionCall) : (s.answer now c).2.now = now := by
  cases c with
  | lookup raw => exact lookup_now { s with now } _
  | _ => rfl

/-- **Run lemma.**  As long as the clock does not go back, lookups have the same answers in both
servers, whatever else is asked in between. -/
theorem SameLive.answers (calls : List (Nat × SessionCall)) {s s' : Server} (h : s.SameLive s')
    (hclock : (s.now :: calls.map Prod.fst).Pairwise (· ≤ ·)) :
    (s.answers calls).1.filterMap SessionAnswer.opened? =
        (s'.answers calls).1.filterMap SessionAnswer.opened? ∧
      (s.answers calls).2.SameLive (s'.answers calls).2 := by
  induction calls generalizing s s' with
  | nil => exact ⟨rfl, h⟩
  | cons call rest ih =>
    obtain ⟨now, c⟩ := call
    obtain ⟨hfirst, hrest⟩ := List.pairwise_cons.1 hclock
    obtain ⟨hopened, hafter⟩ := h.answer (hfirst now List.mem_cons_self) c
    rw [← s.answer_now now c] at hrest
    obtain ⟨hmore, hend⟩ := ih hafter hrest
    refine ⟨?_, hend⟩
    show ((s.answer now c).1 :: ((s.answer now c).2.answers rest).1).filterMap _ =
      ((s'.answer now c).1 :: ((s'.answer now c).2.answers rest).1).filterMap _
    rw [List.filterMap_cons, List.filterMap_cons, hopened, hmore]

end Server

end SessionTasks
