/-
# What one lookup does to the other sessions

A lookup of a live session marks it as used and touches no other; a lookup of any other
session makes it, and drops other sessions only when the pool is full.

* `SessionPool.find?_lookup_of_ne` : what a lookup leaves of the other sessions;
* `Server.apart_play` : in every schedule each session has a store of its own.
-/
import SessionTasks.Proofs.Schedule
import SessionTasks.Proofs.Sessions
import SessionTasks.Proofs.Recency.Ranking
namespace SessionTasks

/-! ## Pools -/

namespace SessionPool

/-- The session is in the pool and has not idled for too long. -/
def IsLive (p : SessionPool) (now : Nat) (key : SessionKey) (s : Session) : Prop :=
  p.find? key = some s ∧ p.isExpired now s = false

/-- The session that is put under a key is found there, and the others are found as before. -/
theorem find?_insert (p : SessionPool) (key other : SessionKey) (s : Session) (turns : Nat) :
    SessionPool.find? { p with turns := turns, sessions := p.sessions.insert key.text s } other
      = if other = key then some s else p.find? other := by
  unfold find?
  rw [KeyMap.get?_insert]
  by_cases h : other = key
  · rw [if_pos h, if_pos (congrArg SessionKey.text h.symm)]
  · rw [if_neg h, if_neg fun ht => h (SessionKey.text_injective ht.symm)]

/-- A session that is dropped is not found, and the others are found as before. -/
theorem find?_drop (p : SessionPool) (key other : SessionKey) :
    (p.drop key).find? other = if other = key then none else p.find? other := by
  unfold find? drop
  rw [KeyMap.get?_erase]
  by_cases h : other = key
  · rw [if_pos h, if_pos (congrArg SessionKey.text h.symm)]
  · rw [if_neg h, if_neg fun ht => h (SessionKey.text_injective ht.symm)]

/-- Expiry of one session leaves the others. -/
theorem find?_expireOne_of_ne (p : SessionPool) (now : Nat) {key other : SessionKey}
    (hne : other ≠ key) : (p.expireOne now key).find? other = p.find? other := by
  unfold expireOne
  split
  · split
    · rw [find?_drop, if_neg hne]
    · rfl
  · rfl

/-- Where no session is live, none is found after expiry. -/
theorem find?_expireOne_of_not_live {p : SessionPool} {now : Nat} {key : SessionKey}
    (h : ∀ s, ¬ p.IsLive now key s) : (p.expireOne now key).find? key = none := by
  unfold expireOne
  split
  · rename_i s hs
    cases hexpired : p.isExpired now s with
    | true => rw [if_pos rfl, find?_drop, if_pos rfl]
    | false => exact absurd ⟨hs, hexpired⟩ (h s)
  · rename_i hnone
    exact hnone

/-- A pool that is not full has room. -/
theorem makeRoom_of_not_full {p : SessionPool} (h : p.isFull = false) (now : Nat) :
    p.makeRoom now = p := by
  unfold makeRoom
  simp [h]

/-- A lookup brings in no session but its own. -/
theorem find?_of_find?_lookup {p : SessionPool} {now : Nat} {fresh : StoreId}
    {key other : SessionKey} {s : Session} (hne : other ≠ key)
    (h : (p.lookup now fresh key).2.find? other = some s) : p.find? other = some s := by
  by_cases hlive : ∃ own, p.IsLive now key own
  · obtain ⟨own, hown⟩ := hlive
    rw [lookup_of_live hown.1 hown.2, find?_insert, if_neg hne] at h
    exact h
  · rw [lookup_of_not_live (find?_expireOne_of_not_live (not_exists.1 hlive)), find?_insert,
      if_neg hne] at h
    exact ((p.expireOne now key).within_makeRoom now |>.trans (p.within_expireOne now key)).2
      other s h

/-- A lookup leaves the other sessions as they are, unless it has to make room. -/
theorem find?_lookup_of_ne {p : SessionPool} {now : Nat} {fresh : StoreId}
    {key other : SessionKey} (hne : other ≠ key)
    (hroom : (∃ s, p.IsLive now key s) ∨ (p.expireOne now key).isFull = false) :
    (p.lookup now fresh key).2.find? other = p.find? other := by
  by_cases hlive : ∃ s, p.IsLive now key s
  · obtain ⟨s, hs⟩ := hlive
    rw [lookup_of_live hs.1 hs.2, find?_insert, if_neg hne]
  · have hfull := hroom.resolve_left hlive
    rw [lookup_of_not_live (find?_expireOne_of_not_live (not_exists.1 hlive)),
      makeRoom_of_not_full hfull, find?_insert, if_neg hne, find?_expireOne_of_ne p now hne]

end SessionPool

/-! ## A store for each session -/

namespace Server

/-- Every session has a store that was made, and no two sessions have one store. -/
structure Apart (s : Server) : Prop where
  made : ∀ key session, s.pool.find? key = some session → session.store < s.stores.length
  separate : ∀ a b x y, s.pool.find? a = some x → s.pool.find? b = some y →
    x.store = y.store → a = b

variable {s s' : Server}

/-- Stores stay apart where every session keeps its own. -/
theorem Keeps.apart (h : s.Keeps s') (ha : s.Apart) : s'.Apart where
  made := by
    intro key session hs
    obtain ⟨before, hbefore, hstore⟩ := h.sessions key session hs
    rw [← hstore]
    exact (ha.made key before hbefore).trans_le h.stores
  separate := by
    intro a b x y hx hy hstore
    obtain ⟨x', hx', hxstore⟩ := h.sessions a x hx
    obtain ⟨y', hy', hystore⟩ := h.sessions b y hy
    exact ha.separate a b x' y' hx' hy' (hxstore.trans (hstore.trans hystore.symm))

/-- A session that a lookup makes gets a store that no session has. -/
theorem Apart.lookup (h : s.Apart) (key : SessionKey) : (s.lookup key).2.Apart := by
  have hextends := s.extends_lookup key
  have hother : ∀ other session, other ≠ key → (s.lookup key).2.pool.find? other = some session →
      s.pool.find? other = some session := by
    intro other session hne hs
    rw [lookup_pool] at hs
    exact SessionPool.find?_of_find?_lookup hne hs
  -- the looked up session shares its store with no other
  have hown : ∀ other x y, other ≠ key → (s.lookup key).2.pool.find? key = some x →
      (s.lookup key).2.pool.find? other = some y → x.store ≠ y.store := by
    intro other x y hne hx hy hstore
    have hy' := hother other y hne hy
    rcases hextends.sessions key x hx with ⟨before, hbefore, hsame⟩ | ⟨hlow, -⟩
    · exact hne (h.separate key other before y hbefore hy' (hsame.trans hstore)).symm
    · rw [hstore] at hlow
      exact absurd (h.made other y hy') (Nat.not_lt.2 hlow)
  constructor
  · intro other session hs
    rcases hextends.sessions other session hs with ⟨before, hbefore, hsame⟩ | ⟨-, hhigh⟩
    · rw [← hsame]
      exact (h.made other before hbefore).trans_le hextends.stores
    · exact hhigh
  · intro a b x y hx hy hstore
    by_cases ha : a = key
    · by_contra hab
      subst ha
      exact hown b x y (Ne.symm hab) hx hy hstore
    · by_cases hb : b = key
      · subst hb
        exact absurd hstore.symm (hown a y x ha hy hx)
      · exact h.separate a b x y (hother a x ha hx) (hother b y hb hy) hstore

/-- Opening a session keeps the stores apart. -/
theorem Apart.openSession (h : s.Apart) (key : SessionKey) : (s.openSession key).2.Apart := by
  rw [openSession_snd]
  split
  · exact (keeps_start _ _).apart (h.lookup key)
  · exact h.lookup key

theorem Apart.writeUpdate (h : s.Apart) (key : TaskKey) (u : TaskUpdate) :
    (s.writeUpdate key u).2.Apart :=
  (keeps_onStore _ _ _).apart (h.lookup key.session)

theorem Apart.perform (h : s.Apart) (o : Operation) : (s.perform o).Apart := by
  cases hlook : o.looksUp with
  | false => exact (s.keeps_perform hlook).apart h
  | true =>
    cases o with
    | lookup raw => exact h.lookup _
    | openSession raw => exact h.openSession _
    | _ => cases hlook

theorem Apart.begin (h : s.Apart) (key : TaskKey) (n : RunId) : (s.begin key n).2.Apart := by
  unfold Server.begin
  split
  · exact h
  · exact h.writeUpdate key startUpdate

theorem Apart.report (h : s.Apart) (key : TaskKey) (n : RunId) (progress : Binary64)
    (step description : Option String) : (s.report key n progress step description).Apart := by
  unfold Server.report
  split
  · exact h
  · exact h.writeUpdate key _

theorem Apart.finish (h : s.Apart) (key : TaskKey) (n : RunId) (outcome : Except Failure Unit) :
    (s.finish key n outcome).Apart := by
  have hrelease : (s.giveUp key n).Apart := (s.keeps_giveUp key n).apart h
  unfold Server.finish
  dsimp only
  split
  · exact hrelease
  · exact hrelease.writeUpdate key _

theorem Apart.cancelRun (h : s.Apart) (key : TaskKey) : (s.cancelRun key).2.Apart := by
  unfold Server.cancelRun
  split
  · exact h
  · rename_i n _
    have hmark : s.Keeps (s.markCancelled key n) := .of_pool rfl le_rfl
    exact (hmark.apart h).writeUpdate key _

theorem Apart.cancelRuns (keys : List TaskKey) {s : Server} (h : s.Apart) :
    (s.cancelRuns keys).2.Apart := by
  induction keys generalizing s with
  | nil => exact h
  | cons key rest ih => exact ih (h.cancelRun key)

/-- The stores of a fresh server are apart, for there are none. -/
theorem apart_ofConfig {c : Config} {epoch issued : Nat} {files : FileTree} {s : Server}
    (hs : ofConfig c epoch files issued = .ok s) : s.Apart := by
  have hpool := ofConfig_pool hs
  constructor
  · intro key session hk
    rw [hpool] at hk
    cases hk
  · intro a b x y hx
    rw [hpool] at hx
    cases hx

end Server

/-- A step of a run keeps the sessions apart. -/
theorem RunState.apart_step (r : RunState) (n : RunId) {s : Server} (h : s.Apart) (a : RunStep) :
    (r.step n s a).1.Apart := by
  have htakes := r.takes_step n s a
  generalize r.step n s a = after at htakes ⊢
  cases htakes with
  | accepted hstage haccept => exact (Server.keeps_accept? haccept).apart h
  | begun hstage hbegin =>
    have hafter := h.begin r.key n
    rw [hbegin] at hafter
    exact hafter
  | unbegun outcome hstage hbegin =>
    have hafter := h.begin r.key n
    rw [hbegin] at hafter
    exact hafter
  | reported progress step description htask => exact h.report r.key n progress step description
  | finished hstage => exact h.finish r.key n _
  | givenUp hstage => exact (s.keeps_giveUp r.key n).apart h
  | _ => exact h

namespace Schedule

/-- **Step lemma.** A move keeps the stores apart. -/
theorem apart_move {s : Schedule} (h : s.server.Apart) (m : Move) : (s.move m).server.Apart := by
  cases m with
  | operate o => exact h.perform o
  | ask key => exact h
  | cancel key => exact h.cancelRun key
  | cancelAll => exact Server.Apart.cancelRuns _ h
  | step n a =>
    cases hr : s.runs[n]? with
    | none => simpa only [move, hr] using h
    | some r =>
      rw [move_step hr]
      exact r.apart_step n h a

/-- **In every schedule each session has a store of its own.** -/
theorem apart_play {s : Schedule} (h : s.server.Apart) (moves : List Move) :
    (s.play moves).server.Apart := by
  induction moves generalizing s with
  | nil => exact h
  | cons m rest ih => exact ih (apart_move h m)

end Schedule

end SessionTasks
