/-
# Where the stores of sessions come from

A session gets its store when it is made and keeps it.  `Server.Keeps` says that an operation
makes no session, `Server.Extends` that it gives each session that it makes a store that was
not there before.  Only lookups make sessions.

* `Server.extends_lookup` : a lookup extends the server;
* `Server.keeps_perform` : what is no lookup and opens no session makes none.
-/
import SessionTasks.Proofs.Operation
import SessionTasks.Server.Runs
namespace SessionTasks

/-! ## Pools -/

namespace SessionPool

/-- Every session of the pool is one of the other pool. -/
def Within (q p : SessionPool) : Prop :=
  q.settings = p.settings ∧ ∀ key session, q.find? key = some session → p.find? key = some session

theorem Within.refl (p : SessionPool) : p.Within p := ⟨rfl, fun _ _ h => h⟩

theorem Within.trans {a b c : SessionPool} (h : a.Within b) (h' : b.Within c) : a.Within c :=
  ⟨h.1.trans h'.1, fun key session hs => h'.2 key session (h.2 key session hs)⟩

/-- Dropping a session makes none. -/
theorem within_drop (p : SessionPool) (key : SessionKey) : (p.drop key).Within p := by
  refine ⟨rfl, fun other session hs => ?_⟩
  unfold find? drop at hs
  rw [KeyMap.get?_erase] at hs
  split at hs
  · cases hs
  · exact hs

/-- A test that sessions have to pass makes none. -/
theorem within_keep (p : SessionPool) (test : Session → Bool) : (p.keep test).Within p := by
  refine ⟨rfl, fun key session hs => ?_⟩
  unfold find? at hs ⊢
  rw [KeyMap.get?_eq_some_iff] at hs ⊢
  exact List.mem_of_mem_filter hs

/-- Dropping what has expired makes no session. -/
theorem within_expire (p : SessionPool) (now : Nat) : (p.expire now).Within p :=
  p.within_keep _

/-- Dropping one session that has expired makes none. -/
theorem within_expireOne (p : SessionPool) (now : Nat) (key : SessionKey) :
    (p.expireOne now key).Within p := by
  unfold expireOne
  split
  · split
    · exact p.within_drop key
    · exact Within.refl p
  · exact Within.refl p

/-- Making room for one session makes none. -/
theorem within_evict (p : SessionPool) : p.evict.Within p := by
  unfold evict
  split
  · exact p.within_drop _
  · exact Within.refl p

/-- Making room, in whatever way, makes no session. -/
theorem within_makeRoom (p : SessionPool) (now : Nat) : (p.makeRoom now).Within p := by
  have hexpire : (if p.isFull then p.expire now else p).Within p := by
    split
    · exact p.within_expire now
    · exact Within.refl p
  unfold makeRoom
  generalize (if p.isFull then p.expire now else p) = q at hexpire
  dsimp only
  split
  · exact q.within_evict.trans hexpire
  · exact hexpire

/-- **What a lookup leaves.**  The settings stay, and every session was there before with its
store, or is the one that the lookup made. -/
theorem find?_lookup (p : SessionPool) (now : Nat) (fresh : StoreId) (key : SessionKey) :
    (p.lookup now fresh key).2.settings = p.settings ∧
      ∀ other session, (p.lookup now fresh key).2.find? other = some session →
        (∃ before, p.find? other = some before ∧ before.store = session.store) ∨
          (p.lookup now fresh key).1.created = true ∧ session.store = fresh := by
  have hone := p.within_expireOne now key
  have hroom := ((p.expireOne now key).within_makeRoom now).trans hone
  unfold lookup
  dsimp only
  split
  -- the session is live: it is put back, and keeps its store
  · rename_i s hs
    refine ⟨hone.1, fun other session hsession => Or.inl ?_⟩
    unfold find? at hsession
    rw [KeyMap.get?_insert] at hsession
    split at hsession
    · rename_i hkey
      cases hsession
      have hfound := hone.2 key s hs
      unfold find? at hfound ⊢
      rw [← hkey]
      exact ⟨s, hfound, rfl⟩
    · exact ⟨session, hone.2 other session hsession, rfl⟩
  -- the session is made: room is made for it, and it gets the store that comes next
  · refine ⟨hroom.1, fun other session hsession => ?_⟩
    unfold find? at hsession
    rw [KeyMap.get?_insert] at hsession
    split at hsession
    · cases hsession
      exact Or.inr ⟨rfl, rfl⟩
    · exact Or.inl ⟨session, hroom.2 other session hsession, rfl⟩

/-- A lookup leads to the store of a session that was live, or makes a session. -/
theorem store_lookup (p : SessionPool) (now : Nat) (fresh : StoreId) (key : SessionKey) :
    ((p.lookup now fresh key).1.created = false ∧
        ∃ session, p.find? key = some session ∧
          session.store = (p.lookup now fresh key).1.store) ∨
      (p.lookup now fresh key).1 = ⟨key, fresh, true⟩ := by
  unfold lookup
  dsimp only
  split
  · rename_i s hs
    exact Or.inl ⟨rfl, s, (p.within_expireOne now key).2 key s hs, rfl⟩
  · exact Or.inr rfl

/-- A lookup of a session that is live and has not idled for too long. -/
theorem lookup_of_live {p : SessionPool} {now : Nat} {key : SessionKey} {s : Session}
    (hs : p.find? key = some s) (hlive : p.isExpired now s = false) (fresh : StoreId) :
    p.lookup now fresh key =
      (⟨key, s.store, false⟩,
        { p with
          turns := p.nextTurn
          sessions := p.sessions.insert key.text
            { s with lastAccess := now, turn := p.nextTurn } }) := by
  have hexpire : p.expireOne now key = p := by
    unfold expireOne
    unfold find? at hs
    rw [hs]
    dsimp only
    rw [hlive]
    rfl
  unfold lookup
  dsimp only
  rw [hexpire, hs]

/-- A lookup of a session that is not live, or has just been dropped. -/
theorem lookup_of_not_live {p : SessionPool} {now : Nat} {key : SessionKey}
    (hs : (p.expireOne now key).find? key = none) (fresh : StoreId) :
    p.lookup now fresh key =
      (⟨key, fresh, true⟩,
        { (p.expireOne now key).makeRoom now with
          turns := (p.expireOne now key).nextTurn
          sessions := ((p.expireOne now key).makeRoom now).sessions.insert key.text
            ⟨key, fresh, now, (p.expireOne now key).nextTurn⟩ }) := by
  unfold lookup
  dsimp only
  rw [hs]

end SessionPool

/-! ## Servers -/

namespace Server

/-- The server has made no session since then, and forgot no store. -/
structure Keeps (s s' : Server) : Prop where
  settings : s'.pool.settings = s.pool.settings
  stores : s.stores.length ≤ s'.stores.length
  /-- Every session has the store that it had. -/
  sessions : ∀ key session, s'.pool.find? key = some session →
    ∃ before, s.pool.find? key = some before ∧ before.store = session.store

/-- The server has forgotten no store since then, and each session that it made has a store that
was made since then too. -/
structure Extends (s s' : Server) : Prop where
  settings : s'.pool.settings = s.pool.settings
  stores : s.stores.length ≤ s'.stores.length
  /-- Every session has the store that it had, or a new one. -/
  sessions : ∀ key session, s'.pool.find? key = some session →
    (∃ before, s.pool.find? key = some before ∧ before.store = session.store) ∨
      s.stores.length ≤ session.store ∧ session.store < s'.stores.length

variable {s s' s'' : Server}

/-- A server that has made no session has made none without a store of its own. -/
theorem Keeps.extends (h : s.Keeps s') : s.Extends s' :=
  ⟨h.settings, h.stores, fun key session hs => Or.inl (h.sessions key session hs)⟩

/-- It is enough that no session came and no store went. -/
theorem Keeps.of_within (hpool : s'.pool.Within s.pool)
    (hstores : s.stores.length ≤ s'.stores.length) : s.Keeps s' :=
  ⟨hpool.1, hstores, fun key session hs => ⟨session, hpool.2 key session hs, rfl⟩⟩

/-- Sessions are kept while the pool is, and stores are only added. -/
theorem Keeps.of_pool (hpool : s'.pool = s.pool) (hstores : s.stores.length ≤ s'.stores.length) :
    s.Keeps s' := by
  refine .of_within ?_ hstores
  rw [hpool]
  exact SessionPool.Within.refl s.pool

theorem Keeps.refl (s : Server) : s.Keeps s := .of_pool rfl le_rfl

theorem Keeps.trans (h : s.Keeps s') (h' : s'.Keeps s'') : s.Keeps s'' where
  settings := h'.settings.trans h.settings
  stores := h.stores.trans h'.stores
  sessions := by
    intro key session hs
    obtain ⟨middle, hmiddle, hstore'⟩ := h'.sessions key session hs
    obtain ⟨before, hbefore, hstore⟩ := h.sessions key middle hmiddle
    exact ⟨before, hbefore, hstore.trans hstore'⟩

theorem Extends.refl (s : Server) : s.Extends s := (Keeps.refl s).extends

theorem Extends.trans (h : s.Extends s') (h' : s'.Extends s'') : s.Extends s'' where
  settings := h'.settings.trans h.settings
  stores := h.stores.trans h'.stores
  sessions := by
    intro key session hs
    rcases h'.sessions key session hs with ⟨middle, hmiddle, hstore'⟩ | ⟨hlow, hhigh⟩
    · rcases h.sessions key middle hmiddle with ⟨before, hbefore, hstore⟩ | ⟨hlow, hhigh⟩
      · exact Or.inl ⟨before, hbefore, hstore.trans hstore'⟩
      · rw [hstore'] at hlow hhigh
        exact Or.inr ⟨hlow, hhigh.trans_le h'.stores⟩
    · exact Or.inr ⟨h.stores.trans hlow, hhigh⟩

/-- A fresh server has no sessions. -/
theorem ofConfig_pool {c : Config} {epoch issued : Nat} {files : FileTree} {s : Server}
    (h : ofConfig c epoch files issued = .ok s) : s.pool = .empty c.pool := by
  unfold ofConfig at h
  split at h
  · cases h
  · split at h
    · cases h
    · cases h
      rfl

/-! ## Operations on stores -/

/-- Another content of a store makes no session. -/
theorem keeps_setStore (s : Server) (id : StoreId) (store : Store) :
    s.Keeps (s.setStore id store) :=
  .of_pool rfl (List.length_set ..).ge

/-- Nothing that is done to a store makes a session. -/
theorem keeps_onStore {α : Type} (s : Server) (id : StoreId) (f : Store → α × Store) :
    s.Keeps (s.onStore id f).2 :=
  s.keeps_setStore id _

/-- Storing a record makes no session. -/
theorem keeps_put (s : Server) (id : StoreId) (table : String) (r : Record) :
    s.Keeps (s.put id table r).2 := by
  unfold put
  refine Keeps.trans ?_ (keeps_onStore _ id _)
  split
  · exact .of_pool rfl le_rfl
  · exact Keeps.refl s

theorem keeps_save (s : Server) (id : StoreId) : s.Keeps (s.save id).2 := by
  unfold save
  split
  · exact .of_pool rfl le_rfl
  · exact Keeps.refl s

/-- Loading a store makes no session. -/
theorem keeps_load (s : Server) (id : StoreId) : s.Keeps (s.load id).2 := by
  unfold load
  split
  · exact s.keeps_setStore id _
  · exact Keeps.refl s

/-- Starting a store makes no session. -/
theorem keeps_start (s : Server) (id : StoreId) : s.Keeps (s.start id).2 := by
  unfold start startFrom
  split
  · exact s.keeps_setStore id _
  · exact Keeps.refl s

theorem keeps_addStore (s : Server) (settings : StoreSettings) :
    s.Keeps (s.addStore settings).2 := by
  refine .of_pool rfl ?_
  show s.stores.length ≤ (s.stores ++ [_]).length
  rw [List.length_append]
  exact Nat.le_add_right _ _

/-- Whatever the holder of a store does makes no session. -/
theorem keeps_useStore (s : Server) (id : StoreId) (o : StoreOperation) :
    s.Keeps (s.useStore id o) := by
  cases o with
  | put table r => exact s.keeps_put id table r
  | createTask session d =>
    have hissue : s.Keeps s.issue.2 := .of_pool rfl le_rfl
    exact hissue.trans (keeps_onStore _ id _)
  | save => exact s.keeps_save id
  | load => exact s.keeps_load id
  | start => exact s.keeps_start id
  | _ => exact s.keeps_onStore id _

/-! ## Lookups -/

/-- A lookup answers what the pool answers. -/
theorem lookup_fst (s : Server) (key : SessionKey) :
    (s.lookup key).1 = (s.pool.lookup s.now s.stores.length key).1 := by
  unfold lookup
  dsimp only
  split <;> rfl

/-- A lookup leaves the pool that the pool's own lookup leaves. -/
theorem lookup_pool (s : Server) (key : SessionKey) :
    (s.lookup key).2.pool = (s.pool.lookup s.now s.stores.length key).2 := by
  unfold lookup
  dsimp only
  split <;> rfl

/-- The store of a session that is made is added to the stores. -/
theorem lookup_stores (s : Server) (key : SessionKey) :
    (s.lookup key).2.stores =
      if (s.lookup key).1.created then
        s.stores ++ [{ settings := ⟨s.pool.pathFor key, s.pool.settings.loadOnStartup⟩ }]
      else s.stores := by
  have hsettings := (s.pool.find?_lookup s.now s.stores.length key).1
  rw [lookup_fst]
  unfold lookup
  dsimp only
  split
  · show s.stores ++ [_] = _
    unfold SessionPool.pathFor
    rw [hsettings]
  · rfl

/-- **A lookup gives a session that it makes a store of its own.** -/
theorem extends_lookup (s : Server) (key : SessionKey) : s.Extends (s.lookup key).2 := by
  obtain ⟨hsettings, hfind⟩ := s.pool.find?_lookup s.now s.stores.length key
  have hstores := s.lookup_stores key
  constructor
  · rw [lookup_pool, hsettings]
  · rw [hstores]
    split
    · rw [List.length_append]
      exact Nat.le_add_right _ _
    · exact le_rfl
  · intro other session hsession
    rw [lookup_pool] at hsession
    rcases hfind other session hsession with hbefore | ⟨hcreated, hstore⟩
    · exact Or.inl hbefore
    · rw [← lookup_fst] at hcreated
      rw [if_pos hcreated] at hstores
      rw [hstores, hstore]
      simp

/-- A session that is opened has a store of its own, or the one that it had. -/
theorem extends_openSession (s : Server) (key : SessionKey) :
    s.Extends (s.openSession key).2 := by
  have hlookup := s.extends_lookup key
  rw [openSession_snd]
  split
  · exact hlookup.trans (keeps_start _ _).extends
  · exact hlookup

/-- A write for a task is a lookup of its session, and makes no other. -/
theorem extends_writeUpdate (s : Server) (key : TaskKey) (u : TaskUpdate) :
    s.Extends (s.writeUpdate key u).2 :=
  (s.extends_lookup key.session).trans (keeps_onStore _ _ _).extends

/-! ## Retention -/

/-- Expiry makes no session. -/
theorem keeps_expireSessions (s : Server) : s.Keeps s.expireSessions.2 :=
  .of_within (s.pool.within_expire s.now) le_rfl

/-- Trimming the tasks of sessions makes none. -/
theorem keeps_trimSessions (limits : RetentionLimits) (keys : List SessionKey) (s : Server) :
    s.Keeps (s.trimSessions limits keys).2 := by
  induction keys generalizing s with
  | nil => exact Keeps.refl s
  | cons key rest ih =>
    unfold trimSessions
    cases s.existing? key with
    | none => exact ih s
    | some opened =>
      have hone := s.keeps_onStore opened.store fun store => store.trimTasks key limits
      dsimp only
      split
      · exact hone.trans (ih _)
      · exact hone.trans (ih _)

/-- A cycle of retention makes no session. -/
theorem keeps_sweep (s : Server) : s.Keeps s.sweep.2 := by
  have htrim := s.keeps_expireSessions.trans
    (keeps_trimSessions s.sweeper.options.limits s.expireSessions.2.pool.keys s.expireSessions.2)
  exact ⟨htrim.settings, htrim.stores, htrim.sessions⟩

/-- The timer makes no session. -/
theorem keeps_tick (s : Server) : s.Keeps s.tick := by
  unfold tick
  split
  · exact Keeps.refl s
  · rename_i timer _
    have htimer : s.Keeps (s.withTimer (some { timer with due := timer.due + timer.period })) :=
      .of_pool rfl le_rfl
    exact htimer.trans (keeps_sweep _)

end Server

/-! ## Callers -/

namespace Operation

/-- The operation looks a session up, and makes it if it is not live. -/
def looksUp : Operation → Bool
  | .lookup _ | .openSession _ => true
  | _ => false

end Operation

namespace Server

/-- **Only lookups make sessions.** -/
theorem keeps_perform (s : Server) {o : Operation} (h : o.looksUp = false) :
    s.Keeps (s.perform o) := by
  cases o with
  | lookup raw => cases h
  | openSession raw => cases h
  | removeSession raw => exact .of_within (s.pool.within_drop _) le_rfl
  | expireSessions => exact s.keeps_expireSessions
  | addStore settings => exact s.keeps_addStore settings
  | useStore id o => exact s.keeps_useStore id o
  | sweep => exact s.keeps_sweep
  | startTimer =>
    show s.Keeps s.startTimer.2
    unfold startTimer
    split
    · exact Keeps.refl s
    · exact .of_pool rfl le_rfl
  | tick => exact s.keeps_tick
  | _ => exact .of_pool rfl le_rfl

/-- Whatever callers ask for, a new session has a new store. -/
theorem extends_perform (s : Server) (o : Operation) : s.Extends (s.perform o) := by
  cases h : o.looksUp with
  | false => exact (s.keeps_perform h).extends
  | true =>
    cases o with
    | lookup raw => exact s.extends_lookup _
    | openSession raw => exact s.extends_openSession _
    | _ => cases h

/-! ## Runs -/

/-- Taking a task makes no session. -/
theorem keeps_accept? {s s' : Server} {key : TaskKey} {n : RunId} (h : s.accept? key n = some s') :
    s.Keeps s' := by
  unfold accept? at h
  split at h
  · cases h
  · cases h
    exact .of_pool rfl le_rfl

/-- The start of a run is a write for its task. -/
theorem extends_begin (s : Server) (key : TaskKey) (n : RunId) :
    s.Extends (s.begin key n).2 := by
  unfold begin
  split
  · exact Extends.refl s
  · exact s.extends_writeUpdate key startUpdate

/-- A report is a write for the task of the run. -/
theorem extends_report (s : Server) (key : TaskKey) (n : RunId) (progress : Binary64)
    (step description : Option String) :
    s.Extends (s.report key n progress step description) := by
  unfold report
  split
  · exact Extends.refl s
  · exact s.extends_writeUpdate key _

/-- Giving a run up makes no session. -/
theorem keeps_giveUp (s : Server) (key : TaskKey) (n : RunId) : s.Keeps (s.giveUp key n) :=
  .of_pool rfl le_rfl

/-- The end of a run is a write for its task, unless it was cancelled. -/
theorem extends_finish (s : Server) (key : TaskKey) (n : RunId) (outcome : Except Failure Unit) :
    s.Extends (s.finish key n outcome) := by
  have hrelease := (s.keeps_giveUp key n).extends
  unfold finish
  dsimp only
  split
  · exact hrelease
  · exact hrelease.trans (extends_writeUpdate _ key _)

/-- Cancelling a run is a write for its task. -/
theorem extends_cancelRun (s : Server) (key : TaskKey) : s.Extends (s.cancelRun key).2 := by
  unfold cancelRun
  split
  · exact Extends.refl s
  · rename_i n _
    have hmark : s.Keeps (s.markCancelled key n) := .of_pool rfl le_rfl
    exact hmark.extends.trans (extends_writeUpdate _ key _)

/-- Cancelling some runs makes sessions only with stores of their own. -/
theorem extends_cancelRuns (keys : List TaskKey) (s : Server) :
    s.Extends (s.cancelRuns keys).2 := by
  induction keys generalizing s with
  | nil => exact Extends.refl s
  | cons key rest ih => exact (s.extends_cancelRun key).trans (ih _)

end Server

end SessionTasks
