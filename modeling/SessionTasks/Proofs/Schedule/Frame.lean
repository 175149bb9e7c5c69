/-
# What a run writes to

A report, the end of a run and its cancellation write to the task of the run, and for that
they look its session up.  While the session is live nothing else changes but the time of
that lookup.  A session that is not live any more is made anew, with an empty store: then no
record changes at all, but the pool is as after any lookup that makes a session.

* `Server.writes_writeUpdate`, `Server.revives_writeUpdate` : what one write leaves;
* `Schedule.frame_of_write` : the same of every write that a schedule of a fresh server makes.
-/
import SessionTasks.Proofs.Sessions.Lookup
import SessionTasks.Proofs.Store.Calls
namespace SessionTasks

/-! ## One record of a store -/

namespace Store

/-- All of the store but one row of one table is as it was. -/
structure SameBut (table id : String) (s s' : Store) : Prop where
  settings : s'.settings = s.settings
  poisoned : s'.poisoned = s.poisoned
  /-- No table has come or gone. -/
  tables : ∀ name, (s'.tables.get? name).isSome = (s.tables.get? name).isSome
  /-- Every other row is as it was. -/
  rows : ∀ name other, (name, other) ≠ (table, id) →
    s'.tables.find? name other = s.tables.find? name other

theorem SameBut.refl (table id : String) (s : Store) : SameBut table id s s :=
  ⟨rfl, rfl, fun _ => rfl, fun _ _ _ => rfl⟩

/-- A change that does not break off reaches no other row. -/
theorem sameBut_modify (s : Store) (table id : String) {change : Record → Change}
    (hchange : ∀ r text, change r ≠ .broken text) :
    SameBut table id s (s.modify table id change).2 := by
  unfold modify
  split
  · exact SameBut.refl table id s
  · rename_i tables haccess
    have htables : tables = s.tables := by
      unfold access at haccess
      split at haccess
      · cases haccess
      · exact (Except.ok.inj haccess).symm
    subst htables
    split
    · exact SameBut.refl table id s
    · rename_i old hold
      split
      · exact SameBut.refl table id s
      · rename_i text hbroken
        exact absurd hbroken (hchange old text)
      · -- the table is there, since the row was found in it
        obtain ⟨rows, hrows⟩ : ∃ rows, s.tables.get? table = some rows := by
          cases hget : s.tables.get? table with
          | some rows => exact ⟨rows, rfl⟩
          | none =>
            unfold Tables.find? Tables.rows at hold
            rw [hget] at hold
            cases hold
        refine ⟨rfl, rfl, ?_, ?_⟩
        · intro name
          dsimp only
          rw [KeyMap.get?_insert]
          split
          · rename_i hname
            rw [← hname, hrows]
            rfl
          · rfl
        · intro name other hne
          dsimp only
          rw [Tables.find?_insert_row, if_neg hne]

/-- The change to a row that a change to its task makes does not break off. -/
theorem taskChange_ne_broken (session : SessionKey) (id : String) (f : Task → Task) (r : Record)
    (text : String) : taskChange session id f r ≠ .broken text := by
  unfold taskChange
  split <;> simp

/-- Changing a task is a change of its row. -/
theorem modifyTask_snd (s : Store) (session : SessionKey) (id : String) (f : Task → Task) :
    (s.modifyTask session id f).2 = (s.modify Task.table id (taskChange session id f)).2 := by
  unfold modifyTask
  split <;> rename_i h <;> rw [h]

/-- Changing a task reaches no other row. -/
theorem sameBut_modifyTask (s : Store) (session : SessionKey) (id : String) (f : Task → Task) :
    SameBut Task.table id s (s.modifyTask session id f).2 := by
  rw [modifyTask_snd]
  exact s.sameBut_modify Task.table id (taskChange_ne_broken session id f)

/-- A store without tables has no task to change. -/
theorem modifyTask_of_no_tables {s : Store} (h : s.tables = .empty) (session : SessionKey)
    (id : String) (f : Task → Task) : (s.modifyTask session id f).2 = s := by
  rw [modifyTask_snd]
  unfold modify access
  rw [h]
  split
  · rfl
  · rename_i tables htables
    split at htables
    · cases htables
    · cases htables
      rfl

end Store

/-! ## One write -/

namespace Server

variable {s s' : Server} {key : TaskKey} {session : Session}

/-- Nothing has changed but the sessions, the stores and the runs that hold their tasks. -/
def SameAround (s s' : Server) : Prop :=
  s'.pool.settings = s.pool.settings ∧
    s' = { s with pool := s'.pool, stores := s'.stores, ledger := s'.ledger }

/-- The task has changed at most, in the store of the session that owns it, and when that
session was last looked up. -/
structure Writes (key : TaskKey) (session : Session) (s s' : Server) : Prop where
  around : s.SameAround s'
  /-- The same sessions are live. -/
  keys : ∀ other, (s'.pool.find? other).isSome = (s.pool.find? other).isSome
  /-- The session of the task has its store, and may count as looked up. -/
  own : ∃ lastAccess turn, s'.pool.find? key.session = some { session with lastAccess, turn }
  /-- Every other session is as it was, and so is its store. -/
  others : ∀ other x, other ≠ key.session → s.pool.find? other = some x →
    s'.pool.find? other = some x ∧ s'.store x.store = s.store x.store
  /-- A store that is not the one of the session is as it was. -/
  stores : s'.stores.length = s.stores.length ∧ ∀ id, id ≠ session.store → s'.store id = s.store id
  /-- Every other record of the session is as it was. -/
  records : (s.store session.store).SameBut Task.table key.task (s'.store session.store)

/-- The session has been made anew by a lookup, and nothing else has changed. -/
structure Revives (key : SessionKey) (s s' : Server) : Prop where
  around : s.SameAround s'
  pool : s'.pool = (s.pool.lookup s.now s.stores.length key).2
  /-- Every store is as it was, and the new one is empty. -/
  stores : s'.stores =
    s.stores ++ [{ settings := ⟨s.pool.pathFor key, s.pool.settings.loadOnStartup⟩ }]
  /-- The session has the new store. -/
  own : ∃ turn, s'.pool.find? key = some ⟨key, s.stores.length, s.now, turn⟩
  /-- No other session has been made. -/
  others : ∀ other x, other ≠ key → s'.pool.find? other = some x → s.pool.find? other = some x
  /-- Other sessions go only when the pool is full without the one that was made. -/
  room : (s.pool.expireOne s.now key).isFull = false →
    ∀ other, other ≠ key → s'.pool.find? other = s.pool.find? other

/-- Only the store that is set is another one. -/
theorem store_setStore (s : Server) (id other : StoreId) (store : Store) :
    (s.setStore id store).store other =
      if other = id ∧ other < s.stores.length then store else s.store other := by
  unfold Server.store setStore
  dsimp only
  rw [List.getElem?_set]
  by_cases h : id = other
  · subst h
    rw [if_pos rfl]
    by_cases hlt : id < s.stores.length
    · rw [if_pos hlt, if_pos ⟨rfl, hlt⟩]
      rfl
    · rw [if_neg hlt, if_neg fun hc => hlt hc.2, List.getElem?_eq_none (Nat.le_of_not_lt hlt)]
  · rw [if_neg h, if_neg fun hc => h hc.1.symm]

/-- Writing an update looks the session up and changes the task in its store. -/
theorem writeUpdate_snd (s : Server) (key : TaskKey) (u : TaskUpdate) :
    (s.writeUpdate key u).2 =
      (s.lookup key.session).2.setStore (s.lookup key.session).1.store
        (((s.lookup key.session).2.store (s.lookup key.session).1.store).updateTask
          (s.lookup key.session).1.key key.task (s.lookup key.session).2.clock u).2 :=
  rfl

/-- A lookup changes only the sessions and the stores. -/
theorem sameAround_lookup (s : Server) (key : SessionKey) : s.SameAround (s.lookup key).2 := by
  refine ⟨(s.extends_lookup key).settings, ?_⟩
  unfold lookup
  dsimp only
  split <;> rfl

theorem sameAround_writeUpdate (s : Server) (key : TaskKey) (u : TaskUpdate) :
    s.SameAround (s.writeUpdate key u).2 := by
  obtain ⟨hsettings, hlookup⟩ := s.sameAround_lookup key.session
  refine ⟨hsettings, ?_⟩
  rw [writeUpdate_snd, hlookup]
  rfl

/-- **A write to a task of a live session.** -/
theorem writes_writeUpdate (ha : s.Apart) (hlive : s.pool.IsLive s.now key.session session)
    (u : TaskUpdate) : Writes key session s (s.writeUpdate key u).2 := by
  have hpair := SessionPool.lookup_of_live hlive.1 hlive.2 s.stores.length
  have hfst : (s.lookup key.session).1 = ⟨key.session, session.store, false⟩ := by
    rw [lookup_fst, hpair]
  have hstores : (s.lookup key.session).2.stores = s.stores := by
    rw [lookup_stores, hfst]
    rfl
  have hpool : (s.writeUpdate key u).2.pool = (s.pool.lookup s.now s.stores.length key.session).2 :=
    s.lookup_pool key.session
  -- the write is one change to the store that the lookup led to
  have hstore : ∀ id, (s.writeUpdate key u).2.store id =
      if id = session.store ∧ id < s.stores.length then
        ((s.store session.store).updateTask key.session key.task
          (s.lookup key.session).2.clock u).2
      else s.store id := by
    intro id
    have hsame : ∀ other, (s.lookup key.session).2.store other = s.store other := by
      intro other
      unfold Server.store
      rw [hstores]
    rw [writeUpdate_snd, store_setStore, hfst, hstores, hsame, hsame]
  have hfind : ∀ other, (s.writeUpdate key u).2.pool.find? other =
      if other = key.session then
        some { session with lastAccess := s.now, turn := s.pool.nextTurn }
      else s.pool.find? other := by
    intro other
    rw [hpool, hpair, SessionPool.find?_insert]
  refine ⟨s.sameAround_writeUpdate key u, ?_, ?_, ?_, ⟨?_, ?_⟩, ?_⟩
  · intro other
    rw [hfind]
    split
    · rename_i hother
      rw [hother, hlive.1]
      rfl
    · rfl
  · exact ⟨s.now, s.pool.nextTurn, by rw [hfind, if_pos rfl]⟩
  · intro other x hne hx
    have hapart : x.store ≠ session.store := fun h =>
      hne (ha.separate other key.session x session hx hlive.1 h)
    exact ⟨by rw [hfind, if_neg hne, hx], by rw [hstore, if_neg fun h => hapart h.1]⟩
  · rw [writeUpdate_snd]
    unfold setStore
    rw [List.length_set, hstores]
  · intro id hid
    rw [hstore, if_neg fun h => hid h.1]
  · rw [hstore, if_pos ⟨rfl, ha.made key.session session hlive.1⟩]
    exact (s.store session.store).sameBut_modifyTask key.session key.task _

/-- **A write to a task of a session that is not live.** -/
theorem revives_writeUpdate (hdead : ∀ session, ¬ s.pool.IsLive s.now key.session session)
    (u : TaskUpdate) : Revives key.session s (s.writeUpdate key u).2 := by
  have hpair := SessionPool.lookup_of_not_live (SessionPool.find?_expireOne_of_not_live hdead)
    s.stores.length
  have hfst : (s.lookup key.session).1 = ⟨key.session, s.stores.length, true⟩ := by
    rw [lookup_fst, hpair]
  have hstores := s.lookup_stores key.session
  rw [hfst, if_pos rfl] at hstores
  have hpool : (s.writeUpdate key u).2.pool = (s.pool.lookup s.now s.stores.length key.session).2 :=
    s.lookup_pool key.session
  -- the store that was just made has no task that could change
  have hmade : (s.lookup key.session).2.store s.stores.length =
      { settings := ⟨s.pool.pathFor key.session, s.pool.settings.loadOnStartup⟩ } := by
    unfold Server.store
    rw [hstores, List.getElem?_concat_length]
    rfl
  refine ⟨s.sameAround_writeUpdate key u, hpool, ?_, ?_, ?_, ?_⟩
  · rw [writeUpdate_snd, hfst, hmade]
    unfold Store.updateTask setStore
    rw [Store.modifyTask_of_no_tables rfl, hstores]
    simp
  · refine ⟨(s.pool.expireOne s.now key.session).nextTurn, ?_⟩
    rw [hpool, hpair, SessionPool.find?_insert, if_pos rfl]
  · intro other x hne hx
    rw [hpool] at hx
    exact SessionPool.find?_of_find?_lookup hne hx
  · intro hroom other hne
    rw [hpool]
    exact SessionPool.find?_lookup_of_ne hne (Or.inr hroom)

/-! ## Writes on behalf of a run -/

/-- What a write for a task leaves: at most the task has changed while its session is live,
and no record at all while it is not. -/
structure Frame (key : TaskKey) (s s' : Server) : Prop where
  live : ∀ session, s.pool.IsLive s.now key.session session → Writes key session s s'
  dead : (∀ session, ¬ s.pool.IsLive s.now key.session session) →
    s.SameAround s' ∧ s'.pool = s.pool ∧ s'.stores = s.stores ∨ Revives key.session s s'

/-- Nothing was written. -/
theorem Frame.of_same (haround : s.SameAround s') (hpool : s'.pool = s.pool)
    (hstores : s'.stores = s.stores) : Frame key s s' where
  live := by
    intro session hlive
    have hstore : ∀ id, s'.store id = s.store id := by
      intro id
      unfold Server.store
      rw [hstores]
    refine ⟨haround, ?_, ⟨session.lastAccess, session.turn, ?_⟩, ?_, ⟨?_, ?_⟩, ?_⟩
    · intro other
      rw [hpool]
    · rw [hpool]
      exact hlive.1
    · intro other x _ hx
      rw [hpool]
      exact ⟨hx, hstore _⟩
    · rw [hstores]
    · exact fun id _ => hstore id
    · rw [hstore]
      exact Store.SameBut.refl _ _ _
  dead := fun _ => Or.inl ⟨haround, hpool, hstores⟩

/-- Writing an update leaves at most what a write may leave. -/
theorem frame_writeUpdate (ha : s.Apart) (key : TaskKey) (u : TaskUpdate) :
    Frame key s (s.writeUpdate key u).2 where
  live := fun _ hlive => writes_writeUpdate ha hlive u
  dead := fun hdead => Or.inr (revives_writeUpdate hdead u)

/-- What runs hold their tasks has no part in a frame. -/
theorem Frame.of_ledger (l : RunLedger) (h : Frame key { s with ledger := l } s') :
    Frame key s s' where
  live := by
    intro session hlive
    have hw := h.live session hlive
    exact ⟨hw.around, hw.keys, hw.own, hw.others, hw.stores, hw.records⟩
  dead := by
    intro hdead
    rcases h.dead hdead with ⟨haround, hsame⟩ | hr
    · exact Or.inl ⟨haround, hsame⟩
    · exact Or.inr ⟨hr.around, hr.pool, hr.stores, hr.own, hr.others, hr.room⟩

theorem frame_begin (ha : s.Apart) (key : TaskKey) (n : RunId) :
    Frame key s (s.begin key n).2 := by
  unfold Server.begin
  split
  · exact .of_same ⟨rfl, rfl⟩ rfl rfl
  · exact frame_writeUpdate ha key startUpdate

theorem frame_report (ha : s.Apart) (key : TaskKey) (n : RunId) (progress : Binary64)
    (step description : Option String) :
    Frame key s (s.report key n progress step description) := by
  unfold Server.report
  split
  · exact .of_same ⟨rfl, rfl⟩ rfl rfl
  · exact frame_writeUpdate ha key _

theorem frame_finish (ha : s.Apart) (key : TaskKey) (n : RunId) (outcome : Except Failure Unit) :
    Frame key s (s.finish key n outcome) := by
  refine .of_ledger (s.ledger.release key n) ?_
  unfold Server.finish
  dsimp only
  split
  · exact .of_same ⟨rfl, rfl⟩ rfl rfl
  · exact frame_writeUpdate ((s.keeps_giveUp key n).apart ha) key _

theorem frame_cancelRun (ha : s.Apart) (key : TaskKey) : Frame key s (s.cancelRun key).2 := by
  unfold Server.cancelRun
  split
  · exact .of_same ⟨rfl, rfl⟩ rfl rfl
  · rename_i n _
    have hmark : s.Keeps (s.markCancelled key n) := .of_pool rfl le_rfl
    exact .of_ledger (s.markCancelled key n).ledger
      (frame_writeUpdate (hmark.apart ha) key { status := some .cancelled })

end Server

/-! ## Every write of a schedule -/

namespace Schedule

/-- The move is a write for a task: a run of the task starts, reports or ends, or the run that
holds the task is cancelled. -/
inductive WritesFor (s : Schedule) (key : TaskKey) : Move → Prop
  /-- The run starts. -/
  | begin {n : RunId} (hrun : (s.runs[n]?).map RunState.key = some key) :
      WritesFor s key (.step n .begin)
  /-- The work reports. -/
  | report {n : RunId} (hrun : (s.runs[n]?).map RunState.key = some key)
      (progress : Binary64) (step description : Option String) :
      WritesFor s key (.step n (.report progress step description))
  /-- The run ends. -/
  | finish {n : RunId} (hrun : (s.runs[n]?).map RunState.key = some key) :
      WritesFor s key (.step n .finish)
  /-- The run is cancelled. -/
  | cancel : WritesFor s key (.cancel key)

/-- To cancel every run is to cancel one after the other. -/
theorem move_cancelAll (s : Schedule) :
    s.move .cancelAll = s.play (s.server.ledger.keys.map .cancel) := by
  have hplay : ∀ (keys : List TaskKey) (s : Schedule),
      { s with server := (s.server.cancelRuns keys).2 } = s.play (keys.map .cancel) := by
    intro keys
    induction keys with
    | nil => exact fun _ => rfl
    | cons key rest ih => exact fun s => ih (s.move (.cancel key))
  exact hplay _ s

/-- **A write for a task changes at most that task** and when its session was last looked up,
while the session is live.  If it is not, no record changes, and the session is made anew as by
any lookup. -/
theorem frame_of_write {c : Config} {epoch issued : Nat} {files : FileTree} {server : Server}
    (hs : Server.ofConfig c epoch files issued = .ok server) (moves : List Move) (key : TaskKey)
    (m : Move) (hm : ((ofServer server).play moves).WritesFor key m) :
    Server.Frame key ((ofServer server).play moves).server
      (((ofServer server).play moves).move m).server := by
  have ha : ((ofServer server).play moves).server.Apart :=
    apart_play (Server.apart_ofConfig hs) moves
  generalize (ofServer server).play moves = s at ha hm ⊢
  have hstay : Server.Frame key s.server s.server := .of_same ⟨rfl, rfl⟩ rfl rfl
  -- a step that the stage of the run does not allow leaves everything as it is
  cases hm with
  | cancel => exact Server.frame_cancelRun ha key
  | @begin n hrun =>
    obtain ⟨r, hr, rfl⟩ := Option.map_eq_some_iff.1 hrun
    rw [move_step hr]
    unfold RunState.step
    have hbegin := Server.frame_begin ha r.key n
    dsimp only
    split
    · split <;> rename_i heq <;> rw [heq] at hbegin <;> exact hbegin
    · exact hstay
  | @report n hrun progress step description =>
    obtain ⟨r, hr, rfl⟩ := Option.map_eq_some_iff.1 hrun
    rw [move_step hr]
    unfold RunState.step
    dsimp only
    split
    · exact Server.frame_report ha r.key n progress step description
    · exact hstay
  | @finish n hrun =>
    obtain ⟨r, hr, rfl⟩ := Option.map_eq_some_iff.1 hrun
    rw [move_step hr]
    unfold RunState.step
    dsimp only
    split
    · exact Server.frame_finish ha r.key n _
    · exact hstay

/-- The work of a run reports. -/
theorem frame_of_write_first :
    Server.ofConfig {} 0 .empty 0 = .ok sampleServer ∧
      ((ofServer sampleServer).play sampleStart).WritesFor sampleTask
        (.step 0 (.report .hundred none none)) ∧
      Server.Frame sampleTask ((ofServer sampleServer).play sampleStart).server
        (((ofServer sampleServer).play sampleStart).move
          (.step 0 (.report .hundred none none))).server := by
  have hwrite : ((ofServer sampleServer).play sampleStart).WritesFor sampleTask
      (.step 0 (.report .hundred none none)) :=
    .report (by decide +kernel) _ _ _
  exact ⟨ofConfig_sampleServer, hwrite, frame_of_write ofConfig_sampleServer _ _ _ hwrite⟩

/-! ## A report that evicts -/

/-- There is room for one session. -/
def narrowConfig : Config := { session := { maxSessions := 1 } }

/-- A fresh server with room for one session. -/
def narrowServer : Server := { sampleServer with pool := .empty narrowConfig.pool }

/-- **A late report evicts another session.**  The session of a run has given way to another
one; the report makes it anew, and for that the other gives way. -/
theorem evicts_of_report :
    Server.ofConfig narrowConfig 0 .empty 0 = .ok narrowServer ∧
      ((ofServer narrowServer).play (sampleStart ++ [.operate (.lookup "b")])).WritesFor
        sampleTask (.step 0 (.report .hundred none none)) ∧
      ((ofServer narrowServer).play
          (sampleStart ++ [.operate (.lookup "b")])).server.pool.keys = [.sanitize "b"] ∧
      (((ofServer narrowServer).play (sampleStart ++ [.operate (.lookup "b")])).move
          (.step 0 (.report .hundred none none))).server.pool.keys = [.sanitize "a"] :=
  ⟨rfl, .report (by decide +kernel) _ _ _, by decide +kernel, by decide +kernel⟩

end Schedule

end SessionTasks
