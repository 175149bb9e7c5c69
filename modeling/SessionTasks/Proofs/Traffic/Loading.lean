/-
# Sessions that are opened were loaded

A call that makes the session that it opens loads its store and hands it out; whoever opens the
session in the meantime, or after the call has failed, is handed the store as it is.  Main
statement: a store that is handed out was loaded since it was made, or its session was made by a
plain lookup, or by a call that has not handed it out (`Traffic.loaded_of_opening`).
-/
import SessionTasks.Proofs.Schedule.Stores
import SessionTasks.Proofs.Sessions.Owners
import SessionTasks.Proofs.Traffic
namespace SessionTasks

/-! ## Stores that are to be loaded -/

/-- A store that is to be loaded when it is opened remains so. -/
theorem Store.Becomes.loadOnStartup {admits : StoreCall → Prop} {s s' : Store}
    (h : s.Becomes admits s') (hs : s.settings.loadOnStartup = true) :
    s'.settings.loadOnStartup = true := by
  induction h with
  | refl => exact hs
  | tail _ hstep ih =>
    cases hstep with
    | made settings => cases ih
    | called s hc =>
      rw [settings_call]
      exact ih

/-- A store that is to be loaded when it is opened remains so in a schedule. -/
theorem Schedule.loadOnStartup_play {s : Schedule} {id : StoreId}
    (h : (s.server.store id).settings.loadOnStartup = true) (moves : List Move) :
    ((s.play moves).server.store id).settings.loadOnStartup = true := by
  induction moves generalizing s with
  | nil => exact h
  | cons m rest ih => exact ih ((s.becomes_move m id).loadOnStartup h)

/-! ## What a load leaves -/

/-- The store is as a load of the files leaves it. -/
def Store.IsLoadedFrom (files : FileTree) (s : Store) : Prop :=
  ∃ before : Store, before.load files = .ok s

/-- A store that is loaded when it is started is left as the load leaves it. -/
theorem Store.isLoadedFrom_of_start {s store : Store} {files : FileTree}
    (h : s.start files = .ok (true, store)) : store.IsLoadedFrom files := by
  unfold start at h
  split at h
  · cases hload : s.load files with
    | error f =>
      rw [hload] at h
      cases h
    | ok loaded =>
      rw [hload] at h
      cases h
      exact ⟨s, hload⟩
  · cases h

namespace Server

variable {s : Server} {id : StoreId} {files : FileTree} {store : Store}

/-- Only a store that there is is loaded when it is started. -/
theorem lt_of_start (h : (s.store id).start files = .ok (true, store)) : id < s.stores.length := by
  by_contra hid
  have hnone : s.store id = {} := by
    unfold Server.store
    rw [List.getElem?_eq_none (Nat.not_lt.1 hid), Option.getD_none]
  rw [hnone] at h
  cases h

/-- A server that starts a store, and loads it, has it as the load leaves it. -/
theorem isLoadedFrom_startFrom (h : (s.store id).start files = .ok (true, store)) :
    ((s.startFrom files id).2.store id).IsLoadedFrom files := by
  unfold startFrom
  rw [h]
  dsimp only
  rw [store_setStore_self (lt_of_start h)]
  exact Store.isLoadedFrom_of_start h

/-- The end of an opening leaves the store of a session that was made as its load does. -/
theorem isLoadedFrom_finishOpening {o : Opened} (hcreated : o.created = true)
    (h : (s.store o.store).start files = .ok (true, store)) :
    ((s.finishOpening files o).2.store o.store).IsLoadedFrom files := by
  rw [finishOpening_snd, if_pos hcreated]
  exact isLoadedFrom_startFrom h

/-- **An operation that completes a load** leaves the store as it was loaded. -/
theorem Loads.isLoadedFrom {a : Operation} (h : s.Loads a id) :
    ((s.perform a).store id).IsLoadedFrom s.files := by
  cases h with
  | load hid hload =>
    show ((s.load id).2.store id).IsLoadedFrom s.files
    unfold Server.load
    rw [hload]
    dsimp only
    rw [store_setStore_self hid]
    exact ⟨_, hload⟩
  | start _ hstart => exact isLoadedFrom_startFrom hstart
  | opened hcreated hstart =>
    rw [← s.lookup_files] at hstart ⊢
    exact isLoadedFrom_finishOpening hcreated hstart

end Server

namespace Traffic

/-- The sessions of all calls were made by their lookups, and are to be loaded. -/
def Sound (t : Traffic) : Prop :=
  ∀ w ∈ t.openings, w.session.created = true ∧
    (t.server.store w.session.store).settings.loadOnStartup = true

variable {t : Traffic} {e : Event} {o : Opened} {events : List Event} {key : SessionKey}
  {session : Session}

/-- A call opens the session that it opened before, or has begun just now and made its session. -/
theorem session_of_mem_next {w : Opening} (hw : w ∈ (t.next e).openings) :
    (∃ before ∈ t.openings, before.session = w.session) ∨
      ∃ raw, e = .openSession raw ∧ w.session = (t.server.lookup (.sanitize raw)).1 ∧
        w.session.created = true := by
  cases e with
  | move m => exact Or.inl ⟨w, hw, rfl⟩
  | openSession raw =>
    rcases List.mem_append.1 hw with hw | hw
    · exact Or.inl ⟨w, hw, rfl⟩
    · split at hw
      · rename_i hcreated
        cases List.mem_singleton.1 hw
        exact Or.inr ⟨raw, rfl, rfl, hcreated⟩
      · cases hw
  | step n a =>
    dsimp only [next] at hw
    split at hw
    · rename_i before hbefore
      rcases List.mem_or_eq_of_mem_set hw with hw | rfl
      · exact Or.inl ⟨w, hw, rfl⟩
      · exact Or.inl ⟨before, List.mem_of_getElem? hbefore, (before.session_step _ a).symm⟩
    · exact Or.inl ⟨w, hw, rfl⟩

/-- **Step lemma.**  While new sessions are to be loaded, so are those of all calls. -/
theorem Sound.next (h : t.Sound) (hload : t.server.pool.settings.loadOnStartup = true)
    (e : Event) : (t.next e).Sound := by
  obtain ⟨moves, hmoves⟩ := t.exists_play_next e
  have hkeeps : ∀ id, (t.server.store id).settings.loadOnStartup = true →
      ((t.next e).server.store id).settings.loadOnStartup = true := by
    intro id hid
    show ((t.next e).schedule.server.store id).settings.loadOnStartup = true
    rw [hmoves]
    exact Schedule.loadOnStartup_play hid moves
  intro w hw
  rcases session_of_mem_next hw with ⟨before, hbefore, hsession⟩ | ⟨raw, rfl, hsession, hcreated⟩
  · rw [← hsession]
    exact ⟨(h before hbefore).1, hkeeps _ (h before hbefore).2⟩
  · refine ⟨hcreated, ?_⟩
    rw [hsession] at hcreated ⊢
    exact (Server.loadOnStartup_of_created hcreated).trans hload

/-- **Run lemma.**  In all traffic of a server whose sessions are to be loaded, the calls are
sound. -/
theorem sound_play (h : t.Sound) (hload : t.server.pool.settings.loadOnStartup = true)
    (events : List Event) : (t.play events).Sound := by
  induction events using List.reverseRecOn with
  | nil => exact h
  | append_singleton events e ih =>
    rw [play_concat]
    refine ih.next ?_ e
    rw [(t.extends_play events).settings]
    exact hload

/-! ## What is handed out -/

/-- The event completes a load of a store, and leaves it as it was loaded. -/
inductive Loads (t : Traffic) : Event → StoreId → Prop
  /-- What a caller asks for does. -/
  | operation {a : Operation} {id : StoreId} (h : t.server.Loads a id)
      (hafter : ((t.next (.move (.operate a))).server.store id).IsLoadedFrom t.server.files) :
      Loads t (.move (.operate a)) id
  /-- The call that made a session does. -/
  | opening {n : Nat} {o : Opened} {files : FileTree} {store : Store}
      (hopening : t.openings[n]? = some ⟨o, .read files⟩) (hcreated : o.created = true)
      (hstart : (t.server.store o.store).start files = .ok (true, store))
      (hafter : ((t.next (.step n .finish)).server.store o.store).IsLoadedFrom files) :
      Loads t (.step n .finish) o.store

/-- A session that is handed out by the call that made it is loaded in this event. -/
theorem Sound.loads_of_answer (h : t.Sound) (hload : t.server.pool.settings.loadOnStartup = true)
    (ho : t.answer? e = some (.ok o)) (hcreated : o.created = true) : t.Loads e o.store := by
  cases handsOut_of_answer ho with
  | atOnce hopen =>
    have hloads := Server.loads_of_created hload hopen hcreated
    exact .operation hloads hloads.isLoadedFrom
  | live hlive =>
    rw [hlive] at hcreated
    cases hcreated
  | loaded hopening hfinish =>
    obtain ⟨rfl, hstart⟩ := Server.finishOpening_ok_iff.1 hfinish
    obtain ⟨loaded, store, hstart⟩ := hstart hcreated
    have hflag := (h _ (List.mem_of_getElem? hopening)).2
    cases Store.loaded_of_start hflag hstart
    refine .opening hopening hcreated hstart ?_
    dsimp only [Traffic.next]
    rw [hopening]
    exact Server.isLoadedFrom_finishOpening hcreated hstart

/-- A session that is handed out by a call that did not make it was live. -/
theorem Sound.live_of_answer (h : t.Sound) (ho : t.answer? e = some (.ok o))
    (hcreated : o.created = false) :
    ∃ key session, t.server.pool.find? key = some session ∧ session.store = o.store := by
  cases handsOut_of_answer ho with
  | atOnce hopen =>
    obtain ⟨rfl, -⟩ := Server.openSession_ok_iff.1 hopen
    exact ⟨_, Server.live_of_lookup hcreated⟩
  | live hlive => exact ⟨_, Server.live_of_lookup hlive⟩
  | loaded hopening hfinish =>
    obtain ⟨rfl, -⟩ := Server.finishOpening_ok_iff.1 hfinish
    have hmade := (h _ (List.mem_of_getElem? hopening)).1
    rw [hcreated] at hmade
    cases hmade

/-! ## Where the stores of sessions come from -/

namespace Event

/-- The event may look sessions up, and opens none. -/
def isPlainLookup : Event → Bool
  | .move m => m.isPlainLookup
  | .openSession _ | .step _ _ => false

/-- A caller opens a session. -/
def opensSession : Event → Bool
  | .move (.operate (.openSession _)) | .openSession _ => true
  | .move _ | .step _ _ => false

end Event

/-- The event makes the store. -/
def Makes (t : Traffic) (e : Event) (id : StoreId) : Prop :=
  t.server.stores.length ≤ id ∧ id < (t.next e).server.stores.length

/-- One of the events completed a load of the store. -/
def Loaded (t : Traffic) (events : List Event) (id : StoreId) : Prop :=
  t.Happens (fun u e => u.Loads e id) events

/-- One of the events made the store when it looked up a session that it did not open. -/
def MadeByPlainLookup (t : Traffic) (events : List Event) (id : StoreId) : Prop :=
  t.Happens (fun u e => e.isPlainLookup = true ∧ u.Makes e id) events

/-- One of the events made the store when a caller opened its session. -/
def MadeByOpening (t : Traffic) (events : List Event) (id : StoreId) : Prop :=
  t.Happens (fun u e => e.opensSession = true ∧ u.Makes e id) events

/-- In one of the events the call that made the store has handed it out. -/
def HandedOut (t : Traffic) (events : List Event) (id : StoreId) : Prop :=
  t.Happens (fun u e => ∃ o, u.answer? e = some (.ok o) ∧ o.created = true ∧ o.store = id) events

/-- **What an event does to a session.**  The session has the store that it had, or the event made
its store, and then it is a plain lookup or opens a session. -/
theorem session_of_next (h : (t.next e).server.pool.find? key = some session) :
    (∃ before, t.server.pool.find? key = some before ∧ before.store = session.store) ∨
      t.Makes e session.store ∧ (e.isPlainLookup = true ∨ e.opensSession = true) := by
  cases e with
  | move m =>
    rcases Schedule.session_of_move h with hbefore | ⟨hmakes, hplain | ⟨raw, rfl⟩⟩
    · exact Or.inl hbefore
    · exact Or.inr ⟨hmakes, Or.inl hplain⟩
    · exact Or.inr ⟨hmakes, Or.inr rfl⟩
  | openSession raw =>
    rcases Schedule.session_of_move (m := .operate (.lookup raw)) h with hbefore | ⟨hmakes, -⟩
    · exact Or.inl hbefore
    · exact Or.inr ⟨hmakes, Or.inr rfl⟩
  | step n a =>
    left
    dsimp only [next] at h
    split at h
    · rename_i w _
      rw [show Server.pool _ = t.server.pool from w.pool_step t.server a] at h
      exact ⟨session, h, rfl⟩
    · exact ⟨session, h, rfl⟩

/-- Every session has a store that was made by a plain lookup or when a caller opened it. -/
theorem origin_of_session (hempty : ∀ key, t.server.pool.find? key = none)
    (h : (t.play events).server.pool.find? key = some session) :
    t.MadeByPlainLookup events session.store ∨ t.MadeByOpening events session.store := by
  induction events using List.reverseRecOn generalizing session with
  | nil =>
    rw [show t.play [] = t from rfl, hempty] at h
    cases h
  | append_singleton events e ih =>
    rw [play_concat] at h
    -- the last event left the session its store, or made it by a lookup of one kind or the other
    rcases session_of_next h with ⟨before, hbefore, hstore⟩ | ⟨hmakes, hplain | hopens⟩
    · have hih := ih hbefore
      rw [hstore] at hih
      exact hih.imp (·.concat e) (·.concat e)
    · exact Or.inl (happens_concat_self ⟨hplain, hmakes⟩)
    · exact Or.inr (happens_concat_self ⟨hopens, hmakes⟩)

/-- **A session that is opened was loaded.**  When sessions are to be loaded as they start, a store
that is handed out was loaded since it was made: in the very event, if the call made the session,
and before otherwise, unless the session was made by a plain lookup, or by a call that has not
handed it out. -/
theorem loaded_of_opening {c : Config} {epoch issued : Nat} {files : FileTree} {server : Server}
    (hs : Server.ofConfig c epoch files issued = .ok server)
    (hload : c.session.loadOnStartup = true) (events : List Event) (e : Event) (o : Opened)
    (ho : ((ofServer server).play events).answer? e = some (.ok o)) :
    (o.created = true → ((ofServer server).play events).Loads e o.store) ∧
    (o.created = false →
      (ofServer server).Loaded events o.store ∨ (ofServer server).MadeByPlainLookup events o.store ∨
        (ofServer server).MadeByOpening events o.store ∧
          ¬ (ofServer server).HandedOut events o.store) := by
  have hpool : (ofServer server).server.pool = .empty c.pool := Server.ofConfig_pool hs
  have hflag : ∀ events, ((ofServer server).play events).server.pool.settings.loadOnStartup
      = true := by
    intro events
    rw [((ofServer server).extends_play events).settings, hpool]
    exact hload
  have hsound : ∀ events, ((ofServer server).play events).Sound :=
    sound_play nofun (hflag [])
  refine ⟨(hsound events).loads_of_answer (hflag events) ho, fun hcreated => ?_⟩
  obtain ⟨key, session, hsession, hstore⟩ := (hsound events).live_of_answer ho hcreated
  have hempty : ∀ key, (ofServer server).server.pool.find? key = none := by
    rw [hpool]
    exact fun _ => rfl
  rw [← hstore]
  rcases origin_of_session hempty hsession with hplain | hopening
  · exact Or.inr (Or.inl hplain)
  · by_cases hout : (ofServer server).HandedOut events session.store
    -- the call that handed the store out loaded it in that very event
    · obtain ⟨before, d, after, rfl, o', ho', hmade, hid⟩ := hout
      rw [← hid]
      exact Or.inl ⟨before, d, after, rfl,
        (hsound before).loads_of_answer (hflag before) ho' hmade⟩
    · exact Or.inr (Or.inr ⟨hopening, hout⟩)

/-! ## Two sessions -/

/-- Sessions have files, and are to be loaded as they start. -/
def loadingConfig : Config := { session := { persistencePath := some "db", loadOnStartup := true } }

/-- A fresh server; in place of the file of the session `a` there is a folder, and the session
`b` has no file. -/
def loadingServer : Server where
  epoch := 0
  files := FileTree.makeFolders .empty "db_a"
  pool := .empty loadingConfig.pool
  sweeper := { options := loadingConfig.retention }
  resolver := { settings := loadingConfig.resolving }

theorem ofConfig_loadingServer :
    Server.ofConfig loadingConfig 0 (FileTree.makeFolders .empty "db_a") 0 = .ok loadingServer :=
  rfl

/-- A caller opens a session, and its file is read. -/
def sampleReading (raw : String) : List Event := [.openSession raw, .step 0 .read]

/-- The session that is made first. -/
theorem lookup_loadingServer :
    (loadingServer.lookup (.sanitize "a")).1 = ⟨.sanitize "a", 0, true⟩ ∧
      (loadingServer.lookup (.sanitize "b")).1 = ⟨.sanitize "b", 0, true⟩ := by
  decide +kernel

/-- A session that has no file is loaded when it is opened. -/
theorem openSession_loadingServer :
    (loadingServer.openSession (.sanitize "b")).1 = .ok ⟨.sanitize "b", 0, true⟩ := by
  have hlookup := lookup_loadingServer.2
  have hstore : (loadingServer.lookup (.sanitize "b")).2.store 0 =
      { settings := ⟨some "db_b", true⟩ } := by decide +kernel
  have hmissing : loadingServer.files.readText "db_b" = .error .missing := by decide +kernel
  refine Server.openSession_ok_iff.2 ⟨hlookup.symm, fun _ => ?_⟩
  rw [hlookup]
  show ∃ loaded store, ((loadingServer.lookup (.sanitize "b")).2.store 0).start _ = _
  rw [hstore]
  unfold Store.start Store.load
  dsimp only
  rw [hmissing]
  exact ⟨true, _, rfl⟩

/-- A session that has no file is opened twice: the first call makes it and loads it, and the
second is handed what the first has loaded. -/
theorem loaded_of_opening_again :
    Server.ofConfig loadingConfig 0 (FileTree.makeFolders .empty "db_a") 0 = .ok loadingServer ∧
      loadingConfig.session.loadOnStartup = true ∧
      ((ofServer loadingServer).play (sampleReading "b")).answer? (.step 0 .finish) =
        some (.ok ⟨.sanitize "b", 0, true⟩) ∧
      ((ofServer loadingServer).play (sampleReading "b")).Loads (.step 0 .finish) 0 ∧
      ((ofServer loadingServer).play (sampleReading "b" ++ [.step 0 .finish])).answer?
        (.openSession "b") = some (.ok ⟨.sanitize "b", 0, false⟩) ∧
      (ofServer loadingServer).Loaded (sampleReading "b" ++ [.step 0 .finish]) 0 := by
  have hload : loadingConfig.session.loadOnStartup = true := rfl
  have hmade : ((ofServer loadingServer).server.lookup (.sanitize "b")).1.created = true :=
    congrArg Opened.created lookup_loadingServer.2
  obtain ⟨hanswer, hserver⟩ := finish_of_play_read hmade
  have hfirst : ((ofServer loadingServer).play (sampleReading "b")).answer? (.step 0 .finish) =
      some (.ok ⟨.sanitize "b", 0, true⟩) :=
    hanswer.trans (congrArg some openSession_loadingServer)
  have hlive : ((loadingServer.openSession (.sanitize "b")).2.lookup (.sanitize "b")).1 =
      ⟨.sanitize "b", 0, false⟩ := by decide +kernel
  have hagain : ((ofServer loadingServer).play (sampleReading "b" ++ [.step 0 .finish])).answer?
      (.openSession "b") = some (.ok ⟨.sanitize "b", 0, false⟩) := by
    rw [play_concat]
    refine answer_of_live ?_ rfl
    rw [← hlive]
    exact congrArg (fun s => (Server.lookup s _).1) hserver
  refine ⟨ofConfig_loadingServer, hload, hfirst,
    (loaded_of_opening ofConfig_loadingServer hload _ _ _ hfirst).1 rfl, hagain, ?_⟩
  -- no event is a plain lookup, and the first call has handed the store out
  rcases (loaded_of_opening ofConfig_loadingServer hload _ _ _ hagain).2 rfl with
    hloaded | ⟨before, e, after, heq, hplain, -⟩ | ⟨-, hout⟩
  · exact hloaded
  · have hnone : ∀ e ∈ sampleReading "b" ++ [.step 0 .finish], e.isPlainLookup = false := by
      decide
    rw [hnone e (heq ▸ List.mem_append_right before List.mem_cons_self)] at hplain
    cases hplain
  · exact absurd ⟨sampleReading "b", .step 0 .finish, [], rfl, _, hfirst, rfl, rfl⟩ hout

/-- A folder in place of its file is not loaded. -/
theorem not_loads_finish (id : StoreId) :
    ¬ ((ofServer loadingServer).play (sampleReading "a")).Loads (.step 0 .finish) id := by
  have hlookup := lookup_loadingServer.1
  have hread := play_read (t := ofServer loadingServer) (congrArg Opened.created hlookup)
  have hstore : (loadingServer.lookup (.sanitize "a")).2.store 0 =
      { settings := ⟨some "db_a", true⟩ } := by decide +kernel
  have hfolder : loadingServer.files.readText "db_a" = .error .isFolder := by decide +kernel
  intro hloads
  rw [show Traffic.play _ (sampleReading "a") = _ from hread] at hloads
  cases hloads with
  | opening hopening hcreated hstart hafter =>
    cases hopening
    change ((loadingServer.lookup (.sanitize "a")).2.store
      (loadingServer.lookup (.sanitize "a")).1.store).start loadingServer.files = _ at hstart
    rw [hlookup, hstore] at hstart
    unfold Store.start Store.load at hstart
    dsimp only at hstart
    rw [hfolder] at hstart
    cases hstart

/-- **Three stores that are handed out unloaded.**  The first session was looked up before it was
opened; the second was opened in vain before it was opened again; the third is opened again while
the first call has not returned. -/
theorem opened_unloaded :
    Server.ofConfig loadingConfig 0 (FileTree.makeFolders .empty "db_a") 0 = .ok loadingServer ∧
      loadingConfig.session.loadOnStartup = true ∧
      (∃ o, ((ofServer loadingServer).play [.move (.operate (.lookup "b"))]).answer?
          (.openSession "b") = some (.ok o) ∧
        ¬ (ofServer loadingServer).Loaded
          [.move (.operate (.lookup "b")), .openSession "b"] o.store) ∧
      (∃ o, ((ofServer loadingServer).play (sampleReading "a" ++ [.step 0 .finish])).answer?
          (.openSession "a") = some (.ok o) ∧
        ¬ (ofServer loadingServer).Loaded
          (sampleReading "a" ++ [.step 0 .finish, .openSession "a"]) o.store) ∧
      ∃ o, ((ofServer loadingServer).play (sampleReading "b")).answer?
          (.openSession "b") = some (.ok o) ∧
        ¬ (ofServer loadingServer).Loaded (sampleReading "b" ++ [.openSession "b"]) o.store := by
  have hlive : ((loadingServer.lookup (.sanitize "b")).2.lookup (.sanitize "b")).1 =
      ⟨.sanitize "b", 0, false⟩ := by decide +kernel
  have hlive' : ((loadingServer.openSession (.sanitize "a")).2.lookup (.sanitize "a")).1 =
      ⟨.sanitize "a", 0, false⟩ := by decide +kernel
  have hmade : ((ofServer loadingServer).server.lookup (.sanitize "a")).1.created = true :=
    congrArg Opened.created lookup_loadingServer.1
  have hmade' : ((ofServer loadingServer).server.lookup (.sanitize "b")).1.created = true :=
    congrArg Opened.created lookup_loadingServer.2
  refine ⟨ofConfig_loadingServer, rfl, ⟨_, answer_of_live hlive rfl, fun hloaded => ?_⟩,
    ⟨⟨.sanitize "a", 0, false⟩, answer_of_live ?_ rfl, fun hloaded => ?_⟩,
    ⟨.sanitize "b", 0, false⟩, answer_of_live ?_ rfl, fun hloaded => ?_⟩
  · simp only [Loaded, happens_cons_iff, not_happens_nil, or_false] at hloaded
    rcases hloaded with hloads | hloads
    · cases hloads with
      | operation hloads hafter => cases hloads
    · cases hloads
  · rw [play_concat, ← hlive']
    exact congrArg (fun s => (Server.lookup s _).1) (finish_of_play_read hmade).2
  · simp only [Loaded, sampleReading, List.cons_append, List.nil_append, happens_cons_iff,
      not_happens_nil, or_false] at hloaded
    rcases hloaded with hloads | hloads | hloads | hloads
    · cases hloads
    · cases hloads
    · exact not_loads_finish _ hloads
    · cases hloads
  · rw [← hlive]
    exact congrArg (fun u => (Server.lookup (server u) _).1) (play_read hmade')
  · simp only [Loaded, sampleReading, List.cons_append, List.nil_append, happens_cons_iff,
      not_happens_nil, or_false] at hloaded
    rcases hloaded with hloads | hloads | hloads
    all_goals cases hloads

end Traffic

end SessionTasks
