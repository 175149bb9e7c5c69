/-
# Who owns what

While no more sessions are used than there may be, a lookup drops no other session.  Then every
store is owned by the session that it was made for: only this session leads to it, and it is kept
in the file of this session.  A run is owned by the session of its task.

* `Server.Owned` : the sessions that own the stores and the runs, and have room;
* `Server.Owned.lookup_eq_of_live`, `Server.Owned.lookup_eq_of_not_live` : what a lookup does then.
-/
import SessionTasks.Proofs.Schedule.Frame
import SessionTasks.Proofs.Store.Calls
import SessionTasks.Proofs.Unwinding
namespace SessionTasks

/-! ## Stores stay where they are kept -/

namespace Store

variable (s : Store)

theorem settings_put (now : Int64) (fresh table : String) (r : Record) :
    (s.put now fresh table r).2.settings = s.settings := by
  unfold put
  split <;> rfl

theorem settings_modify (table id : String) (change : Record → Change) :
    (s.modify table id change).2.settings = s.settings := by
  unfold modify
  split
  · rfl
  · split
    · rfl
    · split <;> rfl

theorem settings_delete (table id : String) : (s.delete table id).2.settings = s.settings := by
  unfold delete
  split <;> rfl

theorem settings_deleteTable (table : String) :
    (s.deleteTable table).2.settings = s.settings := by
  unfold deleteTable
  split <;> rfl

theorem settings_clear : s.clear.2.settings = s.settings := by
  unfold clear
  split <;> rfl

theorem settings_createTask (session : SessionKey) (id : String) (now : Int64) (d : TaskDraft) :
    (s.createTask session id now d).2.settings = s.settings := by
  have hput := s.settings_put now id Task.table (d.start id session now).toRecord
  unfold createTask
  split <;> rename_i heq <;> rw [heq] at hput <;> exact hput

theorem settings_modifyTask (session : SessionKey) (id : String) (f : Task → Task) :
    (s.modifyTask session id f).2.settings = s.settings := by
  have hmodify := s.settings_modify Task.table id (taskChange session id f)
  unfold modifyTask
  split <;> rename_i heq <;> rw [heq] at hmodify <;> exact hmodify

theorem settings_deleteTask (session : SessionKey) (id : String) :
    (s.deleteTask session id).2.settings = s.settings := by
  have hdelete := s.settings_delete Task.table id
  unfold deleteTask
  split
  · rfl
  · split <;> rename_i heq <;> rw [heq] at hdelete <;> exact hdelete

theorem settings_deleteTasks (tasks : List Task) :
    (s.deleteTasks tasks).2.settings = s.settings := by
  induction tasks generalizing s with
  | nil => rfl
  | cons task rest ih =>
    have hdelete := s.settings_delete Task.table task.id
    unfold deleteTasks
    split
    · rename_i heq
      rw [heq] at hdelete
      exact hdelete
    · rename_i after heq
      rw [heq] at hdelete
      have hrest := (ih after).trans hdelete
      split <;> rename_i heq' <;> rw [heq'] at hrest <;> exact hrest

theorem settings_trimTasks (session : SessionKey) (limits : RetentionLimits) :
    (s.trimTasks session limits).2.settings = s.settings := by
  unfold trimTasks
  split
  · rfl
  · exact s.settings_deleteTasks _

variable {s}

/-- A store that is loaded keeps its settings, whatever the file tells. -/
theorem settings_load {files : FileTree} {s' : Store} (h : s.load files = .ok s') :
    s'.settings = s.settings := by
  obtain ⟨-, tables, rfl, -⟩ := load_eq_ok h
  rfl

/-- A store that is started keeps its settings. -/
theorem settings_start {files : FileTree} {loaded : Bool} {s' : Store}
    (h : s.start files = .ok (loaded, s')) : s'.settings = s.settings := by
  unfold start at h
  split at h
  · cases hload : s.load files with
    | error f =>
      rw [hload] at h
      cases h
    | ok after =>
      rw [hload] at h
      cases h
      exact settings_load hload
  · cases h
    rfl

/-- **A store stays where it is kept**, whatever is called. -/
theorem settings_call (s : Store) (c : StoreCall) : (s.call c).settings = s.settings := by
  cases c with
  | put now issued table r => exact s.settings_put now (identifier issued) table r
  | modify table id change => exact s.settings_modify table id change
  | delete table id => exact s.settings_delete table id
  | deleteTable table => exact s.settings_deleteTable table
  | clear => exact s.settings_clear
  | load files =>
    unfold call
    dsimp only
    split
    · rename_i hload
      exact settings_load hload
    · rfl

end Store

/-! ## Sessions under their keys -/

namespace SessionPool

/-- Every session lies under its own key. -/
def Keyed (p : SessionPool) : Prop := ∀ e ∈ p.sessions.entries, e.2.key.text = e.1

variable {p : SessionPool} {key : SessionKey} {keys : List SessionKey}

theorem keyed_empty (settings : PoolSettings) : (SessionPool.empty settings).Keyed := by
  intro e he
  cases he

theorem Keyed.keep (h : p.Keyed) (test : Session → Bool) : (p.keep test).Keyed :=
  fun e he => h e (List.mem_of_mem_filter he)

theorem Keyed.drop (h : p.Keyed) (key : SessionKey) : (p.drop key).Keyed :=
  fun e he => h e (List.mem_of_mem_filter he)

/-- Expiry of one session leaves the others under their keys. -/
theorem Keyed.expireOne (h : p.Keyed) (now : Nat) (key : SessionKey) :
    (p.expireOne now key).Keyed := by
  unfold SessionPool.expireOne
  split
  · split
    · exact h.drop key
    · exact h
  · exact h

/-- A session may be put under its own key. -/
theorem Keyed.insert (h : p.Keyed) {s : Session} (hs : s.key = key) (turns : Nat) :
    Keyed { p with turns := turns, sessions := p.sessions.insert key.text s } := by
  intro e he
  rcases Entries.mem_insert he with rfl | he
  · rw [hs]
  · exact h e he

/-- A session that is found under a key has that key. -/
theorem Keyed.key_eq (h : p.Keyed) {s : Session} (hs : p.find? key = some s) : s.key = key :=
  SessionKey.text_injective (h (key.text, s) (KeyMap.get?_eq_some_iff.1 hs))

/-- The keys of the pool are those under which a session is found. -/
theorem Keyed.mem_keys_iff (h : p.Keyed) : key ∈ p.keys ↔ (p.find? key).isSome = true := by
  unfold SessionPool.keys
  rw [List.mem_map, Option.isSome_iff_exists]
  constructor
  · rintro ⟨s, hs, rfl⟩
    obtain ⟨e, he, rfl⟩ := List.mem_map.1 hs
    refine ⟨e.2, KeyMap.get?_eq_some_iff.2 ?_⟩
    rw [h e he]
    exact he
  · rintro ⟨s, hs⟩
    exact ⟨s, KeyMap.mem_values_iff.2 ⟨key.text, hs⟩, h.key_eq hs⟩

/-- No key is listed twice. -/
theorem Keyed.nodup_keys (h : p.Keyed) : p.keys.Nodup := by
  show (List.map Session.key (p.sessions.entries.map Prod.snd)).Nodup
  rw [List.map_map, List.Nodup, List.pairwise_map]
  refine List.Pairwise.imp_of_mem ?_ p.sessions.sorted
  intro a b ha hb hlt heq
  rw [← h a ha, ← h b hb] at hlt
  have hkeys : a.2.key = b.2.key := heq
  rw [hkeys] at hlt
  exact String.lt_irrefl _ hlt

/-- The keys are those of the live sessions, each once. -/
theorem Keyed.filter_keys (h : p.Keyed) (key : SessionKey) :
    p.keys.filter (fun k => decide (k = key)) =
      if (p.find? key).isSome then [key] else [] := by
  rw [List.filter_eq, h.nodup_keys.count]
  by_cases hkey : key ∈ p.keys
  · rw [if_pos hkey, if_pos (h.mem_keys_iff.1 hkey)]
    rfl
  · rw [if_neg hkey, if_neg (mt h.mem_keys_iff.2 hkey)]
    rfl

/-- Where a session that may be live is not, there is room for it. -/
theorem Keyed.isFull_eq_false (h : p.Keyed)
    (hlive : ∀ key s, p.find? key = some s → key ∈ keys)
    (hroom : keys.length ≤ p.settings.maxSessions.toNat) (hkey : key ∈ keys)
    (hnone : p.find? key = none) : p.isFull = false := by
  have hnodup : (key :: p.keys).Nodup := by
    refine List.nodup_cons.2 ⟨fun hmem => ?_, h.nodup_keys⟩
    rw [h.mem_keys_iff, hnone] at hmem
    cases hmem
  have hsubset : key :: p.keys ⊆ keys := by
    intro other hother
    rcases List.mem_cons.1 hother with rfl | hother
    · exact hkey
    · obtain ⟨s, hs⟩ := Option.isSome_iff_exists.1 (h.mem_keys_iff.1 hother)
      exact hlive other s hs
  have hlength := (hnodup.subperm hsubset).length_le
  have hsize : p.keys.length = p.sessions.size := by
    unfold SessionPool.keys KeyMap.values KeyMap.size
    rw [List.length_map, List.length_map]
  unfold SessionPool.isFull
  rw [List.length_cons, hsize] at hlength
  rw [decide_eq_false_iff_not]
  omega

end SessionPool

/-! ## Owners -/

/-- The run that holds a task is owned by the session of the task; `asked` are the owners of the
runs that were asked for. -/
structure RunLedger.Owned (asked : List SessionKey) (l : RunLedger) : Prop where
  single : (l.holders.map Prod.fst).Nodup
  holder : ∀ e ∈ l.holders, asked[e.2]? = some e.1.session
  cancelled : ∀ n ∈ l.cancelled, n < asked.length

namespace Server

/-- There is room for the sessions `keys`, and no others are used; `own` are the owners of the
stores, and `asked` the owners of the runs. -/
structure Owned (keys own asked : List SessionKey) (s : Server) : Prop where
  room : keys.length ≤ s.pool.settings.maxSessions.toNat
  keyed : s.pool.Keyed
  live : ∀ key session, s.pool.find? key = some session →
    key ∈ keys ∧ own[session.store]? = some key
  made : own.length = s.stores.length
  path : ∀ id key, own[id]? = some key → (s.store id).settings.path = s.pool.pathFor key
  among : ∀ key ∈ asked, key ∈ keys
  ledger : s.ledger.Owned asked

variable {keys own asked : List SessionKey} {s : Server} {key : SessionKey}

/-- Only the sessions, the stores and the runs that hold their tasks are owned. -/
theorem Owned.of_eq (h : s.Owned keys own asked) {t : Server} (hpool : t.pool = s.pool)
    (hstores : t.stores = s.stores) (hledger : t.ledger = s.ledger) : t.Owned keys own asked where
  room := hpool ▸ h.room
  keyed := hpool ▸ h.keyed
  live := hpool ▸ h.live
  made := hstores ▸ h.made
  path := by
    intro id key hid
    rw [hpool, ← h.path id key hid]
    unfold Server.store
    rw [hstores]
  among := h.among
  ledger := hledger ▸ h.ledger

/-- The run of a session that is used was asked for. -/
theorem Owned.mem_of_asked (h : s.Owned keys own asked) {n : RunId} (hn : asked[n]? = some key) :
    key ∈ keys :=
  h.among key (List.mem_of_getElem? hn)

/-- The sessions may change as long as each one is in a store of its own. -/
theorem Owned.setPool (h : s.Owned keys own asked) {p : SessionPool}
    (hsettings : p.settings = s.pool.settings) (hkeyed : p.Keyed)
    (hlive : ∀ key session, p.find? key = some session →
      key ∈ keys ∧ own[session.store]? = some key) :
    Owned keys own asked { s with pool := p } where
  room := by
    show keys.length ≤ p.settings.maxSessions.toNat
    rw [hsettings]
    exact h.room
  keyed := hkeyed
  live := hlive
  made := h.made
  path := by
    intro id key hid
    show (s.store id).settings.path = p.pathFor key
    rw [h.path id key hid]
    unfold SessionPool.pathFor
    rw [hsettings]
  among := h.among
  ledger := h.ledger

/-- Sessions are dropped. -/
theorem Owned.within (h : s.Owned keys own asked) {p : SessionPool} (hp : p.Within s.pool)
    (hkeyed : p.Keyed) : Owned keys own asked { s with pool := p } :=
  h.setPool hp.1 hkeyed fun key session hs => h.live key session (hp.2 key session hs)

/-- The ledger may change as long as runs hold only tasks of their owners. -/
theorem Owned.setLedger (h : s.Owned keys own asked) {l : RunLedger} (hl : l.Owned asked) :
    Owned keys own asked { s with ledger := l } :=
  ⟨h.room, h.keyed, h.live, h.made, h.path, h.among, hl⟩

/-- A store may change as long as its settings stay. -/
theorem Owned.setStore (h : s.Owned keys own asked) (id : StoreId) {store : Store}
    (hsettings : store.settings = (s.store id).settings) :
    Owned keys own asked (s.setStore id store) where
  room := h.room
  keyed := h.keyed
  live := h.live
  made := by
    unfold Server.setStore
    rw [List.length_set]
    exact h.made
  path := by
    intro other key hother
    rw [store_setStore]
    split
    · rename_i hid
      rw [hsettings, ← hid.1]
      exact h.path other key hother
    · exact h.path other key hother
  among := h.among
  ledger := h.ledger

/-- Only the store that is added is new. -/
theorem store_addStore (s : Server) (settings : StoreSettings) (id : StoreId) :
    (s.addStore settings).2.store id = if id = s.stores.length then { settings } else s.store id := by
  unfold Server.store addStore
  dsimp only
  split
  · rename_i hid
    rw [hid, List.getElem?_concat_length]
    rfl
  · rename_i hid
    rw [List.getElem?_append]
    split
    · rfl
    · rename_i hlt
      have hlength : [({ settings } : Store)].length ≤ id - s.stores.length := by
        rw [List.length_singleton]
        exact Nat.sub_pos_of_lt (lt_of_le_of_ne (Nat.le_of_not_lt hlt) (Ne.symm hid))
      rw [List.getElem?_eq_none hlength, List.getElem?_eq_none (Nat.le_of_not_lt hlt)]

/-- A store is added for the session it belongs to. -/
theorem Owned.addStore (h : s.Owned keys own asked) (key : SessionKey) (loads : Bool) :
    Owned keys (own ++ [key]) asked (s.addStore ⟨s.pool.pathFor key, loads⟩).2 where
  room := h.room
  keyed := h.keyed
  live := by
    intro other session hs
    obtain ⟨hother, hown⟩ := h.live other session hs
    exact ⟨hother, getElem?_of_grown (List.prefix_append own [key]) hown⟩
  made := by
    show (own ++ [key]).length = (s.stores ++ [_]).length
    rw [List.length_append, List.length_append, h.made]
    rfl
  path := by
    intro id other hid
    rw [store_addStore, ← h.made]
    show _ = s.pool.pathFor other
    rcases getElem?_concat_eq_some_iff.1 hid with hid | ⟨rfl, rfl⟩
    · rw [if_neg (lt_of_getElem?_eq_some hid).ne]
      exact h.path id other hid
    · rw [if_pos rfl]
  among := h.among
  ledger := h.ledger

/-- One more run that is asked for. -/
theorem Owned.ask (h : s.Owned keys own asked) (hkey : key ∈ keys) :
    s.Owned keys own (asked ++ [key]) where
  room := h.room
  keyed := h.keyed
  live := h.live
  made := h.made
  path := h.path
  among := by
    intro other hother
    rcases List.mem_append.1 hother with hother | hother
    · exact h.among other hother
    · rw [List.mem_singleton.1 hother]
      exact hkey
  ledger :=
    ⟨h.ledger.single,
      fun e he => getElem?_of_grown (List.prefix_append asked [key]) (h.ledger.holder e he),
      fun n hn => (h.ledger.cancelled n hn).trans_le (List.prefix_append asked [key]).length_le⟩

/-! ## Lookups -/

/-- **A lookup of a live session** marks it as used. -/
theorem Owned.lookup_eq_of_live (h : s.Owned keys own asked) {session : Session}
    (hlive : s.pool.IsLive s.now key session) :
    ∃ p : SessionPool, s.lookup key = (⟨key, session.store, false⟩, { s with pool := p }) ∧
      Owned keys own asked { s with pool := p } ∧ p.settings = s.pool.settings ∧
      ∀ other, p.find? other =
        if other = key then some { session with lastAccess := s.now, turn := p.turns }
        else s.pool.find? other := by
  have hpair := SessionPool.lookup_of_live hlive.1 hlive.2 s.stores.length
  have hkey := h.keyed.key_eq hlive.1
  have hfind : ∀ other, (s.pool.lookup s.now s.stores.length key).2.find? other =
      if other = key then
        some { session with lastAccess := s.now, turn := s.pool.nextTurn }
      else s.pool.find? other := by
    intro other
    rw [hpair, SessionPool.find?_insert]
  have hsettings : (s.pool.lookup s.now s.stores.length key).2.settings = s.pool.settings := by
    rw [hpair]
  -- the session is put back with a new time and turn, and nothing else changes
  refine ⟨(s.pool.lookup s.now s.stores.length key).2, ?_, ?_, hsettings, ?_⟩
  · unfold Server.lookup
    rw [hpair]
    rfl
  · refine h.setPool hsettings ?_ fun other x hx => ?_
    · rw [hpair]
      exact h.keyed.insert (s := { session with lastAccess := s.now, turn := s.pool.nextTurn })
        hkey _
    · rw [hfind] at hx
      split at hx
      · rename_i hother
        cases hx
        rw [hother]
        exact h.live key session hlive.1
      · exact h.live other x hx
  · rw [hpair]
    exact fun other => SessionPool.find?_insert _ key other _ _

/-- **A lookup of a session that is not live** makes it and drops no other. -/
theorem Owned.lookup_eq_of_not_live (h : s.Owned keys own asked) (hkey : key ∈ keys)
    (hdead : ∀ session, ¬ s.pool.IsLive s.now key session) :
    ∃ p : SessionPool, s.lookup key =
        (⟨key, s.stores.length, true⟩,
          { (s.addStore ⟨s.pool.pathFor key, s.pool.settings.loadOnStartup⟩).2 with pool := p }) ∧
      Owned keys (own ++ [key]) asked
        { (s.addStore ⟨s.pool.pathFor key, s.pool.settings.loadOnStartup⟩).2 with pool := p } ∧
      p.settings = s.pool.settings ∧
      ∀ other, p.find? other =
        if other = key then some ⟨key, s.stores.length, s.now, p.turns⟩
        else s.pool.find? other := by
  have hnone := SessionPool.find?_expireOne_of_not_live hdead
  have hkeyed := h.keyed.expireOne s.now key
  have hwithin := s.pool.within_expireOne s.now key
  -- the sessions that are live are among `keys`, and this one is not live: there is room
  have hfull : (s.pool.expireOne s.now key).isFull = false := by
    refine hkeyed.isFull_eq_false (fun other session hs => ?_) ?_ hkey hnone
    · exact (h.live other session (hwithin.2 other session hs)).1
    · rw [hwithin.1]
      exact h.room
  have hpair := SessionPool.lookup_of_not_live hnone s.stores.length
  rw [SessionPool.makeRoom_of_not_full hfull] at hpair
  have hsettings : (s.pool.lookup s.now s.stores.length key).2.settings = s.pool.settings := by
    rw [hpair]
    exact hwithin.1
  have hfind : ∀ other, (s.pool.lookup s.now s.stores.length key).2.find? other =
      if other = key then
        some ⟨key, s.stores.length, s.now, (s.pool.expireOne s.now key).nextTurn⟩
      else s.pool.find? other := by
    intro other
    rw [hpair, SessionPool.find?_insert]
    split
    · rfl
    · rename_i hne
      exact SessionPool.find?_expireOne_of_ne s.pool s.now hne
  have hadd := h.addStore key s.pool.settings.loadOnStartup
  refine ⟨(s.pool.lookup s.now s.stores.length key).2, ?_, ?_, hsettings, ?_⟩
  · unfold Server.lookup SessionPool.pathFor
    dsimp only
    rw [hsettings]
    rw [hpair]
    rfl
  · refine hadd.setPool hsettings ?_ fun other x hx => ?_
    · rw [hpair]
      exact hkeyed.insert (s := ⟨key, s.stores.length, s.now, _⟩) rfl _
    · rw [hfind] at hx
      split at hx
      · rename_i hother
        cases hx
        rw [hother]
        refine ⟨hkey, ?_⟩
        rw [← h.made]
        exact List.getElem?_concat_length
      · exact hadd.live other x hx
  · intro other
    rw [hfind, hpair]

end Server

end SessionTasks
