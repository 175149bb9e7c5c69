/-
# The pool answers as its list

A server answers every call about its sessions as the list of its sessions by recency does
(`Server.answers_eq`).  The list holds the sessions of the pool by falling counts of lookups,
which are all different as long as the count has not stopped.
-/
import SessionTasks.Proofs.Recency
import SessionTasks.Proofs.Recency.Ranking
import SessionTasks.Proofs.Sessions
namespace SessionTasks

/-- What the list knows of a session of the pool. -/
def Session.entry (s : Session) : RecencyEntry := ⟨s.key, s.store, s.lastAccess⟩

namespace RecencyList

/-- The list of a server without sessions. -/
def ofConfig (c : Config) : RecencyList := { settings := c.pool }

/-- The list shows the sessions of a pool. -/
structure ShowsPool (l : RecencyList) (p : SessionPool) : Prop where
  settings : l.settings = p.settings
  /-- At least one session may be live. -/
  allowed : 0 < l.settings.maxSessions.toNat
  /-- There are no more sessions than there may be. -/
  bounded : l.entries.length ≤ l.settings.maxSessions.toNat
  /-- The entries are the sessions of the pool, the one that was looked up last first. -/
  ranked : ∃ sessions, p.Ranked sessions ∧ l.entries = sessions.map Session.entry

/-- The list shows the sessions and the stores of a server. -/
structure Shows (l : RecencyList) (s : Server) : Prop where
  pool : l.ShowsPool s.pool
  stores : l.stores = s.stores

variable {l : RecencyList} {p : SessionPool}

/-! ## Reading -/

/-- A session has idled too long in the list when it is expired in the pool. -/
theorem isIdle_entry (hsettings : l.settings = p.settings) (now : Nat) (s : Session) :
    l.isIdle now s.entry = p.isExpired now s := by
  unfold isIdle SessionPool.isExpired
  rw [hsettings]
  rfl

/-- The list has as many entries as the pool has sessions. -/
theorem ShowsPool.size (h : l.ShowsPool p) : p.sessions.size = l.entries.length := by
  obtain ⟨sessions, hranked, hentries⟩ := h.ranked
  rw [hranked.size, hentries, List.length_map]

/-- A session is found in the list when it is found in the pool, with the same store and time. -/
theorem ShowsPool.find? (h : l.ShowsPool p) (key : SessionKey) :
    l.find? key = (p.find? key).map Session.entry := by
  obtain ⟨sessions, hranked, hentries⟩ := h.ranked
  unfold RecencyList.find?
  rw [hranked.find?, hentries, List.find?_map]
  rfl

theorem ShowsPool.key_of_find? (h : l.ShowsPool p) {key : SessionKey} {s : Session}
    (hs : p.find? key = some s) : s.key = key := by
  obtain ⟨sessions, hranked, -⟩ := h.ranked
  rw [hranked.find?] at hs
  simpa using List.find?_some hs

/-- The list and the pool tell the same keys, in the same order. -/
theorem ShowsPool.keys (h : l.ShowsPool p) : p.keys = l.keys := by
  obtain ⟨sessions, hranked, hentries⟩ := h.ranked
  unfold RecencyList.keys
  rw [hranked.keys, hentries, List.map_map]
  rfl

/-- The pool is full when there are as many sessions as there may be. -/
theorem ShowsPool.isFull (h : l.ShowsPool p) : p.isFull = l.isFull := by
  have hbounded := h.bounded
  have hsettings := h.settings
  unfold SessionPool.isFull RecencyList.isFull
  rw [h.size, ← hsettings, decide_eq_decide]
  omega

/-! ## Dropping -/

/-- No entry of the key is left. -/
theorem key_ne_of_mem_drop (l : RecencyList) {key : SessionKey} {e : RecencyEntry}
    (he : e ∈ (l.drop key).entries) : e.key ≠ key := by
  simpa using (List.mem_filter.1 he).2

/-- A key that is dropped is not found. -/
theorem find?_drop (l : RecencyList) (key : SessionKey) : (l.drop key).find? key = none := by
  unfold RecencyList.find?
  rw [List.find?_eq_none]
  intro e he
  simpa using l.key_ne_of_mem_drop he

/-- There is nothing to drop when no entry has the key. -/
theorem drop_eq_self {key : SessionKey} (h : ∀ e ∈ l.entries, e.key ≠ key) : l.drop key = l := by
  unfold drop
  rw [List.filter_eq_self.2 (by simpa using h)]

/-- Dropping a session is dropping its entry. -/
theorem ShowsPool.drop (h : l.ShowsPool p) (key : SessionKey) :
    (l.drop key).ShowsPool (p.drop key) where
  settings := h.settings
  allowed := h.allowed
  bounded := (List.length_filter_le _ _).trans h.bounded
  ranked := by
    obtain ⟨sessions, hranked, hentries⟩ := h.ranked
    refine ⟨_, hranked.drop key, ?_⟩
    show l.entries.filter _ = _
    rw [hentries, List.filter_map]
    rfl

/-- Dropping a session that is live leaves fewer. -/
theorem ShowsPool.length_drop_lt (h : l.ShowsPool p) {key : SessionKey} {s : Session}
    (hs : p.find? key = some s) : (l.drop key).entries.length < l.entries.length := by
  have hfind : l.entries.find? (fun e => e.key = key) = some s.entry := by
    show l.find? key = some s.entry
    rw [h.find?, hs]
    rfl
  have hkey : s.key = key := h.key_of_find? hs
  apply List.length_filter_lt_length_iff_exists.2
  refine ⟨s.entry, List.mem_of_find?_eq_some hfind, ?_⟩
  show ¬ decide (s.key ≠ key) = true
  rw [hkey]
  simp

/-- Expiry does the same to the list and to the pool. -/
theorem ShowsPool.expire (h : l.ShowsPool p) (now : Nat) :
    (l.expire now).ShowsPool (p.expire now) where
  settings := h.settings
  allowed := h.allowed
  bounded := (List.length_filter_le _ _).trans h.bounded
  ranked := by
    obtain ⟨sessions, hranked, hentries⟩ := h.ranked
    refine ⟨_, hranked.expire now, ?_⟩
    show l.entries.filter _ = _
    rw [hentries, List.filter_map]
    congr 1
    apply List.filter_congr
    intro s _
    show (!l.isIdle now s.entry) = !p.isExpired now s
    rw [isIdle_entry h.settings]

/-- The session that is evicted from the pool is the last one of the list. -/
theorem ShowsPool.evict (h : l.ShowsPool p) : l.dropLast.ShowsPool p.evict where
  settings := by
    unfold SessionPool.evict
    split
    · exact h.settings
    · exact h.settings
  allowed := h.allowed
  bounded := by
    have hbounded := h.bounded
    show l.entries.dropLast.length ≤ _
    rw [List.length_dropLast]
    exact (Nat.sub_le _ 1).trans hbounded
  ranked := by
    obtain ⟨sessions, hranked, hentries⟩ := h.ranked
    refine ⟨_, hranked.evict, ?_⟩
    show l.entries.dropLast = _
    rw [hentries, List.map_dropLast]

/-- A session that is not live, or has idled for too long, is gone after `expireOne`. -/
theorem ShowsPool.expireOne (h : l.ShowsPool p) {now : Nat} {key : SessionKey}
    (hidle : (l.find? key).filter (fun e => !l.isIdle now e) = none) :
    (l.drop key).ShowsPool (p.expireOne now key) := by
  unfold SessionPool.expireOne
  rw [h.find?] at hidle
  unfold SessionPool.find? at hidle
  cases hs : p.sessions.get? key.text with
  | some s =>
    rw [hs, Option.map_some, Option.filter_some_eq_none] at hidle
    rw [isIdle_entry h.settings] at hidle
    dsimp only
    rw [if_pos (by simpa using hidle)]
    exact h.drop key
  | none =>
    have hnone : l.find? key = none := by
      rw [h.find?]
      unfold SessionPool.find?
      rw [hs]
      rfl
    unfold RecencyList.find? at hnone
    rw [List.find?_eq_none] at hnone
    rw [drop_eq_self (by simpa using hnone)]
    exact h

/-! ## Making room -/

@[simp] theorem expireIfFull_settings (l : RecencyList) (now : Nat) :
    (l.expireIfFull now).settings = l.settings := by
  unfold expireIfFull
  split <;> rfl

@[simp] theorem expireIfFull_stores (l : RecencyList) (now : Nat) :
    (l.expireIfFull now).stores = l.stores := by
  unfold expireIfFull
  split <;> rfl

/-- Expiry in a full list takes entries away, and neither adds nor moves any. -/
theorem expireIfFull_sublist (l : RecencyList) (now : Nat) :
    (l.expireIfFull now).entries.Sublist l.entries := by
  unfold expireIfFull
  split
  · exact List.filter_sublist
  · exact List.Sublist.refl _

@[simp] theorem makeRoom_settings (l : RecencyList) (now : Nat) :
    (l.makeRoom now).settings = l.settings := by
  unfold makeRoom
  split
  · exact expireIfFull_settings l now
  · exact expireIfFull_settings l now

@[simp] theorem makeRoom_stores (l : RecencyList) (now : Nat) :
    (l.makeRoom now).stores = l.stores := by
  unfold makeRoom
  split
  · exact expireIfFull_stores l now
  · exact expireIfFull_stores l now

/-- Making room makes no session. -/
theorem makeRoom_sublist (l : RecencyList) (now : Nat) :
    (l.makeRoom now).entries.Sublist l.entries := by
  unfold makeRoom
  split
  · exact (List.dropLast_sublist _).trans (expireIfFull_sublist l now)
  · exact expireIfFull_sublist l now

/-- Room is made in the list by taking away what the pool takes away. -/
theorem ShowsPool.makeRoom (h : l.ShowsPool p) (now : Nat) :
    (l.makeRoom now).ShowsPool (p.makeRoom now) := by
  have hexpire : (l.expireIfFull now).ShowsPool (if p.isFull then p.expire now else p) := by
    unfold expireIfFull
    rw [h.isFull]
    split
    · exact h.expire now
    · exact h
  unfold RecencyList.makeRoom SessionPool.makeRoom
  generalize (if p.isFull then p.expire now else p) = q at hexpire
  dsimp only
  rw [hexpire.isFull]
  split
  · exact hexpire.evict
  · exact hexpire

/-- After room was made there is room. -/
theorem ShowsPool.length_makeRoom_lt (h : l.ShowsPool p) (now : Nat) :
    (l.makeRoom now).entries.length < l.settings.maxSessions.toNat := by
  have hallowed := h.allowed
  have hlength := (expireIfFull_sublist l now).length_le.trans h.bounded
  unfold RecencyList.makeRoom
  split
  · show (List.dropLast _).length < _
    rw [List.length_dropLast]
    omega
  · rename_i hfull
    unfold RecencyList.isFull at hfull
    rw [decide_eq_true_eq, expireIfFull_settings] at hfull
    omega

/-! ## Looking up -/

/-- A session with a later turn than all others goes to the head of the list. -/
theorem ShowsPool.insert (h : l.ShowsPool p) {s : Session} (hturn : p.turns < s.turn)
    (hroom : (l.drop s.key).entries.length < l.settings.maxSessions.toNat) :
    ({ l with entries := s.entry :: (l.drop s.key).entries } : RecencyList).ShowsPool
      { p with turns := s.turn, sessions := p.sessions.insert s.key.text s } where
  settings := h.settings
  allowed := h.allowed
  bounded := hroom
  ranked := by
    obtain ⟨sessions, hranked, hentries⟩ := h.ranked
    refine ⟨_, hranked.insert hturn, ?_⟩
    show s.entry :: l.entries.filter _ = _
    rw [hentries, List.filter_map]
    rfl

end RecencyList

namespace SessionPool

@[simp] theorem evict_turns (p : SessionPool) : p.evict.turns = p.turns := by
  unfold evict
  split <;> rfl

@[simp] theorem makeRoom_turns (p : SessionPool) (now : Nat) :
    (p.makeRoom now).turns = p.turns := by
  unfold makeRoom
  dsimp only
  generalize hq : (if p.isFull then p.expire now else p) = q
  have hturns : q.turns = p.turns := by
    rw [← hq]
    split <;> rfl
  split
  · rw [evict_turns, hturns]
  · exact hturns

@[simp] theorem expireOne_turns (p : SessionPool) (now : Nat) (key : SessionKey) :
    (p.expireOne now key).turns = p.turns := by
  unfold expireOne
  split
  · split <;> rfl
  · rfl

/-- Turns are counted up as long as the count can go on. -/
theorem nextTurn_of_lt {p : SessionPool} (h : p.turns < lastTurn) :
    p.nextTurn = p.turns + 1 := by
  unfold nextTurn
  omega

end SessionPool

namespace RecencyList

variable {l : RecencyList} {p : SessionPool}

/-- **A lookup of the pool is a lookup of the list**, as long as the count of lookups goes on:
the same session is found or made, and the list shows the pool after it. -/
theorem ShowsPool.lookup (h : l.ShowsPool p) (hturns : p.turns < SessionPool.lastTurn)
    (now : Nat) (key : SessionKey) :
    (p.lookup now l.stores.length key).1 = (l.lookup now key).1 ∧
      (l.lookup now key).2.ShowsPool (p.lookup now l.stores.length key).2 := by
  unfold RecencyList.lookup
  cases hfound : (l.find? key).filter (fun e => !l.isIdle now e) with
  | some e =>
    rw [Option.filter_eq_some_iff, h.find?, Option.map_eq_some_iff] at hfound
    obtain ⟨⟨s, hs, rfl⟩, hlive⟩ := hfound
    rw [isIdle_entry h.settings, Bool.not_eq_true'] at hlive
    rw [SessionPool.lookup_of_live hs hlive]
    have hkey : s.key = key := h.key_of_find? hs
    have hturn : p.turns < p.nextTurn := by
      rw [SessionPool.nextTurn_of_lt hturns]
      omega
    -- the session leaves its place before it comes to the front
    have hroom := (h.length_drop_lt hs).trans_le h.bounded
    subst hkey
    exact ⟨rfl, h.insert (s := { s with lastAccess := now, turn := p.nextTurn }) hturn hroom⟩
  | none =>
    have hdrop := h.expireOne hfound
    have hfree : (p.expireOne now key).find? key = none := by
      have hnone := l.find?_drop key
      rw [hdrop.find?, Option.map_eq_none_iff] at hnone
      exact hnone
    rw [SessionPool.lookup_of_not_live hfree]
    have hmade := hdrop.makeRoom now
    have hroom := hdrop.length_makeRoom_lt now
    have hturn : ((p.expireOne now key).makeRoom now).turns < (p.expireOne now key).nextTurn := by
      rw [SessionPool.nextTurn_of_lt (by simpa using hturns)]
      simp
    -- no session that is left has the key, so the new one takes the place of none
    have hsame : ((l.drop key).makeRoom now).drop key = (l.drop key).makeRoom now := by
      apply drop_eq_self
      intro e he
      exact l.key_ne_of_mem_drop ((makeRoom_sublist (l.drop key) now).subset he)
    have hinsert := hmade.insert
      (s := ⟨key, l.stores.length, now, (p.expireOne now key).nextTurn⟩) hturn (by
        rw [hsame, makeRoom_settings]
        exact hroom)
    dsimp only
    rw [makeRoom_stores]
    refine ⟨rfl, ?_⟩
    rw [hsame] at hinsert
    exact ⟨hinsert.settings, hinsert.allowed, hinsert.bounded, hinsert.ranked⟩

/-- What a lookup leaves of the settings and of the stores. -/
theorem lookup_stores (l : RecencyList) (now : Nat) (key : SessionKey) :
    (l.lookup now key).2.settings = l.settings ∧
      (l.lookup now key).2.stores =
        if (l.lookup now key).1.created then l.stores ++ [{ settings := l.storeSettings key }]
        else l.stores := by
  unfold lookup
  split
  · exact ⟨rfl, rfl⟩
  · dsimp only
    unfold storeSettings
    rw [makeRoom_settings, makeRoom_stores]
    exact ⟨rfl, rfl⟩

end RecencyList

namespace Server

/-- **A lookup of the server is a lookup of its list.** -/
theorem shows_lookup {l : RecencyList} {s : Server} (h : l.Shows s)
    (hturns : s.pool.turns < SessionPool.lastTurn) (key : SessionKey) :
    (s.lookup key).1 = (l.lookup s.now key).1 ∧ (l.lookup s.now key).2.Shows (s.lookup key).2 := by
  obtain ⟨hopened, hpool⟩ := h.pool.lookup hturns s.now key
  obtain ⟨hsettings, hstores⟩ := l.lookup_stores s.now key
  have hfile : l.storeSettings key =
      ⟨s.pool.pathFor key, s.pool.settings.loadOnStartup⟩ := by
    unfold RecencyList.storeSettings SessionPool.pathFor
    rw [h.pool.settings]
  rw [h.stores, ← lookup_fst] at hopened
  rw [h.stores, ← lookup_pool] at hpool
  refine ⟨hopened, hpool, ?_⟩
  rw [hstores, lookup_stores, hopened, hfile, h.stores]

end Server

namespace SessionPool

/-- A lookup takes one turn. -/
theorem lookup_turns (p : SessionPool) (now : Nat) (fresh : StoreId) (key : SessionKey) :
    (p.lookup now fresh key).2.turns = p.nextTurn := by
  have hnext : (p.expireOne now key).nextTurn = p.nextTurn := by
    unfold nextTurn
    rw [expireOne_turns]
  unfold lookup
  dsimp only
  split
  · exact hnext
  · exact hnext

theorem nextTurn_le (p : SessionPool) : p.nextTurn ≤ p.turns + 1 := by
  unfold nextTurn
  omega

end SessionPool

/-! ## Calls -/

namespace Server

/-- A call counts at most one lookup, and only a lookup counts. -/
theorem answer_turns (s : Server) (now : Nat) (c : SessionCall) :
    (s.answer now c).2.pool.turns ≤ s.pool.turns + if c.isLookup then 1 else 0 := by
  cases c with
  | lookup raw =>
    show ({ s with now }.lookup (.sanitize raw)).2.pool.turns ≤ s.pool.turns + 1
    rw [lookup_pool, SessionPool.lookup_turns]
    exact SessionPool.nextTurn_le s.pool
  | find raw => exact Nat.le_refl _
  | remove raw => exact Nat.le_refl _
  | expire => exact Nat.le_refl _
  | keys => exact Nat.le_refl _

/-- **Step lemma.**  The server answers one call as its list does, and the list shows the server
after it. -/
theorem shows_answer {l : RecencyList} {s : Server} (h : l.Shows s) (now : Nat) (c : SessionCall)
    (hturns : s.pool.turns + (if c.isLookup then 1 else 0) ≤ SessionPool.lastTurn) :
    (s.answer now c).1 = (l.answer now c).1 ∧ (l.answer now c).2.Shows (s.answer now c).2 := by
  have hnow : l.Shows { s with now } := ⟨h.pool, h.stores⟩
  cases c with
  | lookup raw =>
    obtain ⟨hopened, hshows⟩ := shows_lookup hnow hturns (.sanitize raw)
    exact ⟨congrArg SessionAnswer.opened hopened, hshows⟩
  | find raw =>
    refine ⟨?_, hnow⟩
    show SessionAnswer.found ((s.pool.find? (.sanitize raw)).map _) = .found _
    rw [h.pool.find?, Option.map_map]
    congr 1
    apply Option.map_congr
    intro session hsession
    show (⟨.sanitize raw, session.store, false⟩ : Opened) = ⟨session.key, session.store, false⟩
    rw [h.pool.key_of_find? hsession]
  | remove raw =>
    refine ⟨?_, h.pool.drop _, h.stores⟩
    show SessionAnswer.removed (s.pool.find? (.sanitize raw)).isSome = .removed _
    rw [h.pool.find?, Option.isSome_map]
  | expire =>
    refine ⟨?_, h.pool.expire now, h.stores⟩
    show SessionAnswer.expired (s.pool.sessions.size - (s.pool.expire now).sessions.size) = .expired _
    have hafter : (s.pool.expire now).sessions.size
        = (l.entries.filter fun e => !l.isIdle now e).length := (h.pool.expire now).size
    -- the pool counts what it has lost, and the list those that idle
    have hsum := List.length_eq_length_filter_add (l := l.entries) (l.isIdle now)
    rw [h.pool.size, hafter, List.countP_eq_length_filter]
    congr 1
    omega
  | keys => exact ⟨congrArg SessionAnswer.keys h.pool.keys, hnow⟩

/-- **Run lemma.**  The server answers all calls as its list does. -/
theorem shows_answers (calls : List (Nat × SessionCall)) {l : RecencyList} {s : Server}
    (h : l.Shows s)
    (hturns : s.pool.turns + calls.countP (fun c => c.2.isLookup) ≤ SessionPool.lastTurn) :
    (s.answers calls).1 = (l.answers calls).1 ∧ (l.answers calls).2.Shows (s.answers calls).2 := by
  induction calls generalizing l s with
  | nil => exact ⟨rfl, h⟩
  | cons call rest ih =>
    obtain ⟨now, c⟩ := call
    rw [List.countP_cons] at hturns
    have hstep := answer_turns s now c
    obtain ⟨hanswer, hshows⟩ := shows_answer h now c (by dsimp only at hturns; omega)
    obtain ⟨hmore, hrest⟩ := ih hshows (by dsimp only at hturns; omega)
    refine ⟨?_, hrest⟩
    show (s.answer now c).1 :: ((s.answer now c).2.answers rest).1 = _
    rw [hanswer, hmore]
    rfl

/-- The list of a fresh server shows it. -/
theorem shows_ofConfig {c : Config} {epoch issued : Nat} {files : FileTree} {s : Server}
    (h : ofConfig c epoch files issued = .ok s) :
    (RecencyList.ofConfig c).Shows s ∧ s.pool.turns = 0 := by
  unfold ofConfig at h
  split at h
  · cases h
  · rename_i hmax
    split at h
    · cases h
    · cases h
      have hallowed : 0 < c.session.maxSessions.toNat := by
        rw [Nat.pos_iff_ne_zero]
        intro hzero
        exact hmax (UInt64.toNat_inj.1 hzero)
      refine ⟨⟨⟨rfl, hallowed, Nat.zero_le _, [], SessionPool.Ranked.empty _, rfl⟩, rfl⟩, rfl⟩

/-- **A server answers every call about its sessions as the list of its sessions by recency
does,** and the list shows the server whatever it was asked, at whatever readings of the clock,
as long as there are fewer than 2 ^ 64 - 1 lookups. -/
theorem answers_eq {c : Config} {epoch issued : Nat} {files : FileTree} {s : Server}
    (hs : ofConfig c epoch files issued = .ok s) (calls : List (Nat × SessionCall))
    (hcalls : calls.countP (fun c => c.2.isLookup) < 2 ^ 64 - 1) :
    (s.answers calls).1 = ((RecencyList.ofConfig c).answers calls).1 ∧
      ((RecencyList.ofConfig c).answers calls).2.Shows (s.answers calls).2 := by
  obtain ⟨hshows, hturns⟩ := shows_ofConfig hs
  apply shows_answers calls hshows
  rw [hturns, Nat.zero_add]
  exact hcalls.le

/-- Two sessions may be live. -/
def pairConfig : Config := { session := { maxSessions := 2 } }

/-- A fresh server on which two sessions may be live. -/
def pairServer : Server where
  epoch := 0
  files := .empty
  pool := .empty pairConfig.pool
  sweeper := { options := pairConfig.retention }
  resolver := { settings := pairConfig.resolving }

/-- The second of two sessions has to go, and later both that are live have idled too long. -/
def pairCalls : List (Nat × SessionCall) :=
  [(0, .lookup "a"), (1, .lookup "b"), (2, .lookup "a"), (3, .lookup "c"), (4, .keys),
    (1800004, .expire)]

/-- With room for two sessions the third one takes the place of the second, which was looked up
least recently. -/
theorem answers_eq_pair :
    ofConfig pairConfig 0 .empty 0 = .ok pairServer ∧
      pairCalls.countP (fun c => c.2.isLookup) < 2 ^ 64 - 1 ∧
      (pairServer.answers pairCalls).1 =
        [.opened ⟨.sanitize "a", 0, true⟩, .opened ⟨.sanitize "b", 1, true⟩,
          .opened ⟨.sanitize "a", 0, false⟩, .opened ⟨.sanitize "c", 2, true⟩,
          .keys [.sanitize "a", .sanitize "c"], .expired 2] ∧
      (pairServer.answers pairCalls).1
        = ((RecencyList.ofConfig pairConfig).answers pairCalls).1 ∧
      ((RecencyList.ofConfig pairConfig).answers pairCalls).2.Shows
        (pairServer.answers pairCalls).2 := by
  have hs : ofConfig pairConfig 0 .empty 0 = .ok pairServer := rfl
  have hcalls : pairCalls.countP (fun c => c.2.isLookup) < 2 ^ 64 - 1 := by decide
  exact ⟨hs, hcalls, by decide +kernel, answers_eq hs pairCalls hcalls⟩

end Server

end SessionTasks
