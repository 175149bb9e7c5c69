/-
# The pool of sessions

The pool knows the store of every live session.  There are never more than a fixed number:
when a new session needs room, first the sessions that idled too long are dropped, and then
the one that was looked up least recently.
-/
import SessionTasks.KeyMap
import SessionTasks.SessionKey
namespace SessionTasks

/-- The number of a store; stores are numbered in the order they are made. -/
abbrev StoreId := Nat

/-- How many sessions there may be, and where their stores are kept. -/
structure PoolSettings where
  /-- How many sessions may be live. -/
  maxSessions : UInt64
  /-- How many milliseconds a session may idle. -/
  timeout : UInt64
  /-- What the names of the files of sessions start with. -/
  persistencePath : Option String
  /-- A new session reads its file. -/
  loadOnStartup : Bool
  deriving DecidableEq

/-- A live session. -/
structure Session where
  /-- Its key. -/
  key : SessionKey
  /-- Its store. -/
  store : StoreId
  /-- When it was last looked up. -/
  lastAccess : Nat
  /-- The count of lookups at its last one. -/
  turn : Nat
  deriving DecidableEq

/-- The live sessions. -/
structure SessionPool where
  /-- What the pool may hold. -/
  settings : PoolSettings
  /-- The count of lookups, which stops at `lastTurn`. -/
  turns : Nat
  /-- The sessions by their keys. -/
  sessions : KeyMap Session
  deriving DecidableEq

/-- The store that a lookup leads to. -/
structure Opened where
  /-- The key of the session. -/
  key : SessionKey
  /-- Its store. -/
  store : StoreId
  /-- The lookup made the session. -/
  created : Bool
  deriving DecidableEq

namespace SessionPool

/-- A pool without sessions. -/
def empty (settings : PoolSettings) : SessionPool := ⟨settings, 0, .empty⟩

/-- The session has idled for longer than it may. -/
def isExpired (p : SessionPool) (now : Nat) (s : Session) : Bool :=
  p.settings.timeout.toNat < now - s.lastAccess

/-- The sessions that a test keeps. -/
def keep (p : SessionPool) (test : Session → Bool) : SessionPool :=
  { p with sessions :=
    ⟨p.sessions.entries.filter fun e => test e.2, p.sessions.sorted.filter _⟩ }

/-- Drops one session. -/
def drop (p : SessionPool) (key : SessionKey) : SessionPool :=
  { p with sessions := p.sessions.erase key.text }

/-- Drops the sessions that have idled for too long. -/
def expire (p : SessionPool) (now : Nat) : SessionPool := p.keep fun s => !p.isExpired now s

/-- Drops a session if it has idled for too long. -/
def expireOne (p : SessionPool) (now : Nat) (key : SessionKey) : SessionPool :=
  match p.sessions.get? key.text with
  | some s => if p.isExpired now s then p.drop key else p
  | none => p

/-- No more sessions may be added. -/
def isFull (p : SessionPool) : Bool := p.settings.maxSessions.toNat ≤ p.sessions.size

/-- The one of two sessions that was looked up earlier. -/
def earlier (a b : Session) : Session := if b.turn < a.turn then b else a

/-- The session that was looked up least recently. -/
def oldest? (p : SessionPool) : Option Session :=
  match p.sessions.values with
  | [] => none
  | s :: rest => some (rest.foldl earlier s)

/-- Drops the session that was looked up least recently. -/
def evict (p : SessionPool) : SessionPool :=
  match p.oldest? with
  | some s => p.drop s.key
  | none => p

/-- Makes room for one more session. -/
def makeRoom (p : SessionPool) (now : Nat) : SessionPool :=
  let p := if p.isFull then p.expire now else p
  if p.isFull then p.evict else p

/-- The live session with a key; the lookup does not count. -/
def find? (p : SessionPool) (key : SessionKey) : Option Session := p.sessions.get? key.text

/-- Where the count of lookups stops: the greatest number of 64 bits. -/
def lastTurn : Nat := Nat.pow 2 64 - 1

/-- The count of lookups after one more. -/
def nextTurn (p : SessionPool) : Nat := min (p.turns + 1) lastTurn

/-- The session with a key, and the pool after the lookup.  A session that is not live is
made, with the store `fresh`. -/
def lookup (p : SessionPool) (now : Nat) (fresh : StoreId) (key : SessionKey) :
    Opened × SessionPool :=
  let p := p.expireOne now key
  let turn := p.nextTurn
  match p.find? key with
  | some s =>
    (⟨key, s.store, false⟩,
      { p with
        turns := turn
        sessions := p.sessions.insert key.text { s with lastAccess := now, turn } })
  | none =>
    let p := p.makeRoom now
    (⟨key, fresh, true⟩,
      { p with
        turns := turn
        sessions := p.sessions.insert key.text ⟨key, fresh, now, turn⟩ })

/-- The keys of the live sessions, in order. -/
def keys (p : SessionPool) : List SessionKey := p.sessions.values.map Session.key

/-- The path of the file of a session. -/
def pathFor (p : SessionPool) (key : SessionKey) : Option String :=
  p.settings.persistencePath.map fun base => base ++ "_" ++ key.text

end SessionPool

end SessionTasks
