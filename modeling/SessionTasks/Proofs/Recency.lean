/-
# Sessions by recency

What callers may know of the pool of sessions: a list of the live sessions, the one that was
looked up last first, and every store that was ever made.  A session that is looked up moves
to the front; when a new one needs room, first those that idled too long are dropped, and
then the last of the list.

The list knows neither the order of the keys nor how many lookups there were.
-/
import Mathlib
import SessionTasks.Server
namespace SessionTasks

/-! ## The list -/

/-- What the list knows of a live session. -/
structure RecencyEntry where
  /-- Its key. -/
  key : SessionKey
  /-- Its store. -/
  store : StoreId
  /-- When it was last looked up. -/
  lastAccess : Nat
  deriving DecidableEq

/-- The live sessions by recency. -/
structure RecencyList where
  /-- How many sessions there may be, and where their stores are kept. -/
  settings : PoolSettings
  /-- The live sessions, the one looked up last first. -/
  entries : List RecencyEntry := []
  /-- Every store, in the order they were made. -/
  stores : List Store := []

namespace RecencyList

/-- The session has idled for longer than it may. -/
def isIdle (l : RecencyList) (now : Nat) (e : RecencyEntry) : Bool :=
  l.settings.timeout.toNat < now - e.lastAccess

/-- As many sessions are live as there may be. -/
def isFull (l : RecencyList) : Bool := l.entries.length = l.settings.maxSessions.toNat

/-- The session with a key. -/
def find? (l : RecencyList) (key : SessionKey) : Option RecencyEntry :=
  l.entries.find? fun e => e.key = key

/-- Drops the session with a key. -/
def drop (l : RecencyList) (key : SessionKey) : RecencyList :=
  { l with entries := l.entries.filter fun e => e.key ≠ key }

/-- Drops the sessions that have idled for too long. -/
def expire (l : RecencyList) (now : Nat) : RecencyList :=
  { l with entries := l.entries.filter fun e => !l.isIdle now e }

/-- Drops the session that was looked up least recently. -/
def dropLast (l : RecencyList) : RecencyList := { l with entries := l.entries.dropLast }

/-- Drops the sessions that have idled for too long, if the list is full. -/
def expireIfFull (l : RecencyList) (now : Nat) : RecencyList :=
  if l.isFull then l.expire now else l

/-- Makes room for one more session. -/
def makeRoom (l : RecencyList) (now : Nat) : RecencyList :=
  if (l.expireIfFull now).isFull then (l.expireIfFull now).dropLast else l.expireIfFull now

/-- The settings of the store of a session. -/
def storeSettings (l : RecencyList) (key : SessionKey) : StoreSettings :=
  ⟨l.settings.persistencePath.map fun base => base ++ "_" ++ key.text, l.settings.loadOnStartup⟩

/-- The session with a key moves to the front; one that has idled for too long is dropped
before.  A session that is not live is made, with a new and empty store. -/
def lookup (l : RecencyList) (now : Nat) (key : SessionKey) : Opened × RecencyList :=
  match (l.find? key).filter fun e => !l.isIdle now e with
  | some e =>
    (⟨key, e.store, false⟩,
      { l with entries := { e with lastAccess := now } :: (l.drop key).entries })
  | none =>
    let l := (l.drop key).makeRoom now
    (⟨key, l.stores.length, true⟩,
      { l with
        entries := ⟨key, l.stores.length, now⟩ :: l.entries
        stores := l.stores ++ [{ settings := l.storeSettings key }] })

/-- The keys of the live sessions, in code point order. -/
def keys (l : RecencyList) : List SessionKey :=
  (l.entries.map RecencyEntry.key).mergeSort fun a b => a.text ≤ b.text

end RecencyList

/-! ## Calls -/

/-- What is asked of the sessions. -/
inductive SessionCall where
  /-- Looks a session up, and makes it if it is not live. -/
  | lookup (raw : String)
  /-- Finds a live session; this is no lookup. -/
  | find (raw : String)
  /-- Drops a session. -/
  | remove (raw : String)
  /-- Drops the sessions that have idled for too long. -/
  | expire
  /-- Lists the keys of the live sessions. -/
  | keys

/-- The call is a lookup. -/
def SessionCall.isLookup : SessionCall → Bool
  | .lookup _ => true
  | _ => false

/-- What is answered to a call. -/
inductive SessionAnswer where
  /-- The session that was looked up. -/
  | opened (o : Opened)
  /-- The session that was found, if any. -/
  | found (o : Option Opened)
  /-- The session was live. -/
  | removed (live : Bool)
  /-- How many sessions had expired. -/
  | expired (n : Nat)
  /-- The keys. -/
  | keys (keys : List SessionKey)
  deriving DecidableEq

namespace RecencyList

/-- What the list answers to a call at a reading of the clock. -/
def answer (l : RecencyList) (now : Nat) : SessionCall → SessionAnswer × RecencyList
  | .lookup raw =>
    let (o, l) := l.lookup now (.sanitize raw)
    (.opened o, l)
  | .find raw => (.found ((l.find? (.sanitize raw)).map fun e => ⟨e.key, e.store, false⟩), l)
  | .remove raw => (.removed (l.find? (.sanitize raw)).isSome, l.drop (.sanitize raw))
  | .expire => (.expired (l.entries.countP (l.isIdle now)), l.expire now)
  | .keys => (.keys l.keys, l)

/-- What the list answers to some calls, each at a reading of the clock. -/
def answers (l : RecencyList) : List (Nat × SessionCall) → List SessionAnswer × RecencyList
  | [] => ([], l)
  | (now, c) :: rest =>
    let (a, l) := l.answer now c
    let (more, l) := l.answers rest
    (a :: more, l)

end RecencyList

namespace Server

/-- What the server answers to a call at a reading of the clock. -/
def answer (s : Server) (now : Nat) : SessionCall → SessionAnswer × Server
  | .lookup raw =>
    let (o, s) := { s with now }.lookup (.sanitize raw)
    (.opened o, s)
  | .find raw => (.found ({ s with now }.existing? (.sanitize raw)), { s with now })
  | .remove raw =>
    let (live, s) := { s with now }.removeSession (.sanitize raw)
    (.removed live, s)
  | .expire =>
    let (n, s) := { s with now }.expireSessions
    (.expired n, s)
  | .keys => (.keys s.pool.keys, { s with now })

/-- What the server answers to some calls, each at a reading of the clock. -/
def answers (s : Server) : List (Nat × SessionCall) → List SessionAnswer × Server
  | [] => ([], s)
  | (now, c) :: rest =>
    let (a, s) := s.answer now c
    let (more, s) := s.answers rest
    (a :: more, s)

end Server

end SessionTasks
