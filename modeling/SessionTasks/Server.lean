/-
# The server

The server holds all that lasts between two requests: the pool of sessions and their
stores, the runs of tasks, the retention of finished tasks, and the resolver of sessions.
Each operation here is one indivisible step at the time `now`.  Opening a session takes two: the
session is there as soon as it is looked up (`Server.lookup`), and its store is loaded when the file
has been read (`Server.finishOpening`).
-/
import SessionTasks.Config
import SessionTasks.Identifier
import SessionTasks.Resolver
import SessionTasks.SessionPool
import SessionTasks.Store.File
import SessionTasks.Task.Table
namespace SessionTasks

/-! ## State -/

/-- A task of a session. -/
structure TaskKey where
  /-- The session. -/
  session : SessionKey
  /-- The identifier of the task. -/
  task : String
  deriving DecidableEq

/-- The number of a run; runs are numbered in the order they are asked for. -/
abbrev RunId := Nat

/-- The runs that hold their tasks. -/
structure RunLedger where
  /-- The task that each of them holds. -/
  holders : List (TaskKey × RunId) := []
  /-- The runs that were cancelled. -/
  cancelled : List RunId := []
  deriving DecidableEq

/-- What came of a cycle of retention. -/
structure SweepReport where
  /-- When the cycle ended. -/
  finishedAt : Int64
  /-- How many sessions were looked through. -/
  sessionsScanned : Nat
  /-- How many sessions had expired. -/
  sessionsExpired : Nat
  /-- How many tasks were dropped. -/
  tasksRemoved : Nat
  deriving DecidableEq

/-- The timer that starts the cycles of retention. -/
structure SweepTimer where
  /-- When the next cycle starts. -/
  due : Nat
  /-- The milliseconds between two cycles. -/
  period : Nat
  deriving DecidableEq

/-- The retention of finished tasks. -/
structure Sweeper where
  /-- The limits, and how often they are enforced. -/
  options : RetentionOptions
  /-- The last cycle. -/
  lastRun : Option SweepReport := none
  /-- The timer, while cycles are started. -/
  timer : Option SweepTimer := none
  deriving DecidableEq

/-- All that lasts between two requests. -/
structure Server where
  /-- The time at which the clock of the server started, in milliseconds of 1970. -/
  epoch : Nat
  /-- The milliseconds since then. -/
  now : Nat := 0
  /-- The files. -/
  files : FileTree
  /-- How many identifiers were given out. -/
  issued : Nat := 0
  /-- The live sessions. -/
  pool : SessionPool
  /-- Every store, in the order they were made. -/
  stores : List Store := []
  /-- The runs that hold their tasks. -/
  ledger : RunLedger := {}
  /-- The retention of finished tasks. -/
  sweeper : Sweeper
  /-- The resolver of sessions. -/
  resolver : Resolver

namespace Config

/-- The settings of the pool of sessions. -/
def pool (c : Config) : PoolSettings where
  maxSessions := c.session.maxSessions
  timeout := c.session.timeout
  persistencePath := c.session.persistencePath
  loadOnStartup := c.session.loadOnStartup

/-- The settings of the resolver of sessions. -/
def resolving (c : Config) : ResolverSettings where
  header := c.resolver.header
  query := c.resolver.query
  cookie := c.resolver.cookie
  defaultSession := c.resolver.defaultSession
  ipPrefix := c.resolver.ipPrefix
  isolation := c.profile.isolation
  mapByIp := c.profile.mapByIp
  fullAuth := c.profile.fullAuth

end Config

namespace Server

/-- A server without sessions.  A pool without room, or one whose sessions expire at once,
is refused. -/
def ofConfig (c : Config) (epoch : Nat) (files : FileTree) (issued : Nat) :
    Except Failure Server :=
  if c.session.maxSessions = 0 then .error .noSessionAllowed
  else if c.session.timeout = 0 then .error .noIdleTime
  else .ok {
    epoch, files, issued
    pool := .empty c.pool
    sweeper := { options := c.retention }
    resolver := { settings := c.resolving } }

/-- The time on the clock. -/
def clock (s : Server) : Int64 := Int64.ofNat (s.epoch + s.now)

/-! ## Stores -/

/-- A store. -/
def store (s : Server) (id : StoreId) : Store := s.stores[id]?.getD {}

/-- The server with another content of a store. -/
def setStore (s : Server) (id : StoreId) (store : Store) : Server :=
  { s with stores := s.stores.set id store }

/-- An operation on one store. -/
def onStore {α : Type} (s : Server) (id : StoreId) (f : Store → α × Store) : α × Server :=
  let (result, store) := f (s.store id)
  (result, s.setStore id store)

/-- Makes a store of its own. -/
def addStore (s : Server) (settings : StoreSettings) : StoreId × Server :=
  (s.stores.length, { s with stores := s.stores ++ [{ settings }] })

/-- Gives out an identifier. -/
def issue (s : Server) : String × Server :=
  (identifier (s.issued + 1), { s with issued := s.issued + 1 })

/-- Stores a record; one without an identifier is given one. -/
def put (s : Server) (id : StoreId) (table : String) (r : Record) :
    Except Failure Record × Server :=
  let (fresh, after) := s.issue
  let s' := if r.id.isEmpty && !(s.store id).poisoned then after else s
  s'.onStore id fun store => store.put s.clock fresh table r

/-- Saves a store. -/
def save (s : Server) (id : StoreId) : Except Failure Unit × Server :=
  match (s.store id).save s.files with
  | .ok files => (.ok (), { s with files })
  | .error f => (.error f, s)

/-- Loads a store. -/
def load (s : Server) (id : StoreId) : Except Failure Unit × Server :=
  match (s.store id).load s.files with
  | .ok store => (.ok (), s.setStore id store)
  | .error f => (.error f, s)

/-- Loads a store if it is to be loaded when it is opened, from files that were read before; tells
whether it was. -/
def startFrom (s : Server) (files : FileTree) (id : StoreId) : Except Failure Bool × Server :=
  match (s.store id).start files with
  | .ok (loaded, store) => (.ok loaded, s.setStore id store)
  | .error f => (.error f, s)

/-- Loads a store if it is to be loaded when it is opened; tells whether it was. -/
def start (s : Server) (id : StoreId) : Except Failure Bool × Server := s.startFrom s.files id

/-! ## Sessions -/

/-- The session with a key; one that is not live is made, with a store of its own. -/
def lookup (s : Server) (key : SessionKey) : Opened × Server :=
  let (opened, pool) := s.pool.lookup s.now s.stores.length key
  let s := { s with pool }
  if opened.created then
    (opened, (s.addStore ⟨s.pool.pathFor key, s.pool.settings.loadOnStartup⟩).2)
  else (opened, s)

/-- Ends the opening of a session that was looked up: one that was made is loaded, from the files
as they were when its own was read. -/
def finishOpening (s : Server) (files : FileTree) (opened : Opened) :
    Except Failure Opened × Server :=
  if opened.created then
    match s.startFrom files opened.store with
    | (.ok _, s) => (.ok opened, s)
    | (.error f, s) => (.error f, s)
  else (.ok opened, s)

/-- The session with a key; one that is made is loaded.  Here nothing comes between the lookup and
the end. -/
def openSession (s : Server) (key : SessionKey) : Except Failure Opened × Server :=
  let (opened, s) := s.lookup key
  s.finishOpening s.files opened

/-- The live session with a key; the lookup does not count. -/
def existing? (s : Server) (key : SessionKey) : Option Opened :=
  (s.pool.find? key).map fun session => ⟨key, session.store, false⟩

/-- Drops a session; tells whether it was live. -/
def removeSession (s : Server) (key : SessionKey) : Bool × Server :=
  ((s.pool.find? key).isSome, { s with pool := s.pool.drop key })

/-- Drops the sessions that have idled for too long, and counts them. -/
def expireSessions (s : Server) : Nat × Server :=
  let pool := s.pool.expire s.now
  (s.pool.sessions.size - pool.sessions.size, { s with pool })

/-! ## Tasks -/

/-- Creates a task in a store, for a session. -/
def createTask (s : Server) (id : StoreId) (session : SessionKey) (d : TaskDraft) :
    Except Failure Task × Server :=
  let (fresh, s) := s.issue
  s.onStore id fun store => store.createTask session fresh s.clock d

/-- Merges a change into a task of a session.  This is a lookup of the session. -/
def writeUpdate (s : Server) (key : TaskKey) (u : TaskUpdate) : Except Failure Task × Server :=
  let (opened, s) := s.lookup key.session
  s.onStore opened.store fun store => store.updateTask opened.key key.task s.clock u

end Server

end SessionTasks
