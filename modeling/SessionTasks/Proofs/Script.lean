/-
# Scripts of callers

What callers ask of a schedule, session by session, with the answers that they get.  A caller holds
stores and runs under names of its own, so that what it asks for does not depend on how they are
numbered; an operation that gives out an identifier is told which.  What is asked for all sessions
stands between.

* `World.serve` : what a session is asked for, and the answer;
* `World.play` : a script;
* `World.answersTo`, `World.view` : what a session can see of it.
-/
import SessionTasks.Proofs.Schedule
namespace SessionTasks

/-! ## Asking a store -/

/-- What the holder of a store may ask without changing it. -/
inductive StoreQuery where
  /-- The names of the tables. -/
  | tableNames
  /-- A row. -/
  | find (table id : String)
  /-- The rows of a table. -/
  | all (table : String)
  /-- The rows that match an example. -/
  | findAll (table : String) (e : Example)
  /-- The first row that matches an example. -/
  | findFirst (table : String) (e : Example)
  /-- A task. -/
  | task (session : SessionKey) (id : String)
  /-- The tasks with some properties. -/
  | tasks (session : SessionKey) (filter : TaskFilter)
  /-- How many tasks there are of each status. -/
  | taskStats (session : SessionKey)

/-- What the holder of a store is told. -/
inductive StoreReply where
  | names (result : Except Failure (List String))
  | row (result : Except Failure (Option Record))
  | rows (result : Except Failure (List Record))
  | record (result : Except Failure Record)
  | changed (result : Changed)
  | task (result : Except Failure Task)
  | tasks (result : Except Failure (List Task))
  | stats (result : Except Failure TaskStats)
  | count (result : Except Failure Nat)
  | loaded (result : Except Failure Bool)
  | done (result : Except Failure Unit)

/-- The answer to a question. -/
def Store.reply (s : Store) : StoreQuery → StoreReply
  | .tableNames => .names s.tableNames
  | .find table id => .row (s.find? table id)
  | .all table => .rows (s.all table)
  | .findAll table e => .rows (s.findAll table e)
  | .findFirst table e => .row (s.findFirst table e)
  | .task session id => .task (s.task session id)
  | .tasks session filter => .tasks (s.tasks session filter)
  | .taskStats session => .stats (s.taskStats session)

/-- The answer to an operation on a store. -/
def Server.reply (s : Server) (id : StoreId) : StoreOperation → StoreReply
  | .put table r => .record (s.put id table r).1
  | .modify table name change =>
    .changed (s.onStore id fun store => store.modify table name change).1
  | .delete table name => .row (s.onStore id fun store => store.delete table name).1
  | .deleteTable table => .count (s.onStore id fun store => store.deleteTable table).1
  | .clear => .done (s.onStore id Store.clear).1
  | .createTask session d => .task (s.createTask id session d).1
  | .updateTask session task u =>
    .task (s.onStore id fun store => store.updateTask session task s.clock u).1
  | .cancelTask session task =>
    .task (s.onStore id fun store => store.cancelTask session task s.clock).1
  | .retryTask session task =>
    .task (s.onStore id fun store => store.retryTask session task s.clock).1
  | .deleteTask session task => .task (s.onStore id fun store => store.deleteTask session task).1
  | .trimTasks session limits => .count (s.onStore id fun store => store.trimTasks session limits).1
  | .save => .done (s.save id).1
  | .load => .done (s.load id).1
  | .start => .loaded (s.start id).1

/-! ## Asking for a session -/

/-- What may be asked for one session.  The names are those under which its stores and its runs
are held. -/
inductive SessionEvent where
  /-- Looks the session up, and holds its store. -/
  | lookup (name : String)
  /-- Opens the session, and holds its store. -/
  | openSession (name : String)
  /-- Holds the store of the session if it is live. -/
  | existing (name : String)
  /-- Drops the session. -/
  | remove
  /-- Asks a store that is held. -/
  | query (name : String) (q : StoreQuery)
  /-- Does something with a store that is held.  An identifier that is given out is the one after
  as many as `issued`. -/
  | change (name : String) (issued : Nat) (o : StoreOperation)
  /-- Asks for a run of a task, and holds the run. -/
  | ask (name task : String)
  /-- A run that is held goes on. -/
  | step (name : String) (a : RunStep)
  /-- Asks whether a run that is held was cancelled. -/
  | isCancelled (name : String)
  /-- Asks whether a run holds a task. -/
  | isRunning (task : String)
  /-- Cancels the run that holds a task. -/
  | cancel (task : String)

/-- What may be asked for all sessions. -/
inductive ServiceEvent where
  /-- The clock shows another time. -/
  | setClock (now : Nat)
  /-- Drops the sessions that have idled for too long. -/
  | expireSessions
  /-- Runs a cycle of retention. -/
  | sweep
  /-- Sets the timer of retention. -/
  | startTimer
  /-- Stops the timer of retention. -/
  | stopTimer
  /-- The timer of retention goes off. -/
  | tick
  /-- Changes the options of retention. -/
  | updateOptions (u : RetentionOptionsUpdate)
  /-- Cancels every run. -/
  | cancelAll

/-- What is asked for all sessions, as a move of a schedule. -/
def ServiceEvent.move : ServiceEvent → Move
  | .setClock now => .operate (.setClock now)
  | .expireSessions => .operate .expireSessions
  | .sweep => .operate .sweep
  | .startTimer => .operate .startTimer
  | .stopTimer => .operate .stopTimer
  | .tick => .operate .tick
  | .updateOptions u => .operate (.updateOptions u)
  | .cancelAll => .cancelAll

/-- What happens next in a script. -/
inductive Event where
  /-- Something is asked for the session with a raw key. -/
  | session (raw : String) (e : SessionEvent)
  /-- Something is asked for all sessions. -/
  | service (e : ServiceEvent)

namespace Event

/-- The session that an event is addressed to. -/
def key? : Event → Option SessionKey
  | .session raw _ => some (.sanitize raw)
  | .service _ => none

/-- The event is addressed to a session, or to all. -/
def concerns (A : SessionKey) (e : Event) : Bool :=
  match e.key? with
  | some key => key = A
  | none => true

end Event

/-- What is answered for a session. -/
inductive SessionReply where
  /-- There is no such session, or nothing is held under the name. -/
  | nothing
  /-- A store: whether the session was made, where the store is kept, and under which names it was
  held before. -/
  | opened (created : Bool) (settings : StoreSettings) (heldAs : String → Bool)
  /-- The session could not be opened. -/
  | failed (f : Failure)
  /-- The answer of a store. -/
  | store (r : StoreReply)
  /-- How a run is now. -/
  | run (r : Option RunState)
  /-- Yes or no. -/
  | flag (b : Bool)

/-- A schedule, and what callers hold and were told. -/
structure World where
  /-- The server and its runs. -/
  schedule : Schedule
  /-- The stores that are held for a session, by their names. -/
  stores : SessionKey → String → Option StoreId := fun _ _ => none
  /-- The runs that are held for a session, by their names. -/
  runs : SessionKey → String → Option RunId := fun _ _ => none
  /-- What was answered, and for which session. -/
  log : List (SessionKey × SessionReply) := []

namespace World

/-- Nothing was asked yet. -/
def ofServer (server : Server) : World := { schedule := .ofServer server }

/-- The server. -/
def server (w : World) : Server := w.schedule.server

/-- The world with another server. -/
def withServer (w : World) (server : Server) : World :=
  { w with schedule := { w.schedule with server } }

/-- Holds a store. -/
def holdStore (w : World) (key : SessionKey) (name : String) (id : StoreId) : World :=
  { w with stores := fun k n => if k = key ∧ n = name then some id else w.stores k n }

/-- Holds a run. -/
def holdRun (w : World) (key : SessionKey) (name : String) (n : RunId) : World :=
  { w with runs := fun k m => if k = key ∧ m = name then some n else w.runs k m }

/-- Holds a store of a session, and tells about it. -/
def found (w : World) (key : SessionKey) (name : String) (o : Opened) (server : Server) :
    SessionReply × World :=
  (.opened o.created (server.store o.store).settings fun n => w.stores key n = some o.store,
    (w.withServer server).holdStore key name o.store)

/-- What a session is asked for: the answer, and the world after it. -/
def serve (w : World) (key : SessionKey) : SessionEvent → SessionReply × World
  | .lookup name => w.found key name (w.server.lookup key).1 (w.server.lookup key).2
  | .openSession name =>
    match w.server.openSession key with
    | (.ok o, server) => w.found key name o server
    | (.error f, server) => (.failed f, w.withServer server)
  | .existing name =>
    match w.server.existing? key with
    | some o => w.found key name o w.server
    | none => (.nothing, w)
  | .remove =>
    (.flag (w.server.removeSession key).1, w.withServer (w.server.removeSession key).2)
  | .query name q =>
    match w.stores key name with
    | some id => (.store ((w.server.store id).reply q), w)
    | none => (.nothing, w)
  | .change name issued o =>
    match w.stores key name with
    | some id =>
      let server := { w.server with issued }
      (.store (server.reply id o), w.withServer (server.useStore id o))
    | none => (.nothing, w)
  | .ask name task =>
    let n := w.schedule.runs.length
    let w := { w with schedule := w.schedule.move (.ask ⟨key, task⟩) }
    (.run w.schedule.runs[n]?, w.holdRun key name n)
  | .step name a =>
    match w.runs key name with
    | some n =>
      let w := { w with schedule := w.schedule.move (.step n a) }
      (.run w.schedule.runs[n]?, w)
    | none => (.nothing, w)
  | .isCancelled name =>
    match w.runs key name with
    | some n => (.flag (w.server.ledger.isCancelled n), w)
    | none => (.nothing, w)
  | .isRunning task => (.flag (w.server.ledger.holder? ⟨key, task⟩).isSome, w)
  | .cancel task =>
    (.flag (w.server.cancelRun ⟨key, task⟩).1,
      { w with schedule := w.schedule.move (.cancel ⟨key, task⟩) })

/-- The world after an event. -/
def step (w : World) : Event → World
  | .session raw e =>
    let (r, w) := w.serve (.sanitize raw) e
    { w with log := w.log ++ [(.sanitize raw, r)] }
  | .service e => { w with schedule := w.schedule.move e.move }

/-- The world after a script. -/
def play (w : World) (script : List Event) : World := script.foldl step w

/-! ## What a session can see -/

/-- What was answered for a session, in order. -/
def answersTo (w : World) (A : SessionKey) : List SessionReply :=
  (w.log.filter fun e => e.1 = A).map Prod.snd

/-- The content of a session that is live, and for how long it has idled. -/
def view (w : World) (A : SessionKey) : Option (Store × Nat) :=
  (w.server.pool.find? A).map fun session =>
    (w.server.store session.store, w.server.now - session.lastAccess)

end World

end SessionTasks
