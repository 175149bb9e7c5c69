/-
# Operations of callers

What callers may ask of a server apart from runs, as data: a schedule of a server is a list
of such operations with the steps of runs between them.  Main statement: no operation
reaches the runs that hold their tasks (`Server.perform_ledger`).
-/
import Mathlib
import SessionTasks.Server.Retention
namespace SessionTasks

/-! ## Operations -/

/-- What the holder of a store may do with it. -/
inductive StoreOperation where
  /-- Stores a record. -/
  | put (table : String) (r : Record)
  /-- Changes one record. -/
  | modify (table id : String) (change : Record → Change)
  /-- Drops a record. -/
  | delete (table id : String)
  /-- Drops a table. -/
  | deleteTable (table : String)
  /-- Drops every table. -/
  | clear
  /-- Creates a task. -/
  | createTask (session : SessionKey) (d : TaskDraft)
  /-- Merges a change into a task. -/
  | updateTask (session : SessionKey) (id : String) (u : TaskUpdate)
  /-- Cancels a task that is not finished. -/
  | cancelTask (session : SessionKey) (id : String)
  /-- Makes a failed or cancelled task pending again. -/
  | retryTask (session : SessionKey) (id : String)
  /-- Drops a task. -/
  | deleteTask (session : SessionKey) (id : String)
  /-- Drops the finished tasks beyond the limits. -/
  | trimTasks (session : SessionKey) (limits : RetentionLimits)
  /-- Writes the file of the store. -/
  | save
  /-- Reads the file of the store. -/
  | load
  /-- Reads the file of the store if it is to be read when the store is opened. -/
  | start

/-- What may be asked of a server apart from runs. -/
inductive Operation where
  /-- Looks a session up, and makes it if it is not live. -/
  | lookup (raw : String)
  /-- Looks a session up, and loads it if it is made; nothing comes between. -/
  | openSession (raw : String)
  /-- Drops a session. -/
  | removeSession (raw : String)
  /-- Drops the sessions that have idled for too long. -/
  | expireSessions
  /-- Makes a store of its own. -/
  | addStore (settings : StoreSettings)
  /-- Does something with one store. -/
  | useStore (id : StoreId) (o : StoreOperation)
  /-- Gives out an identifier. -/
  | issue
  /-- Runs a cycle of retention. -/
  | sweep
  /-- Sets the timer of retention. -/
  | startTimer
  /-- Stops the timer of retention. -/
  | stopTimer
  /-- The timer of retention goes off. -/
  | tick
  /-- Changes the options of retention. -/
  | updateOptions (u : RetentionOptionsUpdate)
  /-- Resolves the session of a request. -/
  | resolve (r : Request)
  /-- Forgets the sessions of addresses. -/
  | clearMappings
  /-- The clock shows another time. -/
  | setClock (now : Nat)
  /-- The files are changed from outside. -/
  | changeFiles (files : FileTree)

namespace Server

/-- The server after something was done with one store. -/
def useStore (s : Server) (id : StoreId) : StoreOperation → Server
  | .put table r => (s.put id table r).2
  | .modify table name change => (s.onStore id fun store => store.modify table name change).2
  | .delete table name => (s.onStore id fun store => store.delete table name).2
  | .deleteTable table => (s.onStore id fun store => store.deleteTable table).2
  | .clear => (s.onStore id Store.clear).2
  | .createTask session d => (s.createTask id session d).2
  | .updateTask session task u =>
    (s.onStore id fun store => store.updateTask session task s.clock u).2
  | .cancelTask session task => (s.onStore id fun store => store.cancelTask session task s.clock).2
  | .retryTask session task => (s.onStore id fun store => store.retryTask session task s.clock).2
  | .deleteTask session task => (s.onStore id fun store => store.deleteTask session task).2
  | .trimTasks session limits => (s.onStore id fun store => store.trimTasks session limits).2
  | .save => (s.save id).2
  | .load => (s.load id).2
  | .start => (s.start id).2

/-- The server after an operation. -/
def perform (s : Server) : Operation → Server
  | .lookup raw => (s.lookup (.sanitize raw)).2
  | .openSession raw => (s.openSession (.sanitize raw)).2
  | .removeSession raw => (s.removeSession (.sanitize raw)).2
  | .expireSessions => s.expireSessions.2
  | .addStore settings => (s.addStore settings).2
  | .useStore id o => s.useStore id o
  | .issue => s.issue.2
  | .sweep => s.sweep.2
  | .startTimer => s.startTimer.2
  | .stopTimer => s.stopTimer.2
  | .tick => s.tick
  | .updateOptions u => (s.updateOptions u).2
  | .resolve r => { s with resolver := (s.resolver.resolve r).2 }
  | .clearMappings => { s with resolver := s.resolver.clear.2 }
  | .setClock now => { s with now }
  | .changeFiles files => { s with files }

/-! ## The runs that hold their tasks are out of reach -/

@[simp] theorem addStore_ledger (s : Server) (settings : StoreSettings) :
    (s.addStore settings).2.ledger = s.ledger := rfl

@[simp] theorem onStore_ledger {α : Type} (s : Server) (id : StoreId) (f : Store → α × Store) :
    (s.onStore id f).2.ledger = s.ledger := rfl

@[simp] theorem put_ledger (s : Server) (id : StoreId) (table : String) (r : Record) :
    (s.put id table r).2.ledger = s.ledger := by
  unfold put
  rw [onStore_ledger]
  split <;> rfl

@[simp] theorem save_ledger (s : Server) (id : StoreId) : (s.save id).2.ledger = s.ledger := by
  unfold save
  split <;> rfl

@[simp] theorem load_ledger (s : Server) (id : StoreId) : (s.load id).2.ledger = s.ledger := by
  unfold load
  split <;> rfl

@[simp] theorem start_ledger (s : Server) (id : StoreId) : (s.start id).2.ledger = s.ledger := by
  unfold start startFrom
  split <;> rfl

@[simp] theorem createTask_ledger (s : Server) (id : StoreId) (session : SessionKey)
    (d : TaskDraft) : (s.createTask id session d).2.ledger = s.ledger := rfl

@[simp] theorem lookup_ledger (s : Server) (key : SessionKey) :
    (s.lookup key).2.ledger = s.ledger := by
  unfold lookup
  dsimp only
  split <;> rfl

/-- Starting a store leaves the pool. -/
theorem startFrom_pool (s : Server) (files : FileTree) (id : StoreId) :
    (s.startFrom files id).2.pool = s.pool := by
  unfold startFrom
  split <;> rfl

/-- What the end of an opening leaves: a session that is made is started. -/
theorem finishOpening_snd (s : Server) (files : FileTree) (o : Opened) :
    (s.finishOpening files o).2 = if o.created then (s.startFrom files o.store).2 else s := by
  unfold finishOpening
  split
  · split
    · rename_i h
      rw [h]
    · rename_i h
      rw [h]
  · rfl

/-- What opening a session leaves. -/
theorem openSession_snd (s : Server) (key : SessionKey) :
    (s.openSession key).2 =
      if (s.lookup key).1.created then ((s.lookup key).2.start (s.lookup key).1.store).2
      else (s.lookup key).2 :=
  finishOpening_snd (s.lookup key).2 (s.lookup key).2.files (s.lookup key).1

@[simp] theorem openSession_ledger (s : Server) (key : SessionKey) :
    (s.openSession key).2.ledger = s.ledger := by
  rw [openSession_snd]
  split
  · rw [start_ledger, lookup_ledger]
  · exact lookup_ledger s key

/-- A write on behalf of a run changes what runs hold in no way. -/
@[simp] theorem writeUpdate_ledger (s : Server) (key : TaskKey) (u : TaskUpdate) :
    (s.writeUpdate key u).2.ledger = s.ledger := by
  show (s.lookup key.session).2.ledger = s.ledger
  exact lookup_ledger s key.session

@[simp] theorem trimSessions_ledger (limits : RetentionLimits) (keys : List SessionKey)
    (s : Server) : (s.trimSessions limits keys).2.ledger = s.ledger := by
  induction keys generalizing s with
  | nil => rfl
  | cons key rest ih =>
    unfold trimSessions
    cases s.existing? key with
    | none => exact ih s
    | some opened =>
      dsimp only
      split <;> rw [ih, onStore_ledger]

@[simp] theorem sweep_ledger (s : Server) : s.sweep.2.ledger = s.ledger := by
  unfold sweep
  dsimp only
  rw [trimSessions_ledger]
  rfl

@[simp] theorem tick_ledger (s : Server) : s.tick.ledger = s.ledger := by
  unfold tick
  split
  · rfl
  · rw [sweep_ledger]
    rfl

theorem useStore_ledger (s : Server) (id : StoreId) (o : StoreOperation) :
    (s.useStore id o).ledger = s.ledger := by
  cases o <;> simp [useStore]

/-- **No operation of a caller reaches the runs that hold their tasks.** -/
theorem perform_ledger (s : Server) (o : Operation) : (s.perform o).ledger = s.ledger := by
  cases o with
  | useStore id o => exact useStore_ledger s id o
  | startTimer =>
    show s.startTimer.2.ledger = s.ledger
    unfold startTimer
    split <;> rfl
  | removeSession raw => rfl
  | expireSessions => rfl
  | stopTimer => rfl
  | updateOptions u => rfl
  | _ => simp [perform, issue]

end Server

end SessionTasks
