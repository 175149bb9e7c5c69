/-
# What becomes of stores

However a schedule goes on, a store is made once and then changes by calls only.  Most moves
make routine calls: they change a task as its owner or a run of it may, or drop rows.

* `Schedule.Calls` : the calls that a move may make of stores;
* `Schedule.becomes_move` : a move does nothing to a store but make it or make such calls;
* `Schedule.filed_play` : in every schedule the rows of a store lie under their own identifiers.
-/
import SessionTasks.Proofs.Schedule.Overwriting
import SessionTasks.Proofs.Task.WellFormed
namespace SessionTasks

/-! ## Routine calls -/

/-- The call changes a task or drops rows. -/
inductive StoreCall.Routine (now : Int64) : StoreCall → Prop
  /-- A task is changed. -/
  | edit (session : SessionKey) (id : String) {f : Task → Task} (hf : TaskEdit now f) :
      Routine now (.modify Task.table id (Store.taskChange session id f))
  /-- A record is dropped. -/
  | delete (table id : String) : Routine now (.delete table id)
  /-- A table is dropped. -/
  | deleteTable (table : String) : Routine now (.deleteTable table)
  /-- Every table is dropped. -/
  | clear : Routine now .clear

/-! ## The life of a store -/

namespace Store

/-- The store is made, or an admitted call is made of it. -/
inductive Step (admits : StoreCall → Prop) : Store → Store → Prop
  /-- The store is made. -/
  | made (settings : StoreSettings) : Step admits {} { settings }
  /-- The store is called. -/
  | called (s : Store) {c : StoreCall} (hc : admits c) : Step admits s (s.call c)

/-- The store has become the other one by such steps. -/
def Becomes (admits : StoreCall → Prop) : Store → Store → Prop :=
  Relation.ReflTransGen (Step admits)

variable {admits admits' : StoreCall → Prop} {s s' s'' : Store} {now : Int64}

theorem Becomes.refl (s : Store) : s.Becomes admits s := Relation.ReflTransGen.refl

theorem Becomes.trans (h : s.Becomes admits s') (h' : s'.Becomes admits s'') :
    s.Becomes admits s'' :=
  Relation.ReflTransGen.trans h h'

/-- A fresh store is made from the empty one in one step. -/
theorem becomes_made (settings : StoreSettings) : Becomes admits {} { settings } :=
  .single (.made settings)

/-- A store that is called with an admitted call becomes what the call leaves of it. -/
theorem becomes_call (s : Store) {c : StoreCall} (hc : admits c) : s.Becomes admits (s.call c) :=
  .single (.called s hc)

/-- What is admitted may be more. -/
theorem Becomes.mono (h : s.Becomes admits s') (hadmits : ∀ c, admits c → admits' c) :
    s.Becomes admits' s' := by
  refine Relation.ReflTransGen.mono (p := Step admits') (fun a b hstep => ?_) _ _ h
  cases hstep with
  | made settings => exact .made settings
  | called a hc => exact .called a (hadmits _ hc)

/-- What fresh stores have and every admitted call keeps is kept. -/
theorem Becomes.induct {P : Store → Prop} (h : s.Becomes admits s') (hs : P s)
    (hmade : ∀ settings, P { settings }) (hcall : ∀ t c, P t → admits c → P (t.call c)) :
    P s' := by
  induction h with
  | refl => exact hs
  | tail _ hstep ih =>
    cases hstep with
    | made settings => exact hmade settings
    | called t hc => exact hcall _ _ ih hc

/-! ## What requests about tasks do to a store -/

/-- Changing a task is at most one routine call. -/
theorem becomes_modifyTask (s : Store) (session : SessionKey) (id : String) {f : Task → Task}
    (hf : TaskEdit now f) : s.Becomes (StoreCall.Routine now) (s.modifyTask session id f).2 := by
  rw [modifyTask_snd]
  exact s.becomes_call (c := .modify Task.table id (taskChange session id f))
    (.edit session id hf)

theorem becomes_delete (s : Store) (table id : String) :
    s.Becomes (StoreCall.Routine now) (s.delete table id).2 :=
  s.becomes_call (c := .delete table id) (.delete table id)

/-- Dropping a task is at most one routine call. -/
theorem becomes_deleteTask (s : Store) (session : SessionKey) (id : String) :
    s.Becomes (StoreCall.Routine now) (s.deleteTask session id).2 := by
  unfold deleteTask
  split
  · exact .refl s
  · have hdelete : s.Becomes (StoreCall.Routine now) (s.delete Task.table id).2 :=
      s.becomes_delete _ _
    split <;> rename_i h <;> rw [h] at hdelete <;> exact hdelete

/-- Dropping some tasks is a routine call for each of them. -/
theorem becomes_deleteTasks (tasks : List Task) (s : Store) :
    s.Becomes (StoreCall.Routine now) (s.deleteTasks tasks).2 := by
  induction tasks generalizing s with
  | nil => exact .refl s
  | cons t rest ih =>
    have hdelete : s.Becomes (StoreCall.Routine now) (s.delete Task.table t.id).2 :=
      s.becomes_delete _ _
    unfold deleteTasks
    split
    · rename_i h
      rw [h] at hdelete
      exact hdelete
    · rename_i s' h
      rw [h] at hdelete
      have hrest := hdelete.trans (ih s')
      split <;> rename_i h' <;> rw [h'] at hrest <;> exact hrest

/-- Trimming the finished tasks is made of routine calls. -/
theorem becomes_trimTasks (s : Store) (session : SessionKey) (limits : RetentionLimits) :
    s.Becomes (StoreCall.Routine now) (s.trimTasks session limits).2 := by
  unfold trimTasks
  split
  · exact .refl s
  · exact becomes_deleteTasks _ s

/-- A load that reads no file drops every table. -/
theorem becomes_load {files : FileTree} (h : s.load files = .ok s') (hclear : admits .clear)
    (hread : ∀ path text, s'.settings.path = some path → files.readText path = .ok text →
      admits (.load files)) : s.Becomes admits s' := by
  obtain ⟨hp, tables, rfl, rfl | ⟨path, text, hpath, htext, -⟩⟩ := load_eq_ok h
  · have hcall : s.call .clear = { s with tables := .empty } := by
      unfold call clear
      rw [access_eq_ok_iff.2 ⟨hp, rfl⟩]
    rw [← hcall]
    exact s.becomes_call hclear
  · have hcall : s.call (.load files) = { s with tables } := by
      unfold call
      dsimp only
      rw [h]
    rw [← hcall]
    exact s.becomes_call (hread path text hpath htext)

/-- A store that is started is loaded, or stays as it is. -/
theorem becomes_start {files : FileTree} {loaded : Bool} (h : s.start files = .ok (loaded, s'))
    (hclear : admits .clear)
    (hread : loaded = true → ∀ path text, s'.settings.path = some path →
      files.readText path = .ok text → admits (.load files)) : s.Becomes admits s' := by
  unfold start at h
  split at h
  · cases hload : s.load files with
    | error f =>
      rw [hload] at h
      cases h
    | ok after =>
      rw [hload] at h
      cases h
      exact becomes_load hload hclear (hread rfl)
  · cases h
    exact .refl s

end Store

/-! ## What operations do to stores -/

namespace Server

/-- Each store has become what it is now by admitted steps. -/
def Becomes (admits : StoreCall → Prop) (s s' : Server) : Prop :=
  ∀ id, (s.store id).Becomes admits (s'.store id)

variable {admits admits' : StoreCall → Prop} {s s' s'' : Server} {now : Int64}

theorem Becomes.trans (h : s.Becomes admits s') (h' : s'.Becomes admits s'') :
    s.Becomes admits s'' :=
  fun id => (h id).trans (h' id)

/-- What has become by some calls has become by any wider choice of calls. -/
theorem Becomes.mono (h : s.Becomes admits s') (hadmits : ∀ c, admits c → admits' c) :
    s.Becomes admits' s' :=
  fun id => (h id).mono hadmits

/-- Nothing has become of the stores when they are the same. -/
theorem Becomes.of_stores (h : s'.stores = s.stores) : s.Becomes admits s' := by
  intro id
  rw [store_of_stores h]
  exact .refl _

theorem Becomes.refl (s : Server) : s.Becomes admits s := .of_stores rfl

/-- Only the store that is set has to have become what it is set to. -/
theorem becomes_setStore {id : StoreId} {store : Store}
    (h : id < s.stores.length → (s.store id).Becomes admits store) :
    s.Becomes admits (s.setStore id store) := by
  intro other
  rw [store_setStore]
  split
  · rename_i hother
    obtain ⟨rfl, hid⟩ := hother
    exact h hid
  · exact .refl _

/-- A store is added as a fresh one, and the others stay. -/
theorem becomes_addStore (s : Server) (settings : StoreSettings) :
    s.Becomes admits (s.addStore settings).2 := by
  intro id
  rw [store_addStore]
  split
  · rename_i hid
    -- the store with the next number was not there
    have hnone : s.store id = {} := by
      unfold store
      rw [List.getElem?_eq_none hid.ge]
      rfl
    rw [hnone]
    exact Store.becomes_made settings
  · exact .refl _

/-- A lookup makes at most one store, and calls none. -/
theorem becomes_lookup (s : Server) (key : SessionKey) : s.Becomes admits (s.lookup key).2 := by
  have hpool (pool : SessionPool) : s.Becomes admits { s with pool } := .of_stores rfl
  unfold lookup
  dsimp only
  split
  · exact (hpool _).trans (becomes_addStore _ _)
  · exact hpool _

/-- A write for a task makes one routine call. -/
theorem becomes_writeUpdate (s : Server) (key : TaskKey) (u : TaskUpdate) :
    s.Becomes (StoreCall.Routine s.clock) (s.writeUpdate key u).2 := by
  refine (s.becomes_lookup key.session).trans ?_
  rw [writeUpdate_snd, lookup_clock]
  exact becomes_setStore fun _ => Store.becomes_modifyTask _ _ _ (.update u)

/-- Trimming the sessions is made of routine calls of their stores. -/
theorem becomes_trimSessions (limits : RetentionLimits) (keys : List SessionKey) (s : Server) :
    s.Becomes (StoreCall.Routine now) (s.trimSessions limits keys).2 := by
  induction keys generalizing s with
  | nil => exact .refl s
  | cons key rest ih =>
    unfold trimSessions
    cases s.existing? key with
    | none => exact ih s
    | some opened =>
      have htrim : s.Becomes (StoreCall.Routine now)
          (s.onStore opened.store fun store => store.trimTasks key limits).2 :=
        becomes_setStore fun _ => Store.becomes_trimTasks _ key limits
      dsimp only
      split
      all_goals exact htrim.trans (ih _)

/-- A sweep is made of routine calls. -/
theorem becomes_sweep (s : Server) : s.Becomes (StoreCall.Routine now) s.sweep.2 := by
  have htrim : s.expireSessions.2.Becomes (StoreCall.Routine now)
      (s.expireSessions.2.trimSessions s.expireSessions.2.sweeper.options.limits
        s.expireSessions.2.pool.keys).2 := becomes_trimSessions _ _ _
  exact htrim

/-- A tick of the sweeper is made of routine calls. -/
theorem becomes_tick (s : Server) : s.Becomes (StoreCall.Routine now) s.tick := by
  unfold tick
  split
  · exact .refl s
  · rename_i timer _
    exact becomes_sweep (s.withTimer (some { timer with due := timer.due + timer.period }))

/-- The operation completes a load of a store, and there is a file to be read. -/
def ReadsFile (s : Server) (o : Operation) : Prop :=
  ∃ id path text, s.Loads o id ∧ ((s.perform o).store id).settings.path = some path ∧
    s.files.readText path = .ok text

/-- The calls that an operation may make of stores. -/
inductive Calls (s : Server) : Operation → StoreCall → Prop
  /-- A routine call. -/
  | routine (o : Operation) {c : StoreCall} (hc : c.Routine s.clock) : Calls s o c
  /-- A record is stored. -/
  | put (id : StoreId) (table : String) (r : Record) :
      Calls s (.useStore id (.put table r)) (.put s.clock (s.issued + 1) table r)
  /-- A record is changed. -/
  | modify (id : StoreId) (table name : String) (change : Record → Change) :
      Calls s (.useStore id (.modify table name change)) (.modify table name change)
  /-- A new task is stored. -/
  | create (id : StoreId) (session : SessionKey) (d : TaskDraft) :
      Calls s (.useStore id (.createTask session d))
        (.put s.clock (s.issued + 1) Task.table
          (d.start (identifier (s.issued + 1)) session s.clock).toRecord)
  /-- A file is read. -/
  | read {o : Operation} (ho : s.ReadsFile o) : Calls s o (.load s.files)

variable {id : StoreId}

/-- A store that there is can be read back after it is set. -/
theorem store_setStore_self (hid : id < s.stores.length) (store : Store) :
    (s.setStore id store).store id = store := by
  rw [store_setStore, if_pos ⟨rfl, hid⟩]

/-- A store that is loaded is cleared, or takes what its file tells. -/
theorem becomes_load (s : Server) (id : StoreId) :
    s.Becomes (s.Calls (.useStore id .load)) (s.load id).2 := by
  cases hload : (s.store id).load s.files with
  | error f =>
    refine .of_stores ?_
    unfold load
    rw [hload]
  | ok store =>
    have hafter : (s.load id).2 = s.setStore id store := by
      unfold load
      rw [hload]
    rw [hafter]
    refine becomes_setStore fun hid => Store.becomes_load hload (.routine _ .clear) ?_
    intro path text hpath htext
    refine .read ⟨id, path, text, .load hid hload, ?_, htext⟩
    show ((s.load id).2.store id).settings.path = some path
    rw [hafter, store_setStore_self hid]
    exact hpath

/-- A store that is started is cleared, and then loads its file if there is one to be read. -/
theorem becomes_start (s : Server) (id : StoreId) (hclear : admits .clear)
    (hread : id < s.stores.length → ∀ store, (s.store id).start s.files = .ok (true, store) →
      ∀ path text, ((s.start id).2.store id).settings.path = some path →
        s.files.readText path = .ok text → admits (.load s.files)) :
    s.Becomes admits (s.start id).2 := by
  cases hstart : (s.store id).start s.files with
  | error f =>
    refine .of_stores ?_
    unfold start startFrom
    rw [hstart]
  | ok result =>
    obtain ⟨loaded, store⟩ := result
    have hafter : (s.start id).2 = s.setStore id store := by
      unfold start startFrom
      rw [hstart]
    rw [hafter] at hread ⊢
    refine becomes_setStore fun hid => Store.becomes_start hstart hclear ?_
    rintro rfl path text hpath htext
    refine hread hid store hstart path text ?_ htext
    rw [store_setStore_self hid]
    exact hpath

/-- A session that is made is started with the files that there are. -/
theorem becomes_openSession (s : Server) (raw : String) :
    s.Becomes (s.Calls (.openSession raw)) (s.openSession (.sanitize raw)).2 := by
  have hafter := s.openSession_snd (.sanitize raw)
  rw [hafter]
  split
  · rename_i hcreated
    rw [if_pos hcreated] at hafter
    have hfiles := s.lookup_files (.sanitize raw)
    refine (s.becomes_lookup (.sanitize raw)).trans (becomes_start _ _ (.routine _ .clear) ?_)
    intro hid store hstart path text hpath htext
    rw [hfiles] at hstart htext ⊢
    refine .read ⟨_, path, text, .opened hcreated hstart, ?_, htext⟩
    show ((s.openSession (.sanitize raw)).2.store _).settings.path = some path
    rw [hafter]
    exact hpath
  · exact s.becomes_lookup (.sanitize raw)

/-- An operation on one store makes only the calls it may make of that store. -/
theorem becomes_useStore (s : Server) (id : StoreId) (o : StoreOperation) :
    s.Becomes (s.Calls (.useStore id o)) (s.useStore id o) := by
  have hroutine {s' : Server} (h : s.Becomes (StoreCall.Routine s.clock) s') :
      s.Becomes (s.Calls (.useStore id o)) s' :=
    h.mono fun _ hc => .routine _ hc
  cases o with
  | put table r =>
    show s.Becomes _ (s.put id table r).2
    unfold put
    dsimp only
    -- the identifier may be given out first, and that leaves the stores alone
    have hissue : s.Becomes (s.Calls (.useStore id (.put table r)))
        (if r.id.isEmpty && !(s.store id).poisoned then s.issue.2 else s) := by
      split
      · exact .of_stores rfl
      · exact .refl s
    exact hissue.trans (becomes_setStore fun _ =>
      Store.becomes_call _ (c := .put s.clock (s.issued + 1) table r) (.put id table r))
  | modify table name change =>
    exact becomes_setStore fun _ =>
      Store.becomes_call _ (c := .modify table name change) (.modify id table name change)
  | delete table name => exact hroutine (becomes_setStore fun _ => Store.becomes_delete _ _ _)
  | deleteTable table =>
    exact hroutine (becomes_setStore fun _ =>
      Store.becomes_call _ (c := .deleteTable table) (.deleteTable table))
  | clear =>
    exact hroutine (becomes_setStore fun _ => Store.becomes_call _ (c := .clear) .clear)
  | createTask session d =>
    show s.Becomes _ (s.issue.2.onStore id _).2
    have hissue : s.Becomes (s.Calls (.useStore id (.createTask session d))) s.issue.2 :=
      .of_stores rfl
    refine hissue.trans (becomes_setStore fun _ => ?_)
    show Store.Becomes _ _ (Store.createTask _ session _ s.clock d).2
    rw [Store.createTask_snd]
    exact Store.becomes_call _
      (c := .put s.clock (s.issued + 1) Task.table
        (d.start (identifier (s.issued + 1)) session s.clock).toRecord)
      (.create id session d)
  | updateTask session task u =>
    exact hroutine (becomes_setStore fun _ => Store.becomes_modifyTask _ _ _ (.update u))
  | cancelTask session task =>
    exact hroutine (becomes_setStore fun _ => Store.becomes_modifyTask _ _ _ .cancel)
  | retryTask session task =>
    exact hroutine (becomes_setStore fun _ => Store.becomes_modifyTask _ _ _ .retry)
  | deleteTask session task =>
    exact hroutine (becomes_setStore fun _ => Store.becomes_deleteTask _ _ _)
  | trimTasks session limits =>
    exact hroutine (becomes_setStore fun _ => Store.becomes_trimTasks _ _ _)
  | save =>
    refine .of_stores ?_
    show (s.save id).2.stores = s.stores
    unfold save
    split <;> rfl
  | load => exact s.becomes_load id
  | start =>
    refine s.becomes_start id (.routine _ .clear) fun hid store hstart path text hpath htext => ?_
    exact .read ⟨id, path, text, .start hid hstart, hpath, htext⟩

/-- **Step lemma.** An operation makes stores and the calls it may make of them, and does nothing
else to them. -/
theorem becomes_perform (s : Server) (o : Operation) : s.Becomes (s.Calls o) (s.perform o) := by
  have hroutine {s' : Server} (h : s.Becomes (StoreCall.Routine s.clock) s') :
      s.Becomes (s.Calls o) s' :=
    h.mono fun _ hc => .routine _ hc
  cases o with
  | lookup raw => exact s.becomes_lookup _
  | openSession raw => exact s.becomes_openSession raw
  | addStore settings => exact s.becomes_addStore settings
  | useStore id p => exact s.becomes_useStore id p
  | sweep => exact hroutine s.becomes_sweep
  | startTimer =>
    refine .of_stores ?_
    show s.startTimer.2.stores = s.stores
    unfold startTimer
    split <;> rfl
  | tick => exact hroutine s.becomes_tick
  | _ => exact .of_stores rfl

/-! ## What runs do to stores -/

theorem becomes_begin (s : Server) (key : TaskKey) (n : RunId) :
    s.Becomes (StoreCall.Routine s.clock) (s.begin key n).2 := by
  unfold begin
  split
  · exact .refl s
  · exact s.becomes_writeUpdate key startUpdate

theorem becomes_report (s : Server) (key : TaskKey) (n : RunId) (progress : Binary64)
    (step description : Option String) :
    s.Becomes (StoreCall.Routine s.clock) (s.report key n progress step description) := by
  unfold report
  split
  · exact .refl s
  · exact s.becomes_writeUpdate key _

theorem becomes_finish (s : Server) (key : TaskKey) (n : RunId) (outcome : Except Failure Unit) :
    s.Becomes (StoreCall.Routine s.clock) (s.finish key n outcome) := by
  have hrelease : s.Becomes (StoreCall.Routine s.clock) (s.giveUp key n) := .of_stores rfl
  unfold finish
  dsimp only
  split
  · exact hrelease
  · exact hrelease.trans ((s.giveUp key n).becomes_writeUpdate key _)

theorem becomes_cancelRun (s : Server) (key : TaskKey) :
    s.Becomes (StoreCall.Routine s.clock) (s.cancelRun key).2 := by
  unfold cancelRun
  split
  · exact .refl s
  · rename_i n _
    have hmark : s.Becomes (StoreCall.Routine s.clock) (s.markCancelled key n) := .of_stores rfl
    exact hmark.trans ((s.markCancelled key n).becomes_writeUpdate key _)

theorem becomes_cancelRuns (keys : List TaskKey) (s : Server) :
    s.Becomes (StoreCall.Routine s.clock) (s.cancelRuns keys).2 := by
  induction keys generalizing s with
  | nil => exact .refl s
  | cons key rest ih =>
    have hrest := ih (s.cancelRun key).2
    rw [clock_cancelRun] at hrest
    exact (s.becomes_cancelRun key).trans hrest

end Server

/-- A step of a run is made of routine calls. -/
theorem RunState.becomes_step (r : RunState) (n : RunId) (s : Server) (a : RunStep) :
    s.Becomes (StoreCall.Routine s.clock) (r.step n s a).1 := by
  have htakes := r.takes_step n s a
  generalize r.step n s a = after at htakes ⊢
  cases htakes with
  | accepted hstage haccept =>
    unfold Server.accept? at haccept
    split at haccept
    · cases haccept
    · cases haccept
      exact .of_stores rfl
  | begun hstage hbegin =>
    have hafter := s.becomes_begin r.key n
    rw [hbegin] at hafter
    exact hafter
  | unbegun outcome hstage hbegin =>
    have hafter := s.becomes_begin r.key n
    rw [hbegin] at hafter
    exact hafter
  | reported progress step description htask =>
    exact s.becomes_report r.key n progress step description
  | finished hstage => exact s.becomes_finish r.key n _
  | givenUp hstage => exact .of_stores rfl
  | _ => exact .refl s

/-! ## What a schedule does to stores -/

/-- A fresh server has no stores. -/
theorem Server.store_of_ofConfig {c : Config} {epoch issued : Nat} {files : FileTree} {s : Server}
    (h : ofConfig c epoch files issued = .ok s) (id : StoreId) : s.store id = {} := by
  unfold ofConfig at h
  split at h
  · cases h
  · split at h
    · cases h
    · cases h
      rfl

namespace Schedule

/-- The calls that a move may make of stores. -/
def Calls (s : Schedule) : Move → StoreCall → Prop
  | .operate o => s.server.Calls o
  | _ => StoreCall.Routine s.server.clock

/-- **Step lemma.**  A move makes stores and makes its calls of them, and does nothing else to
them. -/
theorem becomes_move (s : Schedule) (m : Move) :
    s.server.Becomes (s.Calls m) (s.move m).server := by
  cases m with
  | operate o => exact s.server.becomes_perform o
  | ask key => exact .refl _
  | cancel key => exact s.server.becomes_cancelRun key
  | cancelAll => exact Server.becomes_cancelRuns _ _
  | step n a =>
    cases hr : s.runs[n]? with
    | none =>
      have hmove : s.move (.step n a) = s := by simp only [move, hr]
      rw [hmove]
      exact .refl _
    | some r =>
      rw [move_step hr]
      exact r.becomes_step n s.server a

/-- In every store the rows lie under their own identifiers. -/
theorem filed_play {s : Schedule} (h : ∀ id, (s.server.store id).Filed) (moves : List Move) :
    ∀ id, ((s.play moves).server.store id).Filed := by
  induction moves generalizing s with
  | nil => exact h
  | cons m rest ih =>
    refine ih fun id => (s.becomes_move m id).induct (h id) ?_ fun t c ht _ => ht.call c
    intro settings table name r hr
    cases hr

end Schedule

end SessionTasks
