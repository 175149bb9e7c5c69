/-
# What loads a store, and what makes a session

Opening a session loads its store when the session is made just then; a session that is live
is handed out as it is.  A session comes to be when it is looked up, and stays with its store.

* `Server.Loads` : the operations that complete a load of a store;
* `Server.finishOpening_ok_iff`, `Server.openSession_ok_iff` : how a session opens;
* `Schedule.session_of_move` : what a move does to a session.
-/
import SessionTasks.Proofs.Schedule
import SessionTasks.Proofs.Sessions
namespace SessionTasks

/-! ## Loads -/

namespace Server

/-- The operation completes a load of a store. -/
inductive Loads (s : Server) : Operation → StoreId → Prop
  /-- The store is loaded. -/
  | load {id : StoreId} {store : Store} (hid : id < s.stores.length)
      (hload : (s.store id).load s.files = .ok store) : Loads s (.useStore id .load) id
  /-- The store is started, and that loads it. -/
  | start {id : StoreId} {store : Store} (hid : id < s.stores.length)
      (hstart : (s.store id).start s.files = .ok (true, store)) : Loads s (.useStore id .start) id
  /-- A session is made and opened, and that loads its store. -/
  | opened {raw : String} {store : Store} (hcreated : (s.lookup (.sanitize raw)).1.created = true)
      (hstart : ((s.lookup (.sanitize raw)).2.store (s.lookup (.sanitize raw)).1.store).start
        s.files = .ok (true, store)) :
      Loads s (.openSession raw) (s.lookup (.sanitize raw)).1.store

end Server

/-- A store that is to be loaded when it is opened is loaded when it is started. -/
theorem Store.loaded_of_start {s : Store} (h : s.settings.loadOnStartup = true)
    {files : FileTree} {loaded : Bool} {store : Store}
    (hstart : s.start files = .ok (loaded, store)) : loaded = true := by
  unfold start at hstart
  rw [if_pos h] at hstart
  cases hload : s.load files with
  | error f =>
    rw [hload] at hstart
    cases hstart
  | ok loadedStore =>
    rw [hload] at hstart
    cases hstart
    rfl

/-! ## Opening -/

namespace Server

theorem lookup_files (s : Server) (key : SessionKey) : (s.lookup key).2.files = s.files := by
  unfold lookup
  dsimp only
  split <;> rfl

/-- The store of a session that is made is the next one. -/
theorem store_of_created {s : Server} {key : SessionKey} (h : (s.lookup key).1.created = true) :
    (s.lookup key).1.store = s.stores.length := by
  rw [lookup_fst] at h ⊢
  rcases s.pool.store_lookup s.now s.stores.length key with ⟨hfalse, -⟩ | hmade
  · rw [hfalse] at h
    cases h
  · rw [hmade]

/-- A session that is made is loaded when it is opened, if the pool says so. -/
theorem loadOnStartup_of_created {s : Server} {key : SessionKey}
    (h : (s.lookup key).1.created = true) :
    ((s.lookup key).2.store (s.lookup key).1.store).settings.loadOnStartup
      = s.pool.settings.loadOnStartup := by
  have hstores := s.lookup_stores key
  rw [if_pos h] at hstores
  unfold store
  rw [store_of_created h, hstores, List.getElem?_concat_length]
  rfl

/-- **How an opening ends.**  A session that was made is handed out once its store is started, and
only then. -/
theorem finishOpening_ok_iff {s : Server} {files : FileTree} {opened o : Opened} :
    (s.finishOpening files opened).1 = .ok o ↔
      o = opened ∧ (opened.created = true →
        ∃ loaded store, (s.store opened.store).start files = .ok (loaded, store)) := by
  unfold finishOpening startFrom
  cases hcreated : opened.created with
  | false =>
    rw [if_neg Bool.false_ne_true, Except.ok.injEq]
    exact ⟨fun h => ⟨h.symm, nofun⟩, fun h => h.1.symm⟩
  | true =>
    rw [if_pos rfl]
    rcases hstart : (s.store opened.store).start files with f | ⟨loaded, store⟩
    · constructor
      · intro h
        cases h
      · rintro ⟨-, hok⟩
        obtain ⟨loaded, store, hstart'⟩ := hok rfl
        cases hstart'
    · constructor
      · intro h
        cases h
        exact ⟨rfl, fun _ => ⟨loaded, store, rfl⟩⟩
      · rintro ⟨rfl, -⟩
        rfl

/-- **How a session opens.**  A live session is handed out; one that is made is handed out once
its store is started, and only then. -/
theorem openSession_ok_iff {s : Server} {key : SessionKey} {o : Opened} :
    (s.openSession key).1 = .ok o ↔
      o = (s.lookup key).1 ∧ ((s.lookup key).1.created = true → ∃ loaded store,
        ((s.lookup key).2.store (s.lookup key).1.store).start s.files = .ok (loaded, store)) := by
  rw [← s.lookup_files key]
  exact finishOpening_ok_iff

/-- A session that is made and handed out has been loaded, if the pool says so. -/
theorem loads_of_created {s : Server} {raw : String} {o : Opened}
    (hload : s.pool.settings.loadOnStartup = true)
    (ho : (s.openSession (.sanitize raw)).1 = .ok o) (hcreated : o.created = true) :
    s.Loads (.openSession raw) o.store := by
  obtain ⟨rfl, hstart⟩ := openSession_ok_iff.1 ho
  obtain ⟨loaded, store, hstart⟩ := hstart hcreated
  have hflag := loadOnStartup_of_created hcreated
  rw [hload] at hflag
  have hloaded := Store.loaded_of_start hflag hstart
  rw [hloaded] at hstart
  exact .opened hcreated hstart

/-- A session that a lookup finds has the store that it had. -/
theorem live_of_lookup {s : Server} {key : SessionKey} (h : (s.lookup key).1.created = false) :
    ∃ session, s.pool.find? key = some session ∧ session.store = (s.lookup key).1.store := by
  rw [lookup_fst] at h ⊢
  rcases s.pool.store_lookup s.now s.stores.length key with ⟨-, hlive⟩ | hmade
  · exact hlive
  · rw [hmade] at h
    cases h

end Server

/-! ## Where a store comes from -/

/-- The move may look sessions up, and opens none: a caller looks one up, or a run or a
cancellation writes to its task. -/
def Move.isPlainLookup : Move → Bool
  | .operate (.lookup _) | .cancel _ | .cancelAll | .step _ _ => true
  | .operate _ | .ask _ => false

namespace Schedule

/-- The move makes the store. -/
def Makes (s : Schedule) (m : Move) (id : StoreId) : Prop :=
  s.server.stores.length ≤ id ∧ id < (s.move m).server.stores.length

end Schedule

/-! ## Every move extends the server -/

/-- A step of a run extends the server. -/
theorem RunState.extends_step (r : RunState) (n : RunId) (s : Server) (a : RunStep) :
    s.Extends (r.step n s a).1 := by
  have htakes := r.takes_step n s a
  generalize r.step n s a = after at htakes ⊢
  cases htakes with
  | accepted hstage haccept => exact (Server.keeps_accept? haccept).extends
  | begun hstage hbegin =>
    have hextends := s.extends_begin r.key n
    rw [hbegin] at hextends
    exact hextends
  | unbegun outcome hstage hbegin =>
    have hextends := s.extends_begin r.key n
    rw [hbegin] at hextends
    exact hextends
  | reported progress step description htask =>
    exact s.extends_report r.key n progress step description
  | finished hstage => exact s.extends_finish r.key n _
  | givenUp hstage => exact (s.keeps_giveUp r.key n).extends
  | _ => exact Server.Extends.refl s

namespace Schedule

/-- A move gives no session another store, unless it makes that store. -/
theorem extends_move (s : Schedule) (m : Move) : s.server.Extends (s.move m).server := by
  cases m with
  | operate o => exact s.server.extends_perform o
  | ask key => exact Server.Extends.refl s.server
  | cancel key => exact s.server.extends_cancelRun key
  | cancelAll => exact Server.extends_cancelRuns _ s.server
  | step n a =>
    cases hr : s.runs[n]? with
    | none =>
      have hmove : s.move (.step n a) = s := by simp only [move, hr]
      rw [hmove]
      exact Server.Extends.refl s.server
    | some r =>
      rw [move_step hr]
      exact r.extends_step n s.server a

theorem extends_play (s : Schedule) (moves : List Move) :
    s.server.Extends (s.play moves).server := by
  induction moves generalizing s with
  | nil => exact Server.Extends.refl s.server
  | cons m rest ih => exact (s.extends_move m).trans (ih (s.move m))

/-! ## Every store of a session -/

/-- **What a move does to a session.**  The session has the store that it had, or the move made
its store, and then the move is a lookup or opens a session. -/
theorem session_of_move {s : Schedule} {m : Move} {key : SessionKey} {session : Session}
    (h : (s.move m).server.pool.find? key = some session) :
    (∃ before, s.server.pool.find? key = some before ∧ before.store = session.store) ∨
      s.Makes m session.store ∧
        (m.isPlainLookup = true ∨ ∃ raw, m = .operate (.openSession raw)) := by
  rcases (s.extends_move m).sessions key session h with hbefore | hmade
  · exact Or.inl hbefore
  · cases m with
    | operate o =>
      cases hlook : o.looksUp with
      | false => exact Or.inl ((s.server.keeps_perform hlook).sessions key session h)
      | true =>
        cases o with
        | lookup raw => exact Or.inr ⟨hmade, Or.inl rfl⟩
        | openSession raw => exact Or.inr ⟨hmade, Or.inr ⟨raw, rfl⟩⟩
        | _ => cases hlook
    | ask key => exact Or.inl ⟨session, h, rfl⟩
    | _ => exact Or.inr ⟨hmade, Or.inl rfl⟩

end Schedule

end SessionTasks
