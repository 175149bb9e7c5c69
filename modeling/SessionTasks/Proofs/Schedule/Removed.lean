/-
# Removed tasks

Whatever changes a task needs its row to be there: the owner of a task and its runs only change
the row or drop it.  A row comes into a store when a task is created, when a record is stored
directly, or from a file.

* `Store.brought_in_of_call` : the calls that bring a row in;
* `Schedule.lacks_play` : a task that is missing from its session stays missing, whatever its
  owner and its runs still do.
-/
import SessionTasks.Proofs.Schedule.Stores
namespace SessionTasks

/-! ## What brings a row in -/

/-- **A row comes in** when it is stored, under its identifier or a fresh one, or from a file. -/
theorem Store.brought_in_of_call {s : Store} {c : StoreCall} {table id : String} {r : Record}
    (h : s.tables.find? table id = none) (hr : (s.call c).tables.find? table id = some r) :
    (∃ now issued new, c = .put now issued table new ∧
      (if new.id.isEmpty then identifier issued else new.id) = id) ∨ ∃ files, c = .load files := by
  rcases find?_call hr with hbefore | hmakes
  · rw [h] at hbefore
    cases hbefore
  · cases hmakes with
    | put now issued table new => exact Or.inl ⟨now, issued, new, rfl, (stamped_id _ _ _ _).symm⟩
    | modify hold hnew =>
      rw [h] at hold
      cases hold
    | load htables hrow => exact Or.inr ⟨_, rfl⟩

/-! ## What brings a task in -/

/-- The session is not live, or the table of tasks in its store has no row for the task. -/
def Server.Lacks (s : Server) (session : SessionKey) (task : String) : Prop :=
  ∀ live ∈ s.pool.find? session, (s.store live.store).tables.find? Task.table task = none

instance (s : Server) (session : SessionKey) (task : String) : Decidable (s.Lacks session task) :=
  inferInstanceAs (Decidable
    (∀ live ∈ s.pool.find? session, (s.store live.store).tables.find? Task.table task = none))

namespace Schedule

/-- The move may bring in a row for a task with an identifier. -/
inductive Supplies (task : String) (s : Schedule) : Move → Prop
  /-- A record is stored in the table of tasks under the identifier. -/
  | put (id : StoreId) (r : Record)
      (hid : (if r.id.isEmpty then identifier (s.server.issued + 1) else r.id) = task) :
      Supplies task s (.operate (.useStore id (.put Task.table r)))
  /-- A task is created, and the identifier is given out for it. -/
  | create (id : StoreId) (session : SessionKey) (d : TaskDraft)
      (hid : identifier (s.server.issued + 1) = task) :
      Supplies task s (.operate (.useStore id (.createTask session d)))
  /-- A file is read. -/
  | read {o : Operation} (ho : s.server.ReadsFile o) : Supplies task s (.operate o)

variable {s : Schedule} {m : Move} {session : SessionKey} {task : String}

/-- No call of any other move brings the row in. -/
theorem lacks_call (hm : ¬ Supplies task s m) {c : StoreCall} (hc : s.Calls m c) {store : Store}
    (h : store.tables.find? Task.table task = none) :
    (store.call c).tables.find? Task.table task = none := by
  rw [Option.eq_none_iff_forall_ne_some]
  intro r hr
  -- a call that brings the row in stores it under the identifier, or loads a file
  rcases Store.brought_in_of_call h hr with ⟨now, issued, new, rfl, hid⟩ | ⟨files, rfl⟩
  · cases m with
    | operate o =>
      generalize htable : Task.table = table at hc
      cases hc with
      | routine _ hroutine => cases hroutine
      | put id table r =>
        subst htable
        exact hm (.put id new hid)
      | create id owner d =>
        refine hm (.create id owner d ?_)
        rw [← hid]
        have hnew : (d.start (identifier (s.server.issued + 1)) owner s.server.clock).toRecord.id =
            identifier (s.server.issued + 1) := Task.id_toRecord _
        rw [hnew, ite_self]
    | _ => cases hc
  · cases m with
    | operate o =>
      cases hc with
      | routine _ hroutine => cases hroutine
      | read ho => exact hm (.read ho)
    | _ => cases hc

/-- **Step lemma.**  In every store the row stays missing. -/
theorem lacks_store_move (hm : ¬ Supplies task s m) {id : StoreId}
    (h : (s.server.store id).tables.find? Task.table task = none) :
    ((s.move m).server.store id).tables.find? Task.table task = none :=
  (s.becomes_move m id).induct (P := fun store => store.tables.find? Task.table task = none) h
    (fun _ => rfl) fun _ _ hstore hc => lacks_call hm hc hstore

/-- A session that is made anew has an empty store, and any other has the store that it had. -/
theorem lacks_move (hm : ¬ Supplies task s m) (h : s.server.Lacks session task) :
    (s.move m).server.Lacks session task := by
  intro live hlive
  refine lacks_store_move hm ?_
  rcases (s.extends_move m).sessions session live hlive with ⟨before, hbefore, hstore⟩ | ⟨hnew, -⟩
  · rw [← hstore]
    exact h before hbefore
  · unfold Server.store
    rw [List.getElem?_eq_none hnew]
    rfl

/-- **A removed task never comes back.**  Once the store of its session has no row for it, or the
session is gone, no later store of the session has one, unless the row is brought in anew. -/
theorem lacks_play (h : s.server.Lacks session task) {moves : List Move}
    (hmoves : ¬ s.Happens (Supplies task) moves) : (s.play moves).server.Lacks session task := by
  induction moves generalizing s with
  | nil => exact h
  | cons m rest ih =>
    rw [Happens, not_or] at hmoves
    exact ih (lacks_move hmoves.1 h) hmoves.2

/-- The task of the first run is deleted while the run is at work. -/
def sampleDeletion : List Move :=
  sampleStart ++ [.operate (.useStore 0 (.deleteTask (.sanitize "a") (identifier 1)))]

/-- The first run reports, its session is dropped, and the run ends; then the task is retried in
vain. -/
def sampleAftermath : List Move :=
  [.step 0 (.report .hundred (some "s") none), .operate (.removeSession "a"),
    .step 0 (.endWork (.ok ())), .step 0 .finish,
    .operate (.useStore 1 (.retryTask (.sanitize "a") (identifier 1)))]

theorem not_supplies_sampleAftermath (s : Schedule) (task : String) :
    ¬ s.Happens (Supplies task) sampleAftermath := by
  have hstep : ∀ t n a, ¬ Supplies task t (.step n a) := by
    intro t n a h
    cases h
  have hremove : ∀ t raw, ¬ Supplies task t (.operate (.removeSession raw)) := by
    rintro t raw (_ | _ | ⟨_, _, _, hloads, -⟩)
    cases hloads
  have hretry : ∀ t id session name,
      ¬ Supplies task t (.operate (.useStore id (.retryTask session name))) := by
    rintro t id session name (_ | _ | ⟨_, _, _, hloads, -⟩)
    cases hloads
  simp [sampleAftermath, Happens, hstep, hremove, hretry]

/-- The run makes the session anew when it ends, and the task does not come back. -/
theorem lacks_play_first :
    ((ofServer sampleServer).play sampleDeletion).server.Lacks (.sanitize "a") (identifier 1) ∧
      ¬ ((ofServer sampleServer).play sampleDeletion).Happens (Supplies (identifier 1))
        sampleAftermath ∧
      (((ofServer sampleServer).play sampleDeletion).play sampleAftermath).server.Lacks
        (.sanitize "a") (identifier 1) := by
  have hdeleted :
      ((ofServer sampleServer).play sampleDeletion).server.Lacks (.sanitize "a") (identifier 1) := by
    decide +kernel
  exact ⟨hdeleted, not_supplies_sampleAftermath _ _,
    lacks_play hdeleted (not_supplies_sampleAftermath _ _)⟩

end Schedule

end SessionTasks
