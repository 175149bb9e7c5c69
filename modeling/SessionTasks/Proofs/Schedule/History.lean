/-
# The history of a task

A task is created by a caller, and from then on callers and runs write to it.  As long as nobody
puts another row in its place, the task that is found later is the one that was created, after
these writes and no others.

* `Schedule.remains_play` : what a series of moves leaves as it was;
* `Schedule.history_of_created` : what a task was created as stays, the times of its first start
  and its first completion are noted once, and each write notes its own time.
-/
import SessionTasks.Proofs.Schedule.Stores
import SessionTasks.Proofs.Store.Identity
namespace SessionTasks

namespace Store

variable {s : Store} {session : SessionKey} {t : Task}

/-- A task that is found after it was created is the task as it is first stored. -/
theorem task_of_createTask {issued : Nat} {now : Int64} {d : TaskDraft}
    (h : (s.createTask session (identifier issued) now d).2.task session (identifier issued) =
      .ok t) : t = d.start (identifier issued) session now := by
  rw [createTask_snd] at h
  generalize hrow : (d.start (identifier issued) session now).toRecord = row at h
  have hid : row.id = identifier issued := by rw [← hrow, id_start]
  obtain ⟨hafter, r, hr, hread, -⟩ := task_eq_ok_iff.1 h
  -- a poisoned store stores no task, and stays poisoned
  have hpoisoned : s.poisoned = false := by
    by_contra hne
    have hsame := call_of_poisoned (Bool.eq_true_of_not_eq_false hne)
      (.put now issued Task.table row)
    exact hne ((congrArg poisoned hsame).symm.trans hafter)
  have hput := put_eq_ok_iff.2 ⟨hpoisoned, (rfl :
    stamped (s.tables.find? Task.table row.id) now (identifier issued) row = _), rfl⟩
  rw [hput, withRow, Tables.find?_insert_row, stamped_id, hid, ite_self, if_pos rfl] at hr
  have hfields : r.fields = row.fields := by
    rw [← Option.some.inj hr]
    unfold stamped
    split <;> rfl
  rw [← hrow] at hfields
  have hname : r.id = identifier issued := by
    rw [← Option.some.inj hr, stamped_id, hid, ite_self]
  rw [((Task.ofRecord_of_fields hfields).1 hread).2, hname]
  rfl

end Store

namespace Schedule

variable {s : Schedule} {id : StoreId} {key : TaskKey} {m : Move} {t t' : Task}

/-- The move makes the task pending again, which has failed or was cancelled. -/
def Restarts (id : StoreId) (key : TaskKey) (s : Schedule) (m : Move) : Prop :=
  WritesTo id key s m .retry ∧ ∃ t, (s.server.store id).task key.session key.task = .ok t ∧
    t.status.isRetryable = true

/-- What a move does to the task that was `t` before it and is `t'` after it. -/
structure Passes (id : StoreId) (key : TaskKey) (s : Schedule) (m : Move) (t t' : Task) :
    Prop where
  /-- A time that was not noted before is noted exactly when its status is written. -/
  noted : ∀ x : Milestone, x.time? t = none → ∀ time, x.time? t' = some time ↔
    time = s.server.clock ∧ ∃ w, WritesTo id key s m w ∧ w.Gives x.status
  /-- Every change notes its time. -/
  updated : ∀ u, WritesTo id key s m (.update u) → t'.updatedAt = s.server.clock
  /-- A task that is finished is not cancelled, and nothing changes. -/
  cancelled : WritesTo id key s m .cancel →
    t' = if t.status.isCancellable then
      { t with status := .cancelled, updatedAt := s.server.clock } else t
  /-- A task that has not failed and was not cancelled is not made pending, and nothing
  changes. -/
  restarted : WritesTo id key s m .retry →
    t' = if t.status.isRetryable then
      { t with
        status := .pending
        progress := .zero
        error := none
        startedAt := none
        completedAt := none
        updatedAt := s.server.clock } else t
  /-- A task to which nothing is written stays as it is. -/
  alone : (∀ w, ¬ WritesTo id key s m w) → t' = t

theorem passes_of_edits (hwritten : ∀ w, WritesTo id key s m w → t' = w.apply t s.server.clock)
    (halone : (∀ w, ¬ WritesTo id key s m w) → t' = t) : Passes id key s m t t' where
  noted := by
    intro x hx time
    constructor
    · intro htime
      by_cases hw : ∃ w, WritesTo id key s m w
      · obtain ⟨w, hw⟩ := hw
        rw [hwritten w hw, TaskWrite.time?_apply_of_none hx] at htime
        exact ⟨htime.1, w, hw, htime.2⟩
      · rw [halone fun w hwrite => hw ⟨w, hwrite⟩, hx] at htime
        cases htime
    · rintro ⟨rfl, w, hw, hgives⟩
      rw [hwritten w hw]
      exact (TaskWrite.time?_apply_of_none hx w _).2 ⟨rfl, hgives⟩
  updated := by
    intro u hu
    rw [hwritten _ hu]
    rfl
  cancelled := fun hw => hwritten _ hw
  restarted := fun hw => hwritten _ hw
  alone := halone

/-- The task `last` that is found after some moves is the one that was found before them as
`t`. -/
structure Remains (id : StoreId) (key : TaskKey) (s : Schedule) (moves : List Move)
    (t last : Task) : Prop where
  found : (s.server.store id).task key.session key.task = .ok t
  createdAs : t.CreatedAs last
  /-- A time that was noted stays, unless the task is made pending again. -/
  times : ∀ (x : Milestone) (time : Int64), x.time? t = some time →
    x.time? last = some time ∨ s.Happens (Restarts id key) moves

/-- **Run lemma.**  A task that is found after some moves was there before them, and all of it
remains that is written once. -/
theorem remains_play (hid : id < s.server.stores.length) {moves : List Move}
    (hmoves : ¬ s.Happens (Supplants id key) moves) {last : Task}
    (hlast : ((s.play moves).server.store id).task key.session key.task = .ok last) :
    ∃ t, Remains id key s moves t last := by
  induction moves generalizing s with
  | nil => exact ⟨last, hlast, .refl last, fun x time h => Or.inl h⟩
  | cons m rest ih =>
    rw [Happens, not_or] at hmoves
    have hnext : id < (s.move m).server.stores.length :=
      lt_of_lt_of_le hid (s.extends_move m).stores
    obtain ⟨t', hfound', hcreated', htimes'⟩ := ih hnext hmoves.2 hlast
    obtain ⟨t, hfound, hwritten, halone⟩ := edits_move hid hmoves.1 t' hfound'
    refine ⟨t, hfound, ?_, fun x time htime => ?_⟩
    -- at most one write reaches the task in a move
    · by_cases hw : ∃ w, WritesTo id key s m w
      · obtain ⟨w, hw⟩ := hw
        refine .trans ?_ hcreated'
        rw [hwritten w hw]
        exact w.createdAs_apply t _
      · rw [halone fun w hwrite => hw ⟨w, hwrite⟩] at hcreated'
        exact hcreated'
    · -- the move keeps the time or makes the task pending, and so do the moves behind it
      have hkept : x.time? t' = some time ∨ Restarts id key s m := by
        by_cases hw : ∃ w, WritesTo id key s m w
        · obtain ⟨w, hw⟩ := hw
          rcases TaskWrite.time?_apply_of_some htime w s.server.clock with hsame | ⟨rfl, hstatus⟩
          · rw [hwritten w hw]
            exact Or.inl hsame
          · exact Or.inr ⟨hw, t, hfound, hstatus⟩
        · rw [halone fun w hwrite => hw ⟨w, hwrite⟩]
          exact Or.inl htime
      rcases hkept with hkept | hrestarts
      · exact (htimes' x time hkept).imp_right Or.inr
      · exact Or.inr (Or.inl hrestarts)

/-- The history of a task that was first stored as `first` and is found after some moves as
`last`. -/
structure History (id : StoreId) (key : TaskKey) (first : Task) (s : Schedule)
    (moves : List Move) (last : Task) : Prop where
  /-- At every point the task is there; what it was created as is what it was first stored as, and
  a time that is noted there stays until the task is made pending again. -/
  remains : ∀ pre post, moves = pre ++ post → ∃ t, first.CreatedAs t ∧
    Remains id key (s.play pre) post t last
  /-- Every move does to the task what it writes, and nothing else. -/
  passes : ∀ pre m post, moves = pre ++ m :: post → ∃ t t',
    ((s.play pre).server.store id).task key.session key.task = .ok t ∧
      (((s.play pre).move m).server.store id).task key.session key.task = .ok t' ∧
      Passes id key (s.play pre) m t t'

/-- The schedule after a task was created in a store. -/
def create (s : Schedule) (id : StoreId) (session : SessionKey) (d : TaskDraft) : Schedule :=
  s.move (.operate (.useStore id (.createTask session d)))

/-- The key of the task that is created next. -/
def nextKey (s : Schedule) (session : SessionKey) : TaskKey :=
  ⟨session, identifier (s.server.issued + 1)⟩

theorem store_create (hid : id < s.server.stores.length) (session : SessionKey) (d : TaskDraft) :
    (s.create id session d).server.store id =
      ((s.server.store id).createTask session (s.nextKey session).task s.server.clock d).2 :=
  Server.store_setStore_self (s := s.server.issue.2) hid _

/-- **The history of a task.**  Whatever is written to a task after it was created, its owner, its
name, its description and the time of its creation stay as they are; the times at which it first
ran and was first completed are noted when the status is first written, and stay until the task is
made pending again; and every write notes its own time, unless it does not apply. -/
theorem history_of_created (hid : id < s.server.stores.length) {session : SessionKey}
    {d : TaskDraft} {moves : List Move} {last : Task}
    (hmoves : ¬ (s.create id session d).Happens (Supplants id (s.nextKey session)) moves)
    (hlast : (((s.create id session d).play moves).server.store id).task session
      (s.nextKey session).task = .ok last) :
    History id (s.nextKey session) (d.start (s.nextKey session).task session s.server.clock)
      (s.create id session d) moves last := by
  have hcreated : id < (s.create id session d).server.stores.length :=
    lt_of_lt_of_le hid (s.extends_move _).stores
  have hfirst : ∀ t, ((s.create id session d).server.store id).task session
      (s.nextKey session).task = .ok t →
      t = d.start (s.nextKey session).task session s.server.clock := by
    intro t ht
    rw [store_create hid] at ht
    exact Store.task_of_createTask ht
  -- from here on it only counts that the task was first stored under its key
  generalize hkey : s.nextKey session = key at hmoves hlast hfirst ⊢
  have hsession : session = key.session := by rw [← hkey]; rfl
  generalize d.start key.task session s.server.clock = first at hfirst ⊢
  generalize s.create id session d = c at hcreated hmoves hlast hfirst ⊢
  rw [hsession] at hlast hfirst
  have hremains : ∀ pre post, moves = pre ++ post → ∃ t, first.CreatedAs t ∧
      Remains id key (c.play pre) post t last := by
    rintro pre post rfl
    rw [happens_append, not_or] at hmoves
    rw [play_append] at hlast
    have hid' : id < (c.play pre).server.stores.length :=
      lt_of_lt_of_le hcreated (c.extends_play pre).stores
    obtain ⟨t, hremains⟩ := remains_play hid' hmoves.2 hlast
    obtain ⟨t₀, hstart⟩ := remains_play hcreated hmoves.1 hremains.found
    have hsame := hfirst t₀ hstart.found
    exact ⟨t, hsame ▸ hstart.createdAs, hremains⟩
  refine ⟨hremains, ?_⟩
  -- the task is there after the move, and the step lemma leads back to the one before it
  rintro pre m post rfl
  obtain ⟨t', -, hafter⟩ := hremains (pre ++ [m]) post (by rw [List.append_assoc]; rfl)
  have hfound := hafter.found
  rw [play_concat] at hfound
  rw [happens_append, not_or] at hmoves
  have hm : ¬ Supplants id key (c.play pre) m := fun h => hmoves.2 (Or.inl h)
  have hid' : id < (c.play pre).server.stores.length :=
    lt_of_lt_of_le hcreated (c.extends_play pre).stores
  obtain ⟨t, ht, hwritten, halone⟩ := edits_move hid' hm t' hfound
  exact ⟨t, t', ht, hfound, passes_of_edits hwritten halone⟩

/-- The server has a store for a session, and the session has no task. -/
def sampleOpened : Schedule := (ofServer sampleServer).play [.operate (.lookup "a")]

/-- The task runs, reports, and is completed five milliseconds after it began; then it is said to
have failed, and is made pending again. -/
def sampleHistory : List Move :=
  [.ask sampleTask, .step 0 .accept, .step 0 .begin, .operate (.setClock 5),
    .step 0 (.report .hundred (some "s") none), .step 0 (.endWork (.ok ())), .step 0 .finish,
    .operate (.useStore 0 (.updateTask (.sanitize "a") (identifier 1) { status := some .failed })),
    .operate (.useStore 0 (.retryTask (.sanitize "a") (identifier 1)))]

/-- The task that is pending again. -/
def sampleRestarted : Task :=
  { TaskDraft.start { name := "t" } (identifier 1) (.sanitize "a") 0 with
    currentStep := some "s"
    updatedAt := 5 }

theorem not_supplants_sampleHistory (s : Schedule) (key : TaskKey) :
    ¬ s.Happens (Supplants 0 key) sampleHistory := by
  simp [sampleHistory, Happens, Supplants, StoreOperation.Supplants]

theorem history_of_created_first :
    0 < sampleOpened.server.stores.length ∧
      ¬ (sampleOpened.create 0 (.sanitize "a") { name := "t" }).Happens
        (Supplants 0 (sampleOpened.nextKey (.sanitize "a"))) sampleHistory ∧
      (((sampleOpened.create 0 (.sanitize "a") { name := "t" }).play sampleHistory).server.store
        0).task (.sanitize "a") (sampleOpened.nextKey (.sanitize "a")).task =
          .ok sampleRestarted ∧
      History 0 (sampleOpened.nextKey (.sanitize "a"))
        (TaskDraft.start { name := "t" } (sampleOpened.nextKey (.sanitize "a")).task
          (.sanitize "a") sampleOpened.server.clock)
        (sampleOpened.create 0 (.sanitize "a") { name := "t" }) sampleHistory sampleRestarted := by
  have hid : 0 < sampleOpened.server.stores.length := by decide +kernel
  have hlast : (((sampleOpened.create 0 (.sanitize "a") { name := "t" }).play
      sampleHistory).server.store 0).task (.sanitize "a")
        (sampleOpened.nextKey (.sanitize "a")).task = .ok sampleRestarted := by decide +kernel
  exact ⟨hid, not_supplants_sampleHistory _ _, hlast,
    history_of_created hid (not_supplants_sampleHistory _ _) hlast⟩

end Schedule

end SessionTasks
