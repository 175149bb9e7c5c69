/-
# Tasks that are cancelled under a run

A caller may cancel a task in the store of its session while a run has the task.  The run does
not hear of it: what its work reports leaves the status alone, but its start and its end write
a status as ever.

* `Schedule.turns_move` : every move leaves a task its status or cancels it, but the start and the
  end of the run that has the task, and what rewrites its row;
* `Schedule.cancelled_until_overwritten` : the task stays cancelled until the run writes a
  status.
-/
import SessionTasks.Proofs.Schedule.InFlight
import SessionTasks.Proofs.Schedule.Writing
namespace SessionTasks

/-! ## Operations that rewrite the row of a task -/

/-- The operation on a store rewrites the row of a task, or reads the store from its file.  An
identifier that it gives out follows the first `issued`. -/
def StoreOperation.Rewrites (key : TaskKey) (issued : Nat) : StoreOperation → Prop
  | .put table r =>
    table = Task.table ∧ (if r.id.isEmpty then identifier (issued + 1) else r.id) = key.task
  | .modify table name _ => table = Task.table ∧ name = key.task
  | .createTask _ _ => identifier (issued + 1) = key.task
  | .updateTask session name _ => session = key.session ∧ name = key.task
  | .retryTask session name => session = key.session ∧ name = key.task
  | .load => True
  | .start => True
  | _ => False

namespace StoreOperation

variable {o : StoreOperation} {key : TaskKey} {issued : Nat}

theorem Supplants.rewrites (h : o.Supplants key issued) : o.Rewrites key issued := by
  cases o with
  | updateTask => cases h
  | retryTask => cases h
  | _ => exact h

/-- What a caller writes to a task without rewriting its row is that it is cancelled. -/
theorem rewrites_or_cancel {w : TaskWrite} (h : o.write? key = some w) :
    o.Rewrites key issued ∨ w = .cancel := by
  unfold write? at h
  cases o with
  | updateTask session name u =>
    obtain ⟨rfl, -⟩ := Option.ite_none_right_eq_some.1 h
    exact Or.inl ⟨rfl, rfl⟩
  | cancelTask session name =>
    obtain ⟨-, hw⟩ := Option.ite_none_right_eq_some.1 h
    exact Or.inr (Option.some.inj hw).symm
  | retryTask session name =>
    obtain ⟨rfl, -⟩ := Option.ite_none_right_eq_some.1 h
    exact Or.inl ⟨rfl, rfl⟩
  | _ => cases h

end StoreOperation

namespace Server

variable {s s' s'' : Server} {id : StoreId} {key : TaskKey}

/-- A task that its session leads to takes what is written for it. -/
theorem task_writeUpdate_self (hid : id < s.stores.length) {u : TaskUpdate} {t : Task}
    (hleads : (s.lookup key.session).1.store = id)
    (ht : (s.store id).task key.session key.task = .ok t) (hfinite : t.progress.isFinite = true) :
    ((s.writeUpdate key u).2.store id).task key.session key.task = .ok (u.apply t s.clock) := by
  rw [store_writeUpdate hid, if_pos hleads]
  exact Store.task_modifyTask_self (u.preserves_apply s.clock) ht (u.isFinite_apply hfinite s.clock)

/-- In the store the task has gone, or it has the status that it had or one with the
property. -/
def Turns (id : StoreId) (key : TaskKey) (P : TaskStatus → Prop) (s s' : Server) : Prop :=
  ∀ t', (s'.store id).task key.session key.task = .ok t' →
    ∃ t, (s.store id).task key.session key.task = .ok t ∧
      (t.progress.isFinite = true → t'.progress.isFinite = true) ∧
      (t'.status = t.status ∨ P t'.status)

/-- The status that the end of a run writes. -/
def endStatus : Except Failure Unit → TaskStatus
  | .ok () => .completed
  | .error _ => .failed

theorem status_endUpdate (outcome : Except Failure Unit) :
    (endUpdate outcome).status = some (endStatus outcome) := by
  cases outcome <;> rfl

end Server

/-- Of what a run writes, only its start and its end give a status. -/
theorem RunState.status_of_update? {r : RunState} {a : RunStep} {u : TaskUpdate}
    (h : r.update? a = some u) :
    u.status = none ∨ a = .begin ∧ r.stage = .holding ∧ u.status = some .running ∨
      a = .finish ∧ ∃ outcome, r.stage = .ending outcome ∧
        u.status = some (Server.endStatus outcome) := by
  unfold update? at h
  cases a with
  | begin =>
    dsimp only at h
    split at h
    · cases h
      exact Or.inr (Or.inl ⟨rfl, ‹_›, rfl⟩)
    · cases h
  | report =>
    obtain ⟨-, hu⟩ := Option.ite_none_right_eq_some.1 h
    rw [← Option.some.inj hu]
    exact Or.inl rfl
  | finish =>
    dsimp only at h
    split at h
    · rename_i outcome hstage
      cases h
      exact Or.inr (Or.inr ⟨rfl, outcome, hstage, Server.status_endUpdate outcome⟩)
    · cases h
  | _ => cases h

/-! ## What a schedule does -/

namespace Schedule

variable {s : Schedule} {id : StoreId} {key : TaskKey} {n : RunId}

/-- The status of a task in a store, if it is found there. -/
def statusAt (s : Schedule) (id : StoreId) (key : TaskKey) : Option TaskStatus :=
  ((s.server.store id).task key.session key.task).toOption.map Task.status

theorem statusAt_eq_some_iff {status : TaskStatus} :
    s.statusAt id key = some status ↔
      ∃ t, (s.server.store id).task key.session key.task = .ok t ∧ t.status = status := by
  unfold statusAt
  cases (s.server.store id).task key.session key.task with
  | error f => simp [Except.toOption]
  | ok t => simp [Except.toOption]

/-- A caller rewrites the row of the task or reads its store from the file, or a call for a run
of the task is accepted. -/
def Disturbs (id : StoreId) (key : TaskKey) (s : Schedule) (m : Move) : Prop :=
  (∃ o, m = .operate (.useStore id o) ∧ o.Rewrites key s.server.issued) ∨ ∃ n, Accepts key n s m

/-- The run that has the task starts or ends, which writes a status. -/
inductive WritesStatus (s : Schedule) (n : RunId) : Move → TaskStatus → Prop
  /-- The run starts. -/
  | begin {r : RunState} (hr : s.runs[n]? = some r) (hstage : r.stage = .holding) :
      WritesStatus s n (.step n .begin) .running
  /-- The run ends. -/
  | finish {r : RunState} {outcome : Except Failure Unit} (hr : s.runs[n]? = some r)
      (hstage : r.stage = .ending outcome) :
      WritesStatus s n (.step n .finish) (Server.endStatus outcome)

/-- The run that has the task, and was not cancelled, writes a status to the store, which the
session of the task leads to. -/
structure Overwrites (id : StoreId) (key : TaskKey) (n : RunId) (status : TaskStatus)
    (s : Schedule) (m : Move) : Prop where
  holder : s.server.ledger.holder? key = some n
  leads : (s.server.lookup key.session).1.store = id
  writes : s.WritesStatus n m status

/-- What lasts while nothing disturbs the task: no other run takes it, and it can be read back
whenever it is written. -/
structure Undisturbed (id : StoreId) (key : TaskKey) (n : RunId) (s : Schedule) : Prop where
  exact : s.server.ledger.Exact s.runs
  made : id < s.server.stores.length
  holder : ∀ k, s.server.ledger.holder? key = some k → k = n
  finite : ∀ t, (s.server.store id).task key.session key.task = .ok t → t.progress.isFinite = true

/-- What a move writes to the task leaves it its status, or cancels it, or is a status that the
run writes. -/
theorem status_of_writesTo (h : s.Undisturbed id key n) {m : Move} (hm : ¬ Disturbs id key s m)
    {w : TaskWrite} (hw : WritesTo id key s m w) (t : Task) (now : Int64) :
    (w.apply t now).status = t.status ∨ (w.apply t now).status = .cancelled ∨
      Overwrites id key n (w.apply t now).status s m := by
  cases hw with
  | @operate o w hwrite =>
    rcases StoreOperation.rewrites_or_cancel hwrite with hrewrites | rfl
    · exact absurd (Or.inl ⟨o, rfl, hrewrites⟩) hm
    · show (t.cancel now).status = _ ∨ (t.cancel now).status = _ ∨ _
      rw [t.status_cancel]
      split
      · exact Or.inr (Or.inl rfl)
      · exact Or.inl rfl
  | @step k r a u hr hu hlive hkey hleads =>
    -- a run that is at its task and was not cancelled has the task
    have hholder : r.stage.holds = true → s.server.ledger.holder? key = some k ∧ k = n := by
      intro hholds
      have hk := (h.exact.holder_iff key k).2 ⟨r, hr, hkey, hholds, hlive⟩
      exact ⟨hk, h.holder k hk⟩
    show (u.apply t now).status = _ ∨ _ ∨ Overwrites id key n (u.apply t now).status s _
    rw [u.status_apply]
    rcases RunState.status_of_update? hu with
      hnone | ⟨rfl, hstage, hstatus⟩ | ⟨rfl, outcome, hstage, hstatus⟩
    · rw [hnone]
      exact Or.inl rfl
    · obtain ⟨hk, rfl⟩ := hholder (by rw [hstage]; rfl)
      rw [hstatus]
      exact Or.inr (Or.inr ⟨hk, hleads, .begin hr hstage⟩)
    · obtain ⟨hk, rfl⟩ := hholder (by rw [hstage]; rfl)
      rw [hstatus]
      exact Or.inr (Or.inr ⟨hk, hleads, .finish hr hstage⟩)
  | cancel =>
    rw [TaskWrite.apply, TaskUpdate.status_apply]
    exact Or.inr (Or.inl rfl)
  | cancelAll =>
    rw [TaskWrite.apply, TaskUpdate.status_apply]
    exact Or.inr (Or.inl rfl)

/-- **What one move does to the status**, if it does not disturb the task. -/
theorem turns_move (h : s.Undisturbed id key n) {m : Move} (hm : ¬ Disturbs id key s m) :
    Server.Turns id key (fun status => status = .cancelled ∨ Overwrites id key n status s m)
      s.server (s.move m).server := by
  have hkept : ¬ Supplants id key s m := by
    rintro ⟨o, rfl, ho⟩
    exact hm (Or.inl ⟨o, rfl, ho.rewrites⟩)
  intro t' ht'
  obtain ⟨t, ht, hwritten, halone⟩ := edits_move h.made hkept t' ht'
  by_cases hw : ∃ w, WritesTo id key s m w
  · obtain ⟨w, hw⟩ := hw
    rw [hwritten w hw]
    exact ⟨t, ht, (w.edit s.server.clock).isFinite, status_of_writesTo h hm hw t _⟩
  · rw [halone fun w hwrite => hw ⟨w, hwrite⟩]
    exact ⟨t, ht, fun hfinite => hfinite, Or.inl rfl⟩

theorem Undisturbed.move (h : s.Undisturbed id key n) {m : Move} (hm : ¬ Disturbs id key s m) :
    (s.move m).Undisturbed id key n where
  exact := exact_move h.exact m
  made := lt_of_lt_of_le h.made (s.extends_move m).stores
  holder := by
    intro k hk
    -- a run that has the task now had it before, since no call was accepted
    obtain ⟨r, hr, hkey, hholds, hc⟩ := ((exact_move h.exact m).holder_iff key k).1 hk
    have hholding : s.Holding key k := by
      rcases ((holding_move s m key k).1 ⟨r, hr, hkey, hholds⟩).1 with hbefore | haccepts
      · exact hbefore
      · exact absurd (Or.inr ⟨k, haccepts⟩) hm
    obtain ⟨q, hq, hqkey, hqholds⟩ := hholding
    exact h.holder k ((h.exact.holder_iff key k).2
      ⟨q, hq, hqkey, hqholds, fun hmem => hc (cancelled_move hmem m)⟩)
  finite := by
    intro t' ht'
    obtain ⟨t, ht, hfinite, -⟩ := turns_move h hm t' ht'
    exact hfinite (h.finite t ht)

theorem Undisturbed.play (h : s.Undisturbed id key n) {moves : List Move}
    (hquiet : ¬ s.Happens (Disturbs id key) moves) : (s.play moves).Undisturbed id key n := by
  induction moves generalizing s with
  | nil => exact h
  | cons m rest ih => exact ih (h.move fun hm => hquiet (Or.inl hm)) fun hr => hquiet (Or.inr hr)

/-- **Run lemma.**  A task that is cancelled has that status as long as it is there, or one that
the run has written. -/
theorem statusAt_play (h : s.Undisturbed id key n) (hcancelled : s.statusAt id key = some .cancelled)
    {moves : List Move} (hquiet : ¬ s.Happens (Disturbs id key) moves) {status : TaskStatus}
    (hstatus : (s.play moves).statusAt id key = some status) :
    status = .cancelled ∨ s.Happens (Overwrites id key n status) moves := by
  -- induction on the last move: it left the status as it was, or wrote it
  induction moves using List.reverseRecOn generalizing status with
  | nil =>
    rw [play_nil, hcancelled] at hstatus
    exact Or.inl (Option.some.inj hstatus).symm
  | append_singleton moves m ih =>
    rw [happens_concat_iff, not_or] at hquiet
    rw [play_concat] at hstatus
    obtain ⟨t', ht', rfl⟩ := statusAt_eq_some_iff.1 hstatus
    obtain ⟨t, ht, -, hsame | hcancel | hwrites⟩ :=
      turns_move (h.play hquiet.1) hquiet.2 t' ht'
    · rw [hsame]
      exact (ih hquiet.1 (statusAt_eq_some_iff.2 ⟨t, ht, rfl⟩)).imp_right fun hw => hw.concat m
    · exact Or.inl hcancel
    · exact Or.inr (happens_concat_self hwrites)

/-! ## What the run writes -/

/-- **The status that the run writes is the status of the task**, if it is still there. -/
theorem statusAt_move_of_overwrites (h : s.Undisturbed id key n) {m : Move} {status : TaskStatus}
    (hw : Overwrites id key n status s m) (hfound : s.statusAt id key ≠ none) :
    (s.move m).statusAt id key = some status := by
  obtain ⟨before, hbefore⟩ := Option.ne_none_iff_exists'.1 hfound
  obtain ⟨t, ht, -⟩ := statusAt_eq_some_iff.1 hbefore
  obtain ⟨q, hq, rfl, -, hc⟩ := (h.exact.holder_iff key n).1 hw.holder
  have hlive : s.server.ledger.isCancelled n = false := by
    rw [← Bool.not_eq_true, RunLedger.isCancelled_iff]
    exact hc
  obtain ⟨-, hleads, hwrites⟩ := hw
  refine statusAt_eq_some_iff.2 ?_
  -- the run was not cancelled in the ledger, so that its writes are made
  cases hwrites with
  | @begin r hr hstage =>
    rw [hq] at hr
    cases hr
    have hserver : (s.move (.step n .begin)).server =
        (s.server.writeUpdate q.key Server.startUpdate).2 := by
      rw [move_step hq]
      dsimp only
      rw [RunState.server_begin hstage]
      unfold Server.begin
      rw [if_neg (by rw [hlive]; exact Bool.false_ne_true)]
    refine ⟨Server.startUpdate.apply t s.server.clock, ?_, ?_⟩
    · rw [hserver]
      exact Server.task_writeUpdate_self h.made hleads ht (h.finite t ht)
    · rw [TaskUpdate.status_apply]
      rfl
  | @finish r outcome hr hstage =>
    rw [hq] at hr
    cases hr
    have hserver : (s.move (.step n .finish)).server =
        ((s.server.giveUp q.key n).writeUpdate q.key (Server.endUpdate outcome)).2 := by
      rw [move_step hq]
      dsimp only
      rw [RunState.server_finish hstage]
      unfold Server.finish
      dsimp only
      rw [if_neg]
      · rfl
      · rw [RunLedger.isCancelled_iff, RunLedger.release_cancelled]
        exact hc
    have hlookup : ((s.server.giveUp q.key n).lookup q.key.session).1.store = id := by
      rw [Server.lookup_giveUp_fst]
      exact hleads
    refine ⟨(Server.endUpdate outcome).apply t s.server.clock, ?_, ?_⟩
    · rw [hserver]
      exact Server.task_writeUpdate_self (s := s.server.giveUp q.key n) h.made hlookup ht
        (h.finite t ht)
    · rw [TaskUpdate.status_apply, Server.status_endUpdate]
      rfl

/-! ## Cancelled under a run -/

/-- A caller cancels the task in the store. -/
def cancelIn (s : Schedule) (id : StoreId) (key : TaskKey) : Schedule :=
  s.move (.operate (.useStore id (.cancelTask key.session key.task)))

/-- While the run has the task, a caller moves the task from running to cancelled. -/
structure CancelledUnder (id : StoreId) (key : TaskKey) (n : RunId) (s : Schedule) : Prop where
  holder : s.server.ledger.holder? key = some n
  running : s.statusAt id key = some .running
  cancelled : (s.cancelIn id key).statusAt id key = some .cancelled

/-- A store in which a task is found is among the stores. -/
theorem made_of_statusAt {status : TaskStatus} (h : s.statusAt id key = some status) :
    id < s.server.stores.length := by
  by_contra hid
  obtain ⟨t, ht, -⟩ := statusAt_eq_some_iff.1 h
  have hempty : s.server.store id = {} := by
    unfold Server.store
    rw [List.getElem?_eq_none (Nat.le_of_not_lt hid)]
    rfl
  rw [hempty] at ht
  cases ht

theorem undisturbed_of_cancelledUnder (hexact : s.server.ledger.Exact s.runs)
    (h : CancelledUnder id key n s) : (s.cancelIn id key).Undisturbed id key n := by
  have hid := made_of_statusAt h.running
  have hledger : (s.cancelIn id key).server.ledger = s.server.ledger := s.server.perform_ledger _
  refine ⟨exact_move hexact _, lt_of_lt_of_le hid (s.extends_move _).stores, ?_, ?_⟩
  · intro k hk
    rw [hledger, h.holder] at hk
    exact (Option.some.inj hk).symm
  · -- the task was changed, so that it was written and read back
    intro t' ht'
    have hstore : (s.cancelIn id key).server.store id =
        ((s.server.store id).cancelTask key.session key.task s.server.clock).2 := by
      refine (Server.store_setStore s.server id id _).trans ?_
      rw [if_pos ⟨rfl, hid⟩]
      rfl
    rw [hstore] at ht'
    exact (Store.task_of_modifyTask (Task.preserves_cancel s.server.clock) ht').1

/-- The task was cancelled, and stays so until the run writes a status. -/
structure CancelledUntilOverwritten (id : StoreId) (key : TaskKey) (n : RunId) (s : Schedule)
    (moves : List Move) : Prop where
  /-- As long as the task is there, it is cancelled or has a status that the run has written. -/
  status : ∀ status, (s.play moves).statusAt id key = some status →
    status = .cancelled ∨ s.Happens (Overwrites id key n status) moves
  /-- Each status that the run writes is the status of the task, if it is still there. -/
  overwritten : ∀ pre m post status, moves = pre ++ m :: post →
    Overwrites id key n status (s.play pre) m → (s.play pre).statusAt id key ≠ none →
    ((s.play pre).move m).statusAt id key = some status

/-- **A task that is cancelled under a run stays cancelled until the run writes a status.**  That
happens when the run starts, or when it ends, unless the run itself was cancelled before; its
reports never do. -/
theorem cancelled_until_overwritten {c : Config} {epoch issued : Nat} {files : FileTree}
    {server : Server} (hs : Server.ofConfig c epoch files issued = .ok server)
    (before after : List Move) (id : StoreId) (key : TaskKey) (n : RunId)
    (hunder : CancelledUnder id key n ((ofServer server).play before))
    (hquiet : ¬ (((ofServer server).play before).cancelIn id key).Happens (Disturbs id key) after) :
    CancelledUntilOverwritten id key n (((ofServer server).play before).cancelIn id key) after := by
  have hundisturbed := undisturbed_of_cancelledUnder (exact_of_ofConfig hs before) hunder
  have hcancelled := hunder.cancelled
  generalize ((ofServer server).play before).cancelIn id key = s at hundisturbed hcancelled hquiet ⊢
  refine ⟨fun status hstatus => statusAt_play hundisturbed hcancelled hquiet hstatus, ?_⟩
  rintro pre m post status rfl hw hfound
  rw [happens_append, not_or] at hquiet
  exact statusAt_move_of_overwrites (hundisturbed.play hquiet.1) hw hfound

/-- The work of the first run reports and returns, and its call ends. -/
def sampleEnd : List Move :=
  [.step 0 (.report .hundred none none), .step 0 (.endWork (.ok ())), .step 0 .finish]

theorem cancelledUnder_sampleStart :
    CancelledUnder 0 sampleTask 0 ((ofServer sampleServer).play sampleStart) :=
  ⟨by decide +kernel, by decide +kernel, by decide +kernel⟩

/-- No step of the first run that is taken after the start disturbs its task. -/
theorem not_disturbs_sampleEnd (s : Schedule) (id : StoreId) (key : TaskKey) :
    ¬ s.Happens (Disturbs id key) sampleEnd := by
  simp [sampleEnd, Happens, Disturbs, Accepts]

/-- The task is cancelled under the first run, and until the run ends it stays so. -/
theorem cancelled_until_overwritten_first :
    Server.ofConfig {} 0 .empty 0 = .ok sampleServer ∧
      CancelledUnder 0 sampleTask 0 ((ofServer sampleServer).play sampleStart) ∧
      ¬ (((ofServer sampleServer).play sampleStart).cancelIn 0 sampleTask).Happens
        (Disturbs 0 sampleTask) sampleEnd ∧
      CancelledUntilOverwritten 0 sampleTask 0
        (((ofServer sampleServer).play sampleStart).cancelIn 0 sampleTask) sampleEnd :=
  ⟨ofConfig_sampleServer, cancelledUnder_sampleStart, not_disturbs_sampleEnd _ _ _,
    cancelled_until_overwritten ofConfig_sampleServer _ _ _ _ _ cancelledUnder_sampleStart
      (not_disturbs_sampleEnd _ _ _)⟩

/-- **A cancelled task is completed.**  The task is cancelled under the first run, nothing
disturbs it, and when the run ends the task is completed. -/
theorem completed_after_cancelled :
    Server.ofConfig {} 0 .empty 0 = .ok sampleServer ∧
      CancelledUnder 0 sampleTask 0 ((ofServer sampleServer).play sampleStart) ∧
      ¬ (((ofServer sampleServer).play sampleStart).cancelIn 0 sampleTask).Happens
        (Disturbs 0 sampleTask) sampleEnd ∧
      ((((ofServer sampleServer).play sampleStart).cancelIn 0 sampleTask).play
        sampleEnd).statusAt 0 sampleTask = some .completed :=
  ⟨ofConfig_sampleServer, cancelledUnder_sampleStart, not_disturbs_sampleEnd _ _ _,
    by decide +kernel⟩

end Schedule

end SessionTasks
