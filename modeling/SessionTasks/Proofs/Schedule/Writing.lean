/-
# What is written to a task

Callers and runs write to a task, and each of them in one way.  A move of a schedule drops the
task, or it makes the task what one write makes of it.

* `Server.Edits` : the task has gone, or it has taken a write and nothing else;
* `Schedule.WritesTo` : what a move writes to a task;
* `Schedule.edits_move` : a move does to the task what it writes.
-/
import SessionTasks.Proofs.Schedule.Sparing
namespace SessionTasks

namespace Server

variable {s s' : Server} {id : StoreId} {key : TaskKey} {P Q : TaskWrite → Prop}

/-- In the store the task has gone, or it has taken the writes with the property, and nothing
else. -/
def Edits (id : StoreId) (key : TaskKey) (P : TaskWrite → Prop) (s s' : Server) : Prop :=
  ∀ t', (s'.store id).task key.session key.task = .ok t' →
    ∃ t, (s.store id).task key.session key.task = .ok t ∧
      (∀ w, P w → t' = w.apply t s.clock) ∧ ((∀ w, ¬ P w) → t' = t)

/-- What spares a task edits it in no way. -/
theorem Spares.edits (h : Spares id key s s') (hP : ∀ w, ¬ P w) : Edits id key P s s' :=
  fun t' ht' => ⟨t', h t' ht', fun w hw => absurd hw (hP w), fun _ => rfl⟩

/-- The edits may be told in another form. -/
theorem Edits.congr (h : Edits id key P s s') (hPQ : ∀ w, Q w ↔ P w) : Edits id key Q s s' := by
  have heq : Q = P := funext fun w => propext (hPQ w)
  rw [heq]
  exact h

/-- One write, under a condition. -/
theorem edits_of_write {c : Prop} {w : TaskWrite}
    (hwrite : c → ∀ t', (s'.store id).task key.session key.task = .ok t' →
      ∃ t, (s.store id).task key.session key.task = .ok t ∧ t' = w.apply t s.clock)
    (hspare : ¬ c → Spares id key s s') : Edits id key (fun v => c ∧ v = w) s s' := by
  by_cases hc : c
  · intro t' ht'
    obtain ⟨t, ht, heq⟩ := hwrite hc t' ht'
    refine ⟨t, ht, ?_, fun hnone => absurd ⟨hc, rfl⟩ (hnone w)⟩
    rintro v ⟨-, rfl⟩
    exact heq
  · exact (hspare hc).edits fun v hv => hc hv.1

/-! ## Writes of callers -/

/-- An operation on a store edits the task only by the change that it asks for. -/
theorem edits_useStore (hid : id < s.stores.length) {o : StoreOperation}
    (hkept : ¬ o.Supplants key s.issued) :
    Edits id key (fun w => o.write? key = some w) s (s.useStore id o) := by
  -- the requests that write are each one change to the task that they name
  have hset : ∀ (session : SessionKey) (name : String) (w : TaskWrite),
      Edits id key (fun v => (if TaskKey.mk session name = key then some w else none) = some v) s
        (s.setStore id ((s.store id).modifyTask session name fun t => w.apply t s.clock).2) := by
    intro session name w
    have hf := (w.edit s.clock).preserves
    refine (edits_of_write (c := TaskKey.mk session name = key) (w := w) ?_ ?_).congr ?_
    · rintro rfl t' ht'
      rw [store_setStore, if_pos ⟨rfl, hid⟩] at ht'
      exact (Store.task_of_modifyTask hf ht').2
    · intro hne
      refine spares_setStore fun _ => Store.spares_modifyTask hf ?_
      rintro ⟨rfl, rfl⟩
      exact hne rfl
    · intro v
      by_cases hkey : TaskKey.mk session name = key
      · rw [if_pos hkey, Option.some.injEq]
        exact ⟨fun h => ⟨hkey, h.symm⟩, fun h => h.2.symm⟩
      · rw [if_neg hkey]
        exact ⟨fun h => (by cases h), fun h => absurd h.1 hkey⟩
  cases o with
  | updateTask session name u => exact hset session name (.update u)
  | cancelTask session name => exact hset session name .cancel
  | retryTask session name => exact hset session name .retry
  | _ =>
    refine Spares.edits (spares_useStore (fun _ => hkept) fun _ => rfl) fun w hw => ?_
    cases hw

/-! ## Writes of runs -/

/-- What a run writes when it reports. -/
def reportUpdate (progress : Binary64) (step description : Option String) : TaskUpdate where
  progress := some progress
  currentStep := step
  currentStepDescription := description

/-- What is written when a run is cancelled. -/
def cancelUpdate : TaskUpdate := { status := some .cancelled }

/-- A write on behalf of a run goes to the task, in the store that its session leads to. -/
theorem edits_writeUpdate (hid : id < s.stores.length) (other : TaskKey) (u : TaskUpdate) :
    Edits id key (fun w => (other = key ∧ (s.lookup key.session).1.store = id) ∧ w = .update u) s
      (s.writeUpdate other u).2 := by
  refine edits_of_write ?_ ?_
  · rintro ⟨rfl, hleads⟩ t' ht'
    rw [store_writeUpdate hid, if_pos hleads] at ht'
    exact (Store.task_of_modifyTask (u.preserves_apply s.clock) ht').2
  · intro hne t ht
    rw [store_writeUpdate hid] at ht
    split at ht
    · rename_i hleads
      refine Store.spares_modifyTask (u.preserves_apply s.clock) ?_ t ht
      rintro ⟨hsession, htask⟩
      refine hne ⟨?_, hsession ▸ hleads⟩
      cases other
      cases key
      cases hsession
      cases htask
      rfl
    · exact ht

/-- A run that begins edits only its own task, and only to mark it as begun. -/
theorem edits_begin (hid : id < s.stores.length) (other : TaskKey) (n : RunId) :
    Edits id key
      (fun w => n ∉ s.ledger.cancelled ∧
        (other = key ∧ (s.lookup key.session).1.store = id) ∧ w = .update startUpdate)
      s (s.begin other n).2 := by
  unfold begin
  split
  · rename_i hc
    rw [RunLedger.isCancelled_iff] at hc
    exact (Spares.of_store rfl).edits fun w hw => hw.1 hc
  · rename_i hc
    rw [RunLedger.isCancelled_iff] at hc
    exact (edits_writeUpdate hid other startUpdate).congr fun w => and_iff_right hc

theorem edits_report (hid : id < s.stores.length) (other : TaskKey) (n : RunId)
    (progress : Binary64) (step description : Option String) :
    Edits id key
      (fun w => n ∉ s.ledger.cancelled ∧ (other = key ∧ (s.lookup key.session).1.store = id) ∧
        w = .update (reportUpdate progress step description))
      s (s.report other n progress step description) := by
  unfold report
  split
  · rename_i hc
    rw [RunLedger.isCancelled_iff] at hc
    exact (Spares.of_store rfl).edits fun w hw => hw.1 hc
  · rename_i hc
    rw [RunLedger.isCancelled_iff] at hc
    exact (edits_writeUpdate hid other _).congr fun w => and_iff_right hc

/-- Letting go of a task does not change where a session leads to. -/
theorem lookup_giveUp_fst (s : Server) (other : TaskKey) (n : RunId) (session : SessionKey) :
    ((s.giveUp other n).lookup session).1 = (s.lookup session).1 := by
  rw [lookup_fst, lookup_fst]
  rfl

theorem edits_finish (hid : id < s.stores.length) (other : TaskKey) (n : RunId)
    (outcome : Except Failure Unit) :
    Edits id key
      (fun w => n ∉ s.ledger.cancelled ∧ (other = key ∧ (s.lookup key.session).1.store = id) ∧
        w = .update (endUpdate outcome))
      s (s.finish other n outcome) := by
  unfold finish
  dsimp only
  split
  · rename_i hc
    rw [RunLedger.isCancelled_iff, RunLedger.release_cancelled] at hc
    exact (Spares.of_store rfl).edits fun w hw => hw.1 hc
  · rename_i hc
    rw [RunLedger.isCancelled_iff, RunLedger.release_cancelled] at hc
    -- the run lets go of its task first, and that leaves the stores and the sessions alone
    have hedits : Edits id key _ _ _ :=
      edits_writeUpdate (s := s.giveUp other n) hid other (endUpdate outcome)
    rw [lookup_giveUp_fst] at hedits
    exact hedits.congr fun w => and_iff_right hc

/-- Cancelling a run takes no time. -/
theorem clock_cancelRun (s : Server) (key : TaskKey) : (s.cancelRun key).2.clock = s.clock := by
  unfold cancelRun
  split
  · rfl
  · dsimp only
    rw [writeUpdate_snd]
    exact lookup_clock _ _

/-- The run that holds the task `other` is cancelled, and that is written to the task `key`. -/
def CancelsRun (id : StoreId) (key : TaskKey) (s : Server) (other : TaskKey) : Prop :=
  (s.ledger.holder? other).isSome = true ∧ other = key ∧ (s.lookup key.session).1.store = id

/-- Cancelling a run edits only its task. -/
theorem edits_cancelRun (hid : id < s.stores.length) (other : TaskKey) :
    Edits id key (fun w => s.CancelsRun id key other ∧ w = .update cancelUpdate) s
      (s.cancelRun other).2 := by
  unfold cancelRun CancelsRun
  split
  · rename_i hnone
    rw [hnone]
    exact (Spares.of_store rfl).edits fun w hw => by cases hw.1.1
  · rename_i n hsome
    have hedits : Edits id key _ _ _ :=
      edits_writeUpdate (s := s.markCancelled other n) hid other cancelUpdate
    have hlookup : ((s.markCancelled other n).lookup key.session).1 =
        (s.lookup key.session).1 := by
      rw [lookup_fst, lookup_fst]
      rfl
    rw [hlookup] at hedits
    refine hedits.congr fun w => and_congr_left fun _ => ?_
    rw [hsome]
    exact and_iff_right rfl

/-- Of the runs of some tasks, one after the other, the run of the task `key` is cancelled, and
that is written to the task. -/
def CancelsRuns (id : StoreId) (key : TaskKey) (s : Server) : List TaskKey → Prop
  | [] => False
  | first :: rest => s.CancelsRun id key first ∨ (s.cancelRun first).2.CancelsRuns id key rest

theorem edits_cancelRuns (keys : List TaskKey) (hid : id < s.stores.length) :
    Edits id key (fun w => s.CancelsRuns id key keys ∧ w = .update cancelUpdate) s
      (s.cancelRuns keys).2 := by
  induction keys generalizing s with
  | nil => exact (Spares.of_store rfl).edits fun w hw => hw.1
  | cons first rest ih =>
    have hnext : id < (s.cancelRun first).2.stores.length :=
      lt_of_lt_of_le hid (s.extends_cancelRun first).stores
    refine edits_of_write ?_ ?_
    · intro hcancels t'' ht''
      obtain ⟨t', ht', hrest, hkept'⟩ := ih hnext t'' ht''
      obtain ⟨t, ht, hfirst, hkept⟩ := edits_cancelRun hid first t' ht'
      rw [clock_cancelRun] at hrest
      refine ⟨t, ht, ?_⟩
      by_cases hc : (s.cancelRun first).2.CancelsRuns id key rest
      · rw [hrest _ ⟨hc, rfl⟩]
        by_cases hc' : s.CancelsRun id key first
        · -- it is written twice at one time, and that is writing it once
          rw [hfirst _ ⟨hc', rfl⟩]
          rfl
        · rw [hkept fun w hw => hc' hw.1]
      · rw [hkept' fun w hw => hc hw.1]
        exact hfirst _ ⟨hcancels.resolve_right hc, rfl⟩
    · intro hnot t'' ht''
      obtain ⟨t', ht', -, hkept'⟩ := ih hnext t'' ht''
      obtain ⟨t, ht, -, hkept⟩ := edits_cancelRun hid first t' ht'
      rw [hkept' fun w hw => hnot (Or.inr hw.1), hkept fun w hw => hnot (Or.inl hw.1)]
      exact ht

end Server

/-! ## Writes of a move -/

namespace RunState

/-- What a step of a run writes, unless the run was cancelled. -/
def update? (r : RunState) : RunStep → Option TaskUpdate
  | .begin =>
    match r.stage with
    | .holding => some Server.startUpdate
    | _ => none
  | .report progress step description =>
    if r.task.isSome then some (Server.reportUpdate progress step description) else none
  | .finish =>
    match r.stage with
    | .ending outcome => some (Server.endUpdate outcome)
    | _ => none
  | _ => none

variable {r : RunState} {n : RunId} {s : Server} {id : StoreId} {key : TaskKey} {a : RunStep}

/-- A run that holds its task begins. -/
theorem server_begin (hstage : r.stage = .holding) :
    (r.step n s .begin).1 = (s.begin r.key n).2 := by
  unfold step
  rw [hstage]
  dsimp only
  split <;> rename_i hbegin <;> rw [hbegin]

/-- A run whose work has ended finishes. -/
theorem server_finish {outcome : Except Failure Unit} (hstage : r.stage = .ending outcome) :
    (r.step n s .finish).1 = s.finish r.key n outcome := by
  unfold step
  rw [hstage]

/-- A step that writes nothing leaves the stores alone. -/
theorem store_step (h : r.update? a = none) : (r.step n s a).1.store id = s.store id := by
  have htakes := r.takes_step n s a
  generalize r.step n s a = after at htakes ⊢
  -- in the three cases that reach a store the step writes, against the hypothesis
  cases htakes with
  | stay => rfl
  | refused => rfl
  | accepted _ haccept =>
    unfold Server.accept? at haccept
    split at haccept
    · cases haccept
    · cases haccept
      rfl
  | begun hstage =>
    unfold update? at h
    rw [hstage] at h
    cases h
  | unbegun _ hstage =>
    unfold update? at h
    rw [hstage] at h
    cases h
  | reported _ _ _ htask =>
    rw [update?, if_pos htask] at h
    cases h
  | ended => rfl
  | endedAlone => rfl
  | finished hstage =>
    unfold update? at h
    rw [hstage] at h
    cases h
  | dropped => rfl
  | givenUp => rfl

/-- What a step writes goes to the task of the run, unless the run was cancelled. -/
theorem edits_of_update? (hid : id < s.stores.length) {u : TaskUpdate}
    (h : r.update? a = some u) :
    Server.Edits id key
      (fun w => n ∉ s.ledger.cancelled ∧ (r.key = key ∧ (s.lookup key.session).1.store = id) ∧
        w = .update u)
      s (r.step n s a).1 := by
  unfold update? at h
  cases a with
  | begin =>
    dsimp only at h
    split at h
    · rename_i hstage
      cases h
      rw [server_begin hstage]
      exact Server.edits_begin hid r.key n
    · cases h
  | report progress step description =>
    dsimp only at h
    split at h
    · rename_i htask
      cases h
      have hserver : (r.step n s (.report progress step description)).1 =
          s.report r.key n progress step description :=
        congrArg Prod.fst (if_pos htask)
      rw [hserver]
      exact Server.edits_report hid r.key n progress step description
    · cases h
  | finish =>
    dsimp only at h
    split at h
    · rename_i outcome hstage
      cases h
      rw [server_finish hstage]
      exact Server.edits_finish hid r.key n outcome
    · cases h
  | _ => cases h

/-- What one step of a run does to a task. -/
theorem edits_step (r : RunState) (n : RunId) (hid : id < s.stores.length) (a : RunStep) :
    Server.Edits id key
      (fun w => n ∉ s.ledger.cancelled ∧ (r.key = key ∧ (s.lookup key.session).1.store = id) ∧
        ∃ u, r.update? a = some u ∧ w = .update u)
      s (r.step n s a).1 := by
  cases hu : r.update? a with
  | none =>
    refine (Server.Spares.of_store (store_step hu)).edits fun w hw => ?_
    obtain ⟨-, -, u, hnone, -⟩ := hw
    cases hnone
  | some u =>
    refine (edits_of_update? hid hu).congr fun w => and_congr_right' (and_congr_right' ?_)
    constructor
    · rintro ⟨v, hv, rfl⟩
      rw [Option.some.inj hv]
    · exact fun hw => ⟨u, rfl, hw⟩

end RunState

namespace Schedule

/-- The move puts a row in the place of that of a task, or reads the store from its file. -/
def Supplants (id : StoreId) (key : TaskKey) (s : Schedule) (m : Move) : Prop :=
  ∃ o, m = .operate (.useStore id o) ∧ o.Supplants key s.server.issued

/-- **What a move writes** to a task in a store. -/
inductive WritesTo (id : StoreId) (key : TaskKey) (s : Schedule) : Move → TaskWrite → Prop
  /-- The owner of the task changes it, cancels it or makes it pending again. -/
  | operate {o : StoreOperation} {w : TaskWrite} (hw : o.write? key = some w) :
      WritesTo id key s (.operate (.useStore id o)) w
  /-- A run of the task that was not cancelled writes, and its session leads to the store. -/
  | step {n : RunId} {r : RunState} {a : RunStep} {u : TaskUpdate} (hr : s.runs[n]? = some r)
      (hu : r.update? a = some u) (hlive : n ∉ s.server.ledger.cancelled) (hkey : r.key = key)
      (hleads : (s.server.lookup key.session).1.store = id) :
      WritesTo id key s (.step n a) (.update u)
  /-- The run that holds the task is cancelled. -/
  | cancel {other : TaskKey} (h : s.server.CancelsRun id key other) :
      WritesTo id key s (.cancel other) (.update Server.cancelUpdate)
  /-- Every run is cancelled, and among them the one that holds the task. -/
  | cancelAll (h : s.server.CancelsRuns id key s.server.ledger.keys) :
      WritesTo id key s .cancelAll (.update Server.cancelUpdate)

variable {s : Schedule} {id : StoreId} {key : TaskKey} {m : Move} {t t' : Task}

/-- **Step lemma.**  A move drops the task, or does to it what it writes and nothing else. -/
theorem edits_move (hid : id < s.server.stores.length) (hm : ¬ Supplants id key s m) :
    Server.Edits id key (WritesTo id key s m) s.server (s.move m).server := by
  cases m with
  | operate o =>
    by_cases huse : ∃ p, o = .useStore id p
    · obtain ⟨p, rfl⟩ := huse
      refine (Server.edits_useStore hid fun hkept => hm ⟨p, rfl, hkept⟩).congr fun w => ?_
      constructor
      · intro hwrite
        cases hwrite with
        | operate hw => exact hw
      · exact .operate
    -- any other operation only makes sessions, drops them, or drops tasks
    · refine (Server.spares_perform hid fun p hp => absurd ⟨p, hp⟩ huse).edits fun w hw => ?_
      cases hw
      exact huse ⟨_, rfl⟩
  | ask other =>
    refine (Server.Spares.of_store rfl).edits fun w hw => ?_
    cases hw
  | cancel other =>
    refine (Server.edits_cancelRun hid other).congr fun w => ?_
    constructor
    · intro hwrite
      cases hwrite with
      | cancel h => exact ⟨h, rfl⟩
    · rintro ⟨h, rfl⟩
      exact .cancel h
  | cancelAll =>
    refine (Server.edits_cancelRuns _ hid).congr fun w => ?_
    constructor
    · intro hwrite
      cases hwrite with
      | cancelAll h => exact ⟨h, rfl⟩
    · rintro ⟨h, rfl⟩
      exact .cancelAll h
  | step n a =>
    cases hr : s.runs[n]? with
    | none =>
      have hmove : s.move (.step n a) = s := by simp only [move, hr]
      rw [hmove]
      refine (Server.Spares.of_store rfl).edits fun w hw => ?_
      cases hw with
      | step hr' =>
        rw [hr] at hr'
        cases hr'
    | some r =>
      rw [move_step hr]
      refine (r.edits_step n hid a).congr fun w => ?_
      constructor
      · intro hwrite
        cases hwrite with
        | step hr' hu hlive hkey hleads =>
          rw [hr] at hr'
          cases hr'
          exact ⟨hlive, ⟨hkey, hleads⟩, _, hu, rfl⟩
      · rintro ⟨hlive, ⟨hkey, hleads⟩, u, hu, rfl⟩
        exact .step hr hu hlive hkey hleads

end Schedule

end SessionTasks
