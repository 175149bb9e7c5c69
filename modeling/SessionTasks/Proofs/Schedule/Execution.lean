/-
# The outcome of an execution

The work of a run is any sequence of reports that ends in one of three ways.  While the session of
the task stays live and nothing else touches the task, what the run leaves of the task is told by
the reports and the end alone.

* `Schedule.Touches` : what must not happen beside the run;
* `Schedule.Stands.begin`, `Schedule.Stands.report`, `Schedule.Stands.finish`,
  `Schedule.Stands.cancel` : what one step of the run, or its cancellation, does to its task;
* `Schedule.executes` : the task as the work gets it, after every report, and at the end.
-/
import SessionTasks.Proofs.Schedule.Overwriting
namespace SessionTasks

/-! ## Executions -/

/-- What the work of a run reports. -/
structure Report where
  /-- How much is done, in percent. -/
  progress : Binary64
  /-- The name of the step the work is at. -/
  step : Option String
  /-- What that step does. -/
  description : Option String

/-- How the work of a run ends. -/
inductive WorkEnd where
  /-- It returns. -/
  | returned
  /-- It fails. -/
  | failed (f : Failure)
  /-- It breaks off with a text. -/
  | panicked (text : String)

/-- What the call of a run hears of the end of its work. -/
def WorkEnd.outcome (n : RunId) : WorkEnd → Except Failure Unit
  | .returned => .ok ()
  | .failed f => .error f
  | .panicked text => .error (.executorPanicked n text)

/-- How far an execution has come since its work began. -/
inductive Phase where
  /-- The work has made some reports. -/
  | working (reports : List Report)
  /-- The work has ended after them. -/
  | ending (reports : List Report) (e : WorkEnd)
  /-- The call has ended too. -/
  | ended (reports : List Report) (e : WorkEnd)

/-- The step that makes a report. -/
def Report.act (r : Report) : RunStep := .report r.progress r.step r.description

/-- The steps that the run has taken since its work began. -/
def Phase.steps (n : RunId) : Phase → List RunStep
  | .working reports => reports.map Report.act
  | .ending reports e => reports.map Report.act ++ [.endWork (e.outcome n)]
  | .ended reports e => reports.map Report.act ++ [.endWork (e.outcome n), .finish]

/-! ## The task in an execution -/

namespace Task

/-- The task as its work gets it, when that begins at the time `now`. -/
def started (t : Task) (now : Int64) : Task :=
  { t with
    status := .running
    progress := .zero
    startedAt := some (t.startedAt.getD now)
    updatedAt := now }

/-- The task after some reports of work that has begun at the time `began`. -/
def reported (t : Task) (began : Int64) (reports : List Report) (now : Int64) : Task :=
  { t.started began with
    progress := (reports.getLast?.map fun r => r.progress.clampPercent).getD .zero
    currentStep := (reports.filterMap Report.step).getLast?.or t.currentStep
    currentStepDescription :=
      (reports.filterMap Report.description).getLast?.or t.currentStepDescription
    updatedAt := now }

/-- The task at the end of a run. -/
def ended (t : Task) (now : Int64) : Except Failure Unit → Task
  | .ok () =>
    { t with
      status := .completed
      progress := .hundred
      completedAt := some (t.completedAt.getD now)
      updatedAt := now }
  | .error f => { t with status := .failed, error := some f.message, updatedAt := now }

/-- The task when its run is cancelled. -/
def stopped (t : Task) (now : Int64) : Task := { t with status := .cancelled, updatedAt := now }

end Task

namespace Phase

/-- The task `t` as it is stored in a phase, when it last changed at the time `now`. -/
def stored (n : RunId) (t : Task) (began now : Int64) : Phase → Task
  | .working reports | .ending reports _ => t.reported began reports now
  | .ended reports e => (t.reported began reports now).ended now (e.outcome n)

/-- The task as the work has got it, while it is at work. -/
def given (t : Task) (began : Int64) : Phase → Option Task
  | .working _ => some (t.started began)
  | .ending _ _ | .ended _ _ => none

/-- Where the call is. -/
def stage (n : RunId) : Phase → Stage
  | .working _ => .working
  | .ending _ e => .ending (e.outcome n)
  | .ended _ _ => .over

/-- The run that holds the task. -/
def holder (n : RunId) : Phase → Option RunId
  | .working _ | .ending _ _ => some n
  | .ended _ _ => none

end Phase

/-- The last value that is given, with one more. -/
theorem getLast?_filterMap_concat {α β : Type} (f : α → Option β) (l : List α) (a : α) :
    ((l ++ [a]).filterMap f).getLast? = (f a).or (l.filterMap f).getLast? := by
  rw [List.filterMap_append]
  cases hf : f a with
  | none => simp [hf]
  | some b => simp [hf]

theorem startUpdate_apply (t : Task) (now : Int64) :
    Server.startUpdate.apply t now = t.started now := by
  have hzero : Binary64.zero.clampPercent = .zero := by decide +kernel
  unfold Server.startUpdate TaskUpdate.apply TaskUpdate.stampStatus Task.started
  simp [hzero]

/-- The task as its work gets it is the task after no reports. -/
theorem reported_nil (t : Task) (began : Int64) : t.reported began [] began = t.started began := by
  simp [Task.reported, Task.started]

theorem reported_concat (t : Task) (began before now : Int64) (reports : List Report) (r : Report) :
    TaskUpdate.apply
        { progress := some r.progress, currentStep := r.step,
          currentStepDescription := r.description }
        (t.reported began reports before) now =
      t.reported began (reports ++ [r]) now := by
  unfold Task.reported
  rw [getLast?_filterMap_concat, getLast?_filterMap_concat, List.getLast?_concat]
  unfold TaskUpdate.apply Task.started
  simp [Option.or_assoc]

theorem endUpdate_apply (t : Task) (now : Int64) (outcome : Except Failure Unit) :
    (Server.endUpdate outcome).apply t now = t.ended now outcome := by
  have hhundred : Binary64.hundred.clampPercent = .hundred := by decide +kernel
  cases outcome with
  | ok value => simp [Server.endUpdate, TaskUpdate.apply, TaskUpdate.stampStatus, Task.ended, hhundred]
  | error f => simp [Server.endUpdate, TaskUpdate.apply, TaskUpdate.stampStatus, Task.ended]

/-! ## One write of a run -/

namespace Server

variable {s : Server} {key : TaskKey} {session : Session} {t : Task}

/-- The store of a live session, that the session is looked up for. -/
theorem lookup_of_live (hlive : s.pool.IsLive s.now key.session session) :
    (s.lookup key.session).1 = ⟨key.session, session.store, false⟩ ∧
      (s.lookup key.session).2 = { s with
        pool := { s.pool with
          turns := s.pool.nextTurn
          sessions := s.pool.sessions.insert key.session.text
            { session with lastAccess := s.now, turn := s.pool.nextTurn } } } := by
  have hpair := SessionPool.lookup_of_live hlive.1 hlive.2 s.stores.length
  unfold lookup
  rw [hpair]
  exact ⟨rfl, rfl⟩

/-- A write looks the session up, and so it stays live. -/
theorem isLive_writeUpdate (hlive : s.pool.IsLive s.now key.session session) (u : TaskUpdate) :
    (s.writeUpdate key u).2.pool.IsLive (s.writeUpdate key u).2.now key.session
      { session with lastAccess := s.now, turn := s.pool.nextTurn } := by
  rw [writeUpdate_snd, (lookup_of_live hlive).2]
  constructor
  · show SessionPool.find? { s.pool with
      turns := s.pool.nextTurn
      sessions := s.pool.sessions.insert key.session.text _ } key.session = _
    rw [SessionPool.find?_insert, if_pos rfl]
  · show decide (s.pool.settings.timeout.toNat < s.now - s.now) = false
    simp

/-- **A write to a task of a live session** changes the task as it says, and gives it back. -/
theorem writeUpdate_of_live (hid : session.store < s.stores.length)
    (hlive : s.pool.IsLive s.now key.session session) {u : TaskUpdate}
    (ht : (s.store session.store).task key.session key.task = .ok t)
    (hfinite : (u.apply t s.clock).progress.isFinite = true) :
    (s.writeUpdate key u).1 = .ok (u.apply t s.clock) ∧
      ((s.writeUpdate key u).2.store session.store).task key.session key.task =
        .ok (u.apply t s.clock) := by
  have hpreserves := u.preserves_apply s.clock
  obtain ⟨hfst, hsnd⟩ := lookup_of_live hlive
  constructor
  · show (((s.lookup key.session).2.store (s.lookup key.session).1.store).modifyTask
      (s.lookup key.session).1.key key.task
        fun task => u.apply task (s.lookup key.session).2.clock).1 = _
    rw [hfst, hsnd]
    obtain ⟨_, -, -, hafter⟩ := Store.modifyTask_eq_of_task hpreserves ht hfinite
    exact congrArg Prod.fst hafter
  · rw [store_writeUpdate hid, hfst, if_pos rfl]
    exact Store.task_modifyTask_self hpreserves ht hfinite

end Server

/-! ## Where an execution stands -/

namespace Schedule

/-- The session is live and has the store. -/
def LiveIn (s : Schedule) (session : SessionKey) (id : StoreId) : Prop :=
  ∃ x ∈ s.server.pool.find? session,
    s.server.pool.isExpired s.server.now x = false ∧ x.store = id

instance (s : Schedule) (session : SessionKey) (id : StoreId) : Decidable (s.LiveIn session id) :=
  inferInstanceAs (Decidable (∃ x ∈ s.server.pool.find? session,
    s.server.pool.isExpired s.server.now x = false ∧ x.store = id))

/-- The move is no step of the run, and the session goes or changes its store, the task changes, or
another run holds the task from now on or none. -/
def Touches (n : RunId) (key : TaskKey) (id : StoreId) (s : Schedule) (m : Move) : Prop :=
  (∀ a, m ≠ .step n a) ∧
    ¬ ((s.move m).LiveIn key.session id ∧
      ((s.move m).server.store id).task key.session key.task =
        (s.server.store id).task key.session key.task ∧
      (s.move m).server.ledger.holder? key = s.server.ledger.holder? key)

/-- How the call of the run stands, what its work was given, which run holds the task, and what
the task is. -/
structure Stands (n : RunId) (key : TaskKey) (id : StoreId) (stage : Stage) (given : Option Task)
    (holder : Option RunId) (t : Task) (s : Schedule) : Prop where
  /-- The session of the task has its store still. -/
  live : s.LiveIn key.session id
  run : s.runs[n]? = some { key, stage, task := given }
  holder : s.server.ledger.holder? key = holder
  /-- The task as it is stored. -/
  stored : (s.server.store id).task key.session key.task = .ok t

/-- The steps that a run takes among some moves. -/
def ownSteps (n : RunId) (moves : List Move) : List RunStep :=
  moves.filterMap fun
    | .step k a => if k = n then some a else none
    | _ => none

variable {s : Schedule} {n : RunId} {key : TaskKey} {id : StoreId} {stage : Stage}
  {given : Option Task} {holder : Option RunId} {t : Task} {m : Move}

/-- A move that is no step of a run leaves the run as it is. -/
theorem runs_move_of_ne (hm : ∀ a, m ≠ .step n a) {r : RunState} (hr : s.runs[n]? = some r) :
    (s.move m).runs[n]? = some r := by
  cases m with
  | ask other => exact getElem?_concat_eq_some_iff.2 (Or.inl hr)
  | step k a =>
    have hkn : k ≠ n := fun h => hm a (by rw [h])
    cases hk : s.runs[k]? with
    | none => simpa only [move, hk] using hr
    | some q =>
      rw [move_step hk, List.getElem?_set_ne hkn]
      exact hr
  | _ => exact hr

/-- What does not touch the task leaves its execution where it is. -/
theorem Stands.aside (h : s.Stands n key id stage given holder t) (hm : ∀ a, m ≠ .step n a)
    (hquiet : ¬ s.Touches n key id m) : (s.move m).Stands n key id stage given holder t := by
  have hleft := Classical.not_not.1 fun hc => hquiet ⟨hm, hc⟩
  exact ⟨hleft.1, runs_move_of_ne hm h.run, hleft.2.2.trans h.holder, hleft.2.1.trans h.stored⟩

/-! ## The steps of an execution -/

/-- A step of the run itself. -/
theorem Stands.own (h : s.Stands n key id stage given holder t) {a : RunStep} {after : Server}
    {stage' : Stage} {given' : Option Task} {holder' : Option RunId} {t' : Task}
    (hstep : RunState.step { key, stage, task := given } n s.server a =
      (after, { key, stage := stage', task := given' }))
    (hlive : ∃ x ∈ after.pool.find? key.session,
      after.pool.isExpired after.now x = false ∧ x.store = id)
    (hholder : after.ledger.holder? key = holder')
    (hstored : (after.store id).task key.session key.task = .ok t') :
    (s.move (.step n a)).Stands n key id stage' given' holder' t' := by
  rw [move_step h.run, hstep]
  exact ⟨hlive, List.getElem?_set_self (List.getElem?_eq_some_iff.1 h.run).1, hholder, hstored⟩

/-- The run takes the task. -/
theorem Stands.accept (h : s.Stands n key id .asked none none t) :
    (s.move (.step n .accept)).Stands n key id .holding none (some n) t := by
  have hstep : RunState.step { key, stage := .asked, task := none } n s.server .accept =
      ({ s.server with ledger :=
        { s.server.ledger with holders := (key, n) :: s.server.ledger.holders } },
        { key, stage := .holding, task := none }) := by
    unfold RunState.step Server.accept?
    dsimp only
    rw [h.holder]
  refine h.own hstep h.live ?_ h.stored
  show RunLedger.holder? { s.server.ledger with holders := (key, n) :: s.server.ledger.holders }
    key = some n
  rw [RunLedger.holder?_cons, if_pos rfl]

/-- A run that holds a task was not cancelled. -/
theorem Stands.isCancelled (h : s.Stands n key id stage given (some n) t)
    (hexact : s.server.ledger.Exact s.runs) : s.server.ledger.isCancelled n = false := by
  obtain ⟨-, -, -, -, hc⟩ := (hexact.holder_iff key n).1 h.holder
  rw [← Bool.not_eq_true, RunLedger.isCancelled_iff]
  exact hc

/-- The store of the session is there. -/
theorem Stands.made (h : s.Stands n key id stage given holder t) (hapart : s.server.Apart) :
    id < s.server.stores.length := by
  obtain ⟨x, hx, -, rfl⟩ := h.live
  exact hapart.made key.session x hx

/-- A write of the run for its task. -/
theorem Stands.writeUpdate (h : s.Stands n key id stage given holder t) (hapart : s.server.Apart)
    {u : TaskUpdate} (hfinite : (u.apply t s.server.clock).progress.isFinite = true) :
    (s.server.writeUpdate key u).1 = .ok (u.apply t s.server.clock) ∧
      (∃ x ∈ (s.server.writeUpdate key u).2.pool.find? key.session,
        (s.server.writeUpdate key u).2.pool.isExpired (s.server.writeUpdate key u).2.now x = false ∧
          x.store = id) ∧
      ((s.server.writeUpdate key u).2.store id).task key.session key.task =
        .ok (u.apply t s.server.clock) := by
  have hid := h.made hapart
  obtain ⟨x, hx, hidle, rfl⟩ := h.live
  obtain ⟨hresult, hstored⟩ := Server.writeUpdate_of_live hid ⟨hx, hidle⟩ h.stored hfinite
  obtain ⟨hfound, hfresh⟩ := Server.isLive_writeUpdate ⟨hx, hidle⟩ u
  exact ⟨hresult, ⟨_, hfound, hfresh, rfl⟩, hstored⟩

/-- The write that starts a run. -/
theorem Stands.writeStart (h : s.Stands n key id stage given holder t) (hapart : s.server.Apart) :
    (s.server.writeUpdate key Server.startUpdate).1 = .ok (t.started s.server.clock) ∧
      (∃ x ∈ (s.server.writeUpdate key Server.startUpdate).2.pool.find? key.session,
        (s.server.writeUpdate key Server.startUpdate).2.pool.isExpired
          (s.server.writeUpdate key Server.startUpdate).2.now x = false ∧ x.store = id) ∧
      ((s.server.writeUpdate key Server.startUpdate).2.store id).task key.session key.task =
        .ok (t.started s.server.clock) := by
  have hzero : Binary64.zero.isFinite = true := by decide +kernel
  rw [← startUpdate_apply]
  refine h.writeUpdate hapart ?_
  rw [startUpdate_apply]
  exact hzero

/-- A run that was not cancelled starts. -/
theorem Stands.begin_eq (h : s.Stands n key id .holding none (some n) t)
    (hexact : s.server.ledger.Exact s.runs) (hapart : s.server.Apart) :
    s.server.begin key n =
      (.ok (some (t.started s.server.clock)), (s.server.writeUpdate key Server.startUpdate).2) := by
  obtain ⟨hresult, -, -⟩ := h.writeStart hapart
  unfold Server.begin
  rw [h.isCancelled hexact]
  simp [hresult, Except.map]

/-- **The work begins**, and gets the task as it is stored now. -/
theorem Stands.begin (h : s.Stands n key id .holding none (some n) t)
    (hexact : s.server.ledger.Exact s.runs) (hapart : s.server.Apart) :
    (s.move (.step n .begin)).Stands n key id .working (some (t.started s.server.clock)) (some n)
      (t.started s.server.clock) := by
  obtain ⟨-, hlive, hstored⟩ := h.writeStart hapart
  refine h.own (by unfold RunState.step; dsimp only; rw [h.begin_eq hexact hapart]) hlive ?_ hstored
  rw [Server.writeUpdate_ledger]
  exact h.holder

/-- **The work reports.** -/
theorem Stands.report {began before : Int64} {reports : List Report}
    (h : s.Stands n key id .working (some (t.started began)) (some n)
      (t.reported began reports before))
    (hexact : s.server.ledger.Exact s.runs) (hapart : s.server.Apart) (r : Report) :
    (s.move (.step n r.act)).Stands n key id .working (some (t.started began)) (some n)
      (t.reported began (reports ++ [r]) s.server.clock) := by
  have hreported := reported_concat t began before s.server.clock reports r
  obtain ⟨-, hlive, hstored⟩ := h.writeUpdate hapart
    (u := { progress := some r.progress, currentStep := r.step,
            currentStepDescription := r.description })
    (r.progress.isFinite_clampPercent)
  rw [hreported] at hstored
  refine h.own (a := r.act) (by
    unfold Report.act RunState.step Server.report
    rw [h.isCancelled hexact]
    rfl) hlive ?_ hstored
  rw [Server.writeUpdate_ledger]
  exact h.holder

/-- The work ends, and the call hears of it. -/
theorem Stands.endWork {task : Task} (h : s.Stands n key id .working (some task) holder t)
    (outcome : Except Failure Unit) :
    (s.move (.step n (.endWork outcome))).Stands n key id (.ending outcome) none holder t :=
  h.own rfl h.live h.holder h.stored

/-- **The call ends**, and lets go of the task. -/
theorem Stands.finish {outcome : Except Failure Unit}
    (h : s.Stands n key id (.ending outcome) none (some n) t)
    (hfinite : t.progress.isFinite = true)
    (hexact : s.server.ledger.Exact s.runs) (hapart : s.server.Apart) :
    (s.move (.step n .finish)).Stands n key id .over none none
      (t.ended s.server.clock outcome) := by
  -- the run lets go of the task before it writes
  have hfree : (s.server.giveUp key n).ledger.holder? key = none := by
    rw [Option.eq_none_iff_forall_ne_some]
    intro m hm
    obtain ⟨hheld, hne⟩ := (RunLedger.holder?_release_eq_some_iff ..).1 hm
    rw [h.holder] at hheld
    exact hne ⟨rfl, (Option.some.inj hheld).symm⟩
  have hreleased : Stands n key id (.ending outcome) none none t
      { s with server := s.server.giveUp key n } :=
    ⟨h.live, h.run, hfree, h.stored⟩
  have hc : (s.server.giveUp key n).ledger.isCancelled n = false := by
    rw [← h.isCancelled hexact]
    unfold RunLedger.isCancelled
    rw [show (s.server.giveUp key n).ledger.cancelled = s.server.ledger.cancelled from
      RunLedger.release_cancelled _ _ _]
  obtain ⟨-, hlive, hstored⟩ := hreleased.writeUpdate ((s.server.keeps_giveUp key n).apart hapart)
    ((Server.endUpdate outcome).isFinite_apply hfinite _)
  rw [endUpdate_apply] at hstored
  have hfinish : s.server.finish key n outcome =
      ((s.server.giveUp key n).writeUpdate key (Server.endUpdate outcome)).2 := by
    show (if (s.server.giveUp key n).ledger.isCancelled n then s.server.giveUp key n else _) = _
    rw [hc]
    rfl
  refine h.own (by unfold RunState.step; dsimp only; rw [hfinish]) hlive ?_ hstored
  rw [Server.writeUpdate_ledger]
  exact hfree

/-- **The run is cancelled**, and lets go of the task. -/
theorem Stands.cancel (h : s.Stands n key id stage given (some n) t)
    (hfinite : t.progress.isFinite = true) (hapart : s.server.Apart) :
    (s.move (.cancel key)).Stands n key id stage given none (t.stopped s.server.clock) := by
  have hkeeps : s.server.Keeps (s.server.markCancelled key n) := .of_pool rfl le_rfl
  have hmarked : Stands n key id stage given ((s.server.markCancelled key n).ledger.holder? key) t
      { s with server := s.server.markCancelled key n } :=
    ⟨h.live, h.run, rfl, h.stored⟩
  obtain ⟨-, hlive, hstored⟩ := hmarked.writeUpdate (u := { status := some .cancelled })
    (hkeeps.apart hapart) hfinite
  have hcancel : (s.server.cancelRun key).2 =
      ((s.server.markCancelled key n).writeUpdate key { status := some .cancelled }).2 := by
    unfold Server.cancelRun
    rw [h.holder]
  rw [← hcancel] at hlive hstored
  exact ⟨hlive, h.run, Server.holder?_cancelRun_self s.server key, hstored⟩

/-- What a run has reported is a percentage. -/
theorem isFinite_reported (t : Task) (began now : Int64) (reports : List Report) :
    (t.reported began reports now).progress.isFinite = true := by
  have hzero : Binary64.zero.isFinite = true := by decide +kernel
  unfold Task.reported
  dsimp only
  cases reports.getLast? with
  | none => exact hzero
  | some r => exact r.progress.isFinite_clampPercent

/-! ## Whole executions -/

theorem ownSteps_concat (n : RunId) (moves : List Move) (m : Move) :
    ownSteps n (moves ++ [m]) = ownSteps n moves ++ ownSteps n [m] :=
  List.filterMap_append ..

theorem ownSteps_self (n : RunId) (a : RunStep) : ownSteps n [.step n a] = [a] := by
  simp [ownSteps]

theorem ownSteps_of_ne (hm : ∀ a, m ≠ .step n a) : ownSteps n [m] = [] := by
  cases m with
  | step k a =>
    have hkn : k ≠ n := fun h => hm a (by rw [h])
    simp [ownSteps, hkn]
  | _ => rfl

/-- **Run lemma, before the work begins.**  The run is asked for, or has taken its task. -/
theorem Stands.play_asked (h : s.Stands n key id .asked none none t) {moves : List Move}
    (hquiet : ¬ s.Happens (Touches n key id) moves) :
    (ownSteps n moves = [] → (s.play moves).Stands n key id .asked none none t) ∧
      (ownSteps n moves = [.accept] →
        (s.play moves).Stands n key id .holding none (some n) t) := by
  induction moves using List.reverseRecOn with
  | nil => exact ⟨fun _ => h, fun hown => by cases hown⟩
  | append_singleton moves m ih =>
    rw [happens_concat_iff, not_or] at hquiet
    obtain ⟨hasked, hholding⟩ := ih hquiet.1
    rw [ownSteps_concat, play_concat]
    by_cases hm : ∃ a, m = .step n a
    · obtain ⟨a, rfl⟩ := hm
      rw [ownSteps_self]
      constructor
      · intro hown
        exact absurd (List.append_eq_nil_iff.1 hown).2 (by simp)
      · intro hown
        have hsplit : ownSteps n moves ++ [a] = [] ++ [.accept] := hown
        obtain ⟨hbefore, hlast⟩ := List.append_inj' hsplit rfl
        cases hlast
        exact (hasked hbefore).accept
    · have hne : ∀ a, m ≠ .step n a := fun a ha => hm ⟨a, ha⟩
      rw [ownSteps_of_ne hne, List.append_nil]
      exact ⟨fun hown => (hasked hown).aside hne hquiet.2,
        fun hown => (hholding hown).aside hne hquiet.2⟩

/-- The reports of an execution that has just made one. -/
theorem reports_of_concat {reports : List Report} {acts : List RunStep} {a : RunStep}
    (h : acts ++ [a] = reports.map Report.act) :
    ∃ before r, reports = before ++ [r] ∧ acts = before.map Report.act ∧ a = r.act := by
  obtain ⟨before, last, rfl, hbefore, hlast⟩ := List.map_eq_append_iff.1 h.symm
  obtain ⟨r, rfl, rfl⟩ := List.map_eq_singleton_iff.1 hlast
  exact ⟨before, r, rfl, hbefore.symm, rfl⟩

/-- **Run lemma, once the work has begun.**  The reports and the end of the work tell what the task
is. -/
theorem Stands.play_begun {began : Int64}
    (h : s.Stands n key id .working (some (t.started began)) (some n) (t.started began))
    (hexact : s.server.ledger.Exact s.runs) (hapart : s.server.Apart) {moves : List Move}
    (hquiet : ¬ s.Happens (Touches n key id) moves) {phase : Phase}
    (hown : ownSteps n moves = phase.steps n) :
    ∃ now, (ownSteps n moves = [] → now = began) ∧
      (s.play moves).Stands n key id (phase.stage n) (phase.given t began) (phase.holder n)
        (phase.stored n t began now) := by
  induction moves using List.reverseRecOn generalizing phase with
  | nil =>
    cases phase with
    | working reports =>
      cases List.map_eq_nil_iff.1 hown.symm
      refine ⟨began, fun _ => rfl, ?_⟩
      show Stands n key id .working (some (t.started began)) (some n) (t.reported began [] began) s
      rw [reported_nil]
      exact h
    | ending reports e => exact absurd hown (by simp [ownSteps, Phase.steps])
    | ended reports e => exact absurd hown (by simp [ownSteps, Phase.steps])
  | append_singleton moves m ih =>
    rw [happens_concat_iff, not_or] at hquiet
    rw [ownSteps_concat] at hown ⊢
    rw [play_concat]
    -- a step of the run takes it to its next phase; any other move leaves it in its phase
    by_cases hm : ∃ a, m = .step n a
    · obtain ⟨a, rfl⟩ := hm
      rw [ownSteps_self] at hown ⊢
      have hstepped (now : Int64) : ownSteps n moves ++ [a] = [] → now = began := fun hnil =>
        absurd (List.append_eq_nil_iff.1 hnil).2 (by simp)
      have hexact := exact_play hexact moves
      have hapart := apart_play hapart moves
      cases phase with
      | working reports =>
        obtain ⟨before, r, rfl, hbefore, rfl⟩ := reports_of_concat hown
        obtain ⟨now, -, hnow⟩ := ih hquiet.1
          (show _ = (Phase.working before).steps n from hbefore)
        exact ⟨_, hstepped _, hnow.report hexact hapart r⟩
      | ending reports e =>
        obtain ⟨hbefore, hlast⟩ := List.append_inj' hown rfl
        cases hlast
        obtain ⟨now, -, hnow⟩ := ih hquiet.1
          (show _ = (Phase.working reports).steps n from hbefore)
        exact ⟨now, hstepped now, hnow.endWork (e.outcome n)⟩
      | ended reports e =>
        have hsplit : ownSteps n moves ++ [a] =
            (reports.map Report.act ++ [.endWork (e.outcome n)]) ++ [.finish] := by
          rw [hown]
          simp [Phase.steps]
        obtain ⟨hbefore, hlast⟩ := List.append_inj' hsplit rfl
        cases hlast
        obtain ⟨now, -, hnow⟩ := ih hquiet.1
          (show _ = (Phase.ending reports e).steps n from hbefore)
        exact ⟨(s.play moves).server.clock, hstepped _,
          hnow.finish (isFinite_reported t began now reports) hexact hapart⟩
    · have hne : ∀ a, m ≠ .step n a := fun a ha => hm ⟨a, ha⟩
      rw [ownSteps_of_ne hne, List.append_nil] at hown ⊢
      obtain ⟨now, hbegan, hnow⟩ := ih hquiet.1 hown
      exact ⟨now, hbegan, hnow.aside hne hquiet.2⟩

/-- **The outcome of an execution.**  A run of a stored task is asked for while no run holds the
task and its session is live, and until its end nothing else touches the task.  After every report
and at the end the task is what the reports and the end of the work tell. -/
theorem executes {c : Config} {epoch issued : Nat} {files : FileTree} {server : Server}
    (hs : Server.ofConfig c epoch files issued = .ok server) (before : List Move)
    (h : ((ofServer server).play before).Stands n key id .asked none none t) {pre post : List Move}
    (hquiet : ¬ ((ofServer server).play before).Happens (Touches n key id)
      (pre ++ .step n .begin :: post))
    (hpre : ownSteps n pre = [.accept]) {phase : Phase} (hpost : ownSteps n post = phase.steps n) :
    ∃ now, (ownSteps n post = [] → now = ((ofServer server).play (before ++ pre)).server.clock) ∧
      ((ofServer server).play (before ++ (pre ++ .step n .begin :: post))).Stands n key id
        (phase.stage n) (phase.given t ((ofServer server).play (before ++ pre)).server.clock)
        (phase.holder n)
        (phase.stored n t ((ofServer server).play (before ++ pre)).server.clock now) := by
  rw [play_append, play_append, play_append, play_cons]
  have hexact := exact_of_ofConfig hs before
  have hapart := apart_play (s := ofServer server) (Server.apart_ofConfig hs) before
  generalize (ofServer server).play before = s at h hquiet hexact hapart ⊢
  rw [happens_append, Happens, not_or, not_or] at hquiet
  have hholding := (h.play_asked hquiet.1).2 hpre
  have hexact := exact_play hexact pre
  have hapart := apart_play hapart pre
  exact (hholding.begin hexact hapart).play_begun (exact_move hexact _) (apart_move hapart _)
    hquiet.2.2 hpost

/-- A run is asked for of a task that was created just before. -/
def sampleAsked : List Move :=
  [.operate (.lookup "a"), .operate (.useStore 0 (.createTask (.sanitize "a") { name := "t" })),
    .ask sampleTask]

/-- The work of the first run reports twice, and breaks off; meanwhile the clock goes on and
another session is looked up. -/
def sampleWork : List Move :=
  [.step 0 (.report .hundred (some "s") none), .operate (.setClock 5), .operate (.lookup "b"),
    .step 0 (.report .zero none (some "d")), .step 0 (.endWork (.error (.executorPanicked 0 "p"))),
    .step 0 .finish]

/-- The reports of this work, and its end. -/
def samplePhase : Phase :=
  .ended [⟨.hundred, some "s", none⟩, ⟨.zero, none, some "d"⟩] (.panicked "p")

theorem stands_sampleAsked :
    ((ofServer sampleServer).play sampleAsked).Stands 0 sampleTask 0 .asked none none
      (TaskDraft.start { name := "t" } (identifier 1) (.sanitize "a") 0) :=
  ⟨by decide +kernel, rfl, by decide +kernel, by decide +kernel⟩

theorem executes_first :
    Server.ofConfig {} 0 .empty 0 = .ok sampleServer ∧
      ((ofServer sampleServer).play sampleAsked).Stands 0 sampleTask 0 .asked none none
        (TaskDraft.start { name := "t" } (identifier 1) (.sanitize "a") 0) ∧
      ∃ now, ((ofServer sampleServer).play
        (sampleAsked ++ ([.step 0 .accept] ++ .step 0 .begin :: sampleWork))).Stands 0 sampleTask 0
        .over none none
        (samplePhase.stored 0
          (TaskDraft.start { name := "t" } (identifier 1) (.sanitize "a") 0) 0 now) := by
  have hquiet : ¬ ((ofServer sampleServer).play sampleAsked).Happens (Touches 0 sampleTask 0)
      ([.step 0 .accept] ++ .step 0 .begin :: sampleWork) := by
    have hown : ∀ s a, ¬ Touches 0 sampleTask 0 s (.step 0 a) := fun s a h => h.1 a rfl
    simp only [sampleWork, List.cons_append, List.nil_append, Happens, hown, false_or, or_false,
      not_or]
    exact ⟨fun h => h.2 (by decide +kernel), fun h => h.2 (by decide +kernel)⟩
  have hclock : ((ofServer sampleServer).play (sampleAsked ++ [.step 0 .accept])).server.clock = 0 := by
    decide +kernel
  have hpost : ownSteps 0 sampleWork = samplePhase.steps 0 := rfl
  obtain ⟨now, -, hstands⟩ :=
    executes ofConfig_sampleServer sampleAsked stands_sampleAsked hquiet rfl hpost
  rw [hclock] at hstands
  exact ⟨ofConfig_sampleServer, stands_sampleAsked, now, hstands⟩

end Schedule

end SessionTasks
