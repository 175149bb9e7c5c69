/-
# Plans

The work of a plan looks whether it was cancelled, reports a step and pauses, step after step.
While nothing else touches its task, what is stored of the task at every turn is the state at some
step of the plan: the steps come in their order, each once, and none is left out.  Once the run is
cancelled the task stays as it was then.

* `PlannedRun.Reaches` : where the run is after some turns;
* `PlannedRun.Reaches.turn`, `PlannedRun.Reaches.turn_cancelled` : what a turn does;
* `PlannedRun.completes`, `PlannedRun.stops` : runs that no one cancels, and that are cancelled;
* `PlannedRun.unfolds` : both, of every plan that is asked for in a timeline of a fresh server.
-/
import SessionTasks.Proofs.Timeline.Turns
namespace SessionTasks

/-! ## The work of a plan -/

/-- What the work reports of a step. -/
def PlannedStep.report (s : PlannedStep) : Report := ⟨s.progress, some s.name, some s.description⟩

namespace Work

/-- The work that is left when some of its actions are done. -/
def after (w : Work) (done : Nat) : Work := { w with actions := w.actions.drop done }

variable {steps : List PlannedStep} {done : Nat}

/-- Every step of a plan is three actions. -/
theorem length_flatMap_actions (steps : List PlannedStep) (pause : Nat) :
    (steps.flatMap (·.actions pause)).length = 3 * steps.length := by
  induction steps with
  | nil => rfl
  | cons s rest ih =>
    rw [List.flatMap_cons, List.length_append, ih, List.length_cons]
    show 3 + _ = _
    omega

/-- Each step has three actions in its turn. -/
theorem getElem?_flatMap_actions (steps : List PlannedStep) (pause done : Nat) :
    (steps.flatMap (·.actions pause))[done]? =
      steps[done / 3]?.bind fun s => (s.actions pause)[done % 3]? := by
  induction steps generalizing done with
  | nil => rfl
  | cons s rest ih =>
    rw [List.flatMap_cons]
    by_cases hdone : done < 3
    · rw [List.getElem?_append_left hdone, Nat.div_eq_of_lt hdone, Nat.mod_eq_of_lt hdone]
      rfl
    · obtain ⟨k, rfl⟩ := Nat.exists_eq_add_of_le (Nat.le_of_not_lt hdone)
      rw [List.getElem?_append_right (Nat.le_add_right 3 k), Nat.add_div_left k (by decide),
        Nat.add_mod_left, List.getElem?_cons_succ, ← ih]
      show _[3 + k - 3]? = _
      rw [Nat.add_sub_cancel_left]

/-- The next action is one of the step at which the work is. -/
theorem next?_plan (milliseconds nanoseconds : Nat) (h : done < 3 * steps.length) :
    ∃ s a, steps[done / 3]? = some s ∧
      (s.actions (milliseconds * 1000000 + nanoseconds))[done % 3]? = some a ∧
      ((plan steps milliseconds nanoseconds).after done).next? =
        some (a, (plan steps milliseconds nanoseconds).after (done + 1)) := by
  rw [← length_flatMap_actions steps (milliseconds * 1000000 + nanoseconds)] at h
  have hget := List.getElem?_eq_getElem h
  rw [getElem?_flatMap_actions] at hget
  obtain ⟨s, hs, ha⟩ := Option.bind_eq_some_iff.1 hget
  refine ⟨s, _, hs, ha, ?_⟩
  unfold next? after plan
  rw [List.drop_eq_getElem_cons h]

/-- After the last step there is nothing left to do. -/
theorem next?_plan_of_le (milliseconds nanoseconds : Nat) (h : 3 * steps.length ≤ done) :
    ((plan steps milliseconds nanoseconds).after done).next? = none := by
  rw [← length_flatMap_actions steps (milliseconds * 1000000 + nanoseconds)] at h
  unfold next? after plan
  rw [List.drop_eq_nil_of_le h]

end Work

namespace Task

/-- The task of a plan that has begun at the time `began` and has come to a step, or to none. -/
def atStep (t : Task) (began written : Int64) : Option PlannedStep → Task
  | none => { t.started began with updatedAt := written }
  | some s =>
    { t.started began with
      progress := s.progress.clampPercent
      currentStep := some s.name
      currentStepDescription := some s.description
      updatedAt := written }

end Task

/-- Some reports leave the task at the last of their steps. -/
theorem reported_map_report (t : Task) (began written : Int64) (steps : List PlannedStep) :
    t.reported began (steps.map PlannedStep.report) written =
      t.atStep began written steps.getLast? := by
  unfold Task.reported
  induction steps using List.reverseRecOn with
  | nil => rfl
  | append_singleton steps s _ =>
    rw [List.map_append, List.map_singleton, getLast?_filterMap_concat, getLast?_filterMap_concat,
      List.getLast?_concat, List.getLast?_concat]
    rfl

/-- A task at a step has a progress that can be written. -/
theorem isFinite_atStep (t : Task) (began written : Int64) (s : Option PlannedStep) :
    (t.atStep began written s).progress.isFinite = true := by
  have hzero : Binary64.zero.isFinite = true := by decide +kernel
  cases s with
  | none => exact hzero
  | some s => exact s.progress.isFinite_clampPercent

/-- When a step was reported does not matter any more once the task has ended. -/
theorem ended_atStep (t : Task) (began before written now : Int64) (s : Option PlannedStep)
    (outcome : Except Failure Unit) :
    (t.atStep began before s).ended now outcome = (t.atStep began written s).ended now outcome := by
  cases s <;> cases outcome <;> rfl

/-- When a step was reported does not matter any more once the task was stopped. -/
theorem stopped_atStep (t : Task) (began before written now : Int64) (s : Option PlannedStep) :
    (t.atStep began before s).stopped now = (t.atStep began written s).stopped now := by
  cases s <;> rfl

/-! ## A run of a plan -/

/-- A run of a plan for a stored task. -/
structure PlannedRun where
  /-- The run. -/
  run : RunId
  /-- Its task. -/
  key : TaskKey
  /-- The store of the session. -/
  store : StoreId
  /-- The task as it is when the work begins. -/
  task : Task
  /-- The time at which the work begins. -/
  began : Int64
  /-- The steps of the plan. -/
  steps : List PlannedStep
  /-- How many milliseconds the work pauses after each step. -/
  milliseconds : Nat
  /-- How many nanoseconds it pauses beyond these. -/
  nanoseconds : Nat

namespace PlannedRun

/-- How many actions there are in the plan. -/
def length (p : PlannedRun) : Nat := 3 * p.steps.length

/-- The work that is asked for. -/
def work (p : PlannedRun) : Work := .plan p.steps p.milliseconds p.nanoseconds

/-- How many whole milliseconds pass until the pause after a step is over. -/
def pause (p : PlannedRun) : Nat :=
  (p.milliseconds * 1000000 + p.nanoseconds + 999999) / 1000000

/-- The run when its work has taken some turns. -/
def atWork (p : PlannedRun) (turns : Nat) : Run :=
  ⟨.working p.key, some ⟨p.key, p.task.started p.began, p.work.after turns⟩⟩

/-- The last step that was reported within some turns. -/
def reached (p : PlannedRun) (turns : Nat) : Option PlannedStep :=
  (p.steps.take ((turns + 1) / 3)).getLast?

/-- The task after some turns of a run that was not cancelled. -/
def stored (p : PlannedRun) (written : Int64) (turns : Nat) : Task :=
  if turns ≤ p.length + 1 then p.task.atStep p.began written (p.reached turns)
  else (p.task.atStep p.began written (p.reached turns)).ended written (.ok ())

/-- What the next turn of the work, of a run that was not cancelled, does to the server: the turn
after the first of three for each step reports it, and no other does anything. -/
def onServer (p : PlannedRun) (turns : Nat) (s : Server) : Server :=
  match if turns % 3 = 1 then p.steps[turns / 3]? else none with
  | some step => s.report p.key p.run step.progress (some step.name) (some step.description)
  | none => s

/-- The run that holds the task after some turns of a run that was not cancelled. -/
def holder (p : PlannedRun) (turns : Nat) : Option RunId :=
  if turns ≤ p.length + 1 then some p.run else none

/-- The turns after which the work looks next whether it was cancelled, or has nothing left to do,
when it has taken some. -/
def check (p : PlannedRun) (turns : Nat) : Nat := min (3 * ((turns + 2) / 3)) p.length

/-- How the work ends, if it was cancelled when it had taken some turns. -/
def verdict (p : PlannedRun) (turns : Nat) : Except Failure Unit :=
  if p.check turns < p.length then .error (.runCancelled "step plan" p.task.id) else .ok ()

/-- The task when the run is cancelled after some turns. -/
def stopped (p : PlannedRun) (now : Int64) (turns : Nat) : Task :=
  (p.task.atStep p.began now (p.reached turns)).stopped now

/-- Where the run is after some turns, if its work ends in the turn after the `last` one: when it
goes on, at the earliest. -/
inductive Reaches (p : PlannedRun) (last : Nat) (outcome : Except Failure Unit) (t : Timeline) :
    (turns due : Nat) → Prop
  /-- The work goes on. -/
  | working {turns due : Nat} (hturns : turns ≤ last)
      (h : t.Resumes p.run (p.atWork turns) due) : Reaches p last outcome t turns due
  /-- The work has ended, and the call is about to. -/
  | ending (h : t.At p.run [.call p.run] [] ⟨.ending p.key outcome, none⟩) :
      Reaches p last outcome t (last + 1) t.server.now
  /-- The call has ended. -/
  | ended (h : t.At p.run [] [] ⟨.over, none⟩) : Reaches p last outcome t (last + 2) t.server.now

variable {p : PlannedRun} {t : Timeline} {e : Timeline.Event} {last turns due : Nat}
  {outcome : Except Failure Unit} {written : Int64}

/-- No turn comes after the one in which the run finishes. -/
theorem Reaches.le (h : p.Reaches last outcome t turns due) : turns ≤ last + 2 := by
  cases h <;> omega

/-- A run that is not over waits for its next turn. -/
theorem Reaches.waits (h : p.Reaches last outcome t turns due) (hturns : turns ≤ last + 1) :
    t.Waits p.run due := by
  cases h with
  | working _ h =>
    rcases h with ⟨hat, hnow⟩ | hat
    · exact .inl ⟨_, hat.jobs, hnow⟩
    · exact .inr ⟨hat.jobs, hat.naps⟩
  | ending h => exact .inl ⟨_, h.jobs, rfl⟩
  | ended h => omega

/-- A run that is not over has taken its task. -/
theorem Reaches.exists_run (h : p.Reaches last outcome t turns due) (hturns : turns ≤ last + 1) :
    ∃ r, t.run? p.run = some r ∧
      ∀ q : RunState, r.Follows q → q.key = p.key ∧ q.stage.holds = true := by
  cases h with
  | working _ h =>
    refine ⟨_, h.run, fun q hq => ⟨hq.call.2, ?_⟩⟩
    rw [hq.call.1]
    rfl
  | ending h =>
    refine ⟨_, h.run, fun q hq => ⟨hq.call.2, ?_⟩⟩
    rw [hq.call.1]
    rfl
  | ended h => omega

/-- One turn before its last a run has ended its work. -/
theorem Reaches.run_of_eq (h : p.Reaches last outcome t turns due) (hlast : turns = last + 1) :
    t.run? p.run = some ⟨.ending p.key outcome, none⟩ := by
  cases h with
  | working hturns h => omega
  | ending h => exact h.run
  | ended h => omega

/-- The run is over after its last turn. -/
theorem Reaches.isOver_iff (h : p.Reaches last outcome t turns due) :
    t.isOver p.run = true ↔ turns = last + 2 := by
  unfold Timeline.isOver
  cases h with
  | working hturns h =>
    rw [h.run]
    exact ⟨fun hover => (Bool.false_ne_true hover).elim, fun heq => by omega⟩
  | ending h =>
    rw [h.run]
    exact ⟨fun hover => (Bool.false_ne_true hover).elim, fun heq => by omega⟩
  | ended h =>
    rw [h.run]
    exact iff_of_true rfl rfl

/-- **What is no turn of the run** leaves it where it is. -/
theorem Reaches.on_other (h : p.Reaches last outcome t turns due) (hturn : ¬ t.IsTurn p.run e)
    (habort : e ≠ .abort p.run) :
    ∃ due', p.Reaches last outcome (t.on e) turns due' ∧ (t.Forward e → due ≤ due') ∧
      (t.Punctual e → turns ≤ last + 1 → due' = due) := by
  cases h with
  | working hturns h =>
    obtain ⟨due', hresumes, hforward, hpunctual⟩ := h.on_other hturn habort
    exact ⟨due', .working hturns hresumes, hforward, fun hp _ => hpunctual hp⟩
  | ending h =>
    exact ⟨_, .ending (h.on_other_awake hturn habort), id, fun hp _ => h.now_of_punctual hp⟩
  | ended h =>
    exact ⟨_, .ended (h.on_other_awake hturn habort), id, fun _ hle => absurd hle (by omega)⟩

/-- A report of a plan is the next step. -/
theorem reached_succ {s : PlannedStep} (hs : p.steps[turns / 3]? = some s)
    (hturns : turns % 3 = 1) :
    p.steps.take ((turns + 1 + 1) / 3) = p.steps.take ((turns + 1) / 3) ++ [s] := by
  rw [show (turns + 1 + 1) / 3 = turns / 3 + 1 by omega, show (turns + 1) / 3 = turns / 3 by omega,
    List.take_add_one, hs]
  rfl

/-- Only the turn of a report reaches a step. -/
theorem reached_succ_of_ne (hturns : turns % 3 ≠ 1) : p.reached (turns + 1) = p.reached turns := by
  unfold reached
  rw [show (turns + 1 + 1) / 3 = (turns + 1) / 3 by omega]

/-- In the end the last step of the plan is reached. -/
theorem reached_of_le (hturns : p.length ≤ turns) : p.reached turns = p.steps.getLast? := by
  unfold reached
  rw [List.take_of_length_le (by unfold length at hturns; omega)]

/-- The pauses within some turns: the last of three turns for each step is one. -/
theorem pauses_succ (p : PlannedRun) (turns : Nat) :
    (turns + 1) / 3 * p.pause = turns / 3 * p.pause + if turns % 3 = 2 then p.pause else 0 := by
  split
  · rw [show (turns + 1) / 3 = turns / 3 + 1 by omega, Nat.succ_mul]
  · rw [show (turns + 1) / 3 = turns / 3 by omega, Nat.add_zero]

/-- Only the turn of a report does anything to the server. -/
theorem onServer_of_ne (hturns : turns % 3 ≠ 1) (s : Server) : p.onServer turns s = s := by
  unfold onServer
  rw [if_neg hturns]

/-- The turn of a report makes the report of its step. -/
theorem onServer_of_eq {step : PlannedStep} (hstep : p.steps[turns / 3]? = some step)
    (hturns : turns % 3 = 1) (s : Server) :
    p.onServer turns s =
      s.report p.key p.run step.progress (some step.name) (some step.description) := by
  unfold onServer
  rw [if_pos hturns, hstep]

/-- Until the run finishes the store has the task at the step that was reached. -/
theorem stored_of_le (h : turns ≤ p.length + 1) :
    p.stored written turns = p.task.atStep p.began written (p.reached turns) := if_pos h

theorem holder_of_le (h : turns ≤ p.length + 1) : p.holder turns = some p.run := if_pos h

section Turns

open Timeline

variable {c : Config} {epoch issued : Nat} {files : FileTree} {server : Server}
  (hs : Server.ofConfig c epoch files issued = .ok server) (hscheduled : Scheduled server t)
include hs hscheduled

/-- **A turn of the work** that was not cancelled. -/
theorem Reaches.turn_working (hturns : turns < p.length)
    (h : t.Resumes p.run (p.atWork turns) due)
    (htask : t.HasTask p.key p.store (some p.run)
      (p.task.atStep p.began written (p.reached turns)))
    (hturn : t.IsTurn p.run .go) :
    (t.on .go).Resumes p.run (p.atWork (turns + 1)) (due + if turns % 3 = 2 then p.pause else 0) ∧
      (t.on .go).server = p.onServer turns t.server ∧
      ∃ written', (t.on .go).HasTask p.key p.store (some p.run)
        (p.task.atStep p.began written' (p.reached (turns + 1))) := by
  obtain ⟨step, a, hstep, ha, hnext⟩ := Work.next?_plan p.milliseconds p.nanoseconds hturns
  have hcancelled := htask.isCancelled hs hscheduled
  have hkind : turns % 3 = 0 ∨ turns % 3 = 1 ∨ turns % 3 = 2 := by omega
  rcases hkind with hkind | hkind | hkind
  · -- the work looks whether it was cancelled
    rw [hkind] at ha
    cases ha
    obtain ⟨hresumes, hserver⟩ := h.turn hturn hnext hcancelled
    rw [reached_succ_of_ne (by omega), if_neg (by omega), onServer_of_ne (by omega)]
    exact ⟨hresumes, hserver, written, htask.congr hserver⟩
  · -- it reports the step
    rw [hkind] at ha
    cases ha
    obtain ⟨hresumes, hserver⟩ := h.turn hturn hnext trivial
    rw [reached, ← reported_map_report] at htask
    have hreported := htask.turn_reports hs hscheduled h hturn step.report hserver
    rw [← List.map_singleton, ← List.map_append, ← reached_succ hstep hkind,
      reported_map_report] at hreported
    rw [if_neg (by omega), onServer_of_eq hstep hkind]
    exact ⟨hresumes, hserver, _, hreported⟩
  · -- it pauses
    rw [hkind] at ha
    cases ha
    obtain ⟨hresumes, hserver⟩ := h.turn hturn hnext trivial
    rw [reached_succ_of_ne (by omega), if_pos hkind, onServer_of_ne (by omega)]
    exact ⟨hresumes, hserver, written, htask.congr hserver⟩

/-- **A turn of a run** that was not cancelled. -/
theorem Reaches.turn (h : p.Reaches p.length (.ok ()) t turns due)
    (htask : t.HasTask p.key p.store (p.holder turns) (p.stored written turns))
    (hturn : t.IsTurn p.run .go) :
    turns ≤ p.length + 1 ∧
      p.Reaches p.length (.ok ()) (t.on .go) (turns + 1)
        (due + if turns % 3 = 2 then p.pause else 0) ∧
      (turns ≤ p.length → (t.on .go).server = p.onServer turns t.server) ∧
      ∃ written', (t.on .go).HasTask p.key p.store (p.holder (turns + 1))
        (p.stored written' (turns + 1)) := by
  cases h with
  | working hturns h =>
    rw [holder_of_le (by omega), stored_of_le (by omega)] at htask
    rw [holder_of_le (by omega)]
    refine ⟨by omega, ?_⟩
    -- after its last action the work returns in time, for no pause is left
    by_cases hlast : turns = p.length
    · subst hlast
      obtain ⟨hat, hserver⟩ := h.turn_returns hturn (Work.next?_plan_of_le _ _ (Nat.le_refl _))
      have hdue : due + (if p.length % 3 = 2 then p.pause else 0) = (t.on .go).server.now := by
        rw [if_neg (by unfold length; omega), hserver, (h.inLine hturn).2, Nat.add_zero]
      rw [hdue]
      refine ⟨.ending hat, fun _ => ?_, written, ?_⟩
      · rw [hserver, onServer_of_ne (by unfold length; omega)]
      rw [stored_of_le (Nat.le_refl _), reached_succ_of_ne (by unfold length; omega)]
      exact htask.congr hserver
    · obtain ⟨hresumes, hserver, written', hstored⟩ :=
        turn_working hs hscheduled (by omega) h htask hturn
      refine ⟨.working (by omega) hresumes, fun _ => hserver, written', ?_⟩
      rw [stored_of_le (by omega)]
      exact hstored
  | ending h =>
    refine ⟨Nat.le_refl _, ?_⟩
    rw [holder_of_le (Nat.le_refl _), stored_of_le (Nat.le_refl _)] at htask
    obtain ⟨hat, hserver⟩ := h.turn_finishes hturn
    have hended := htask.turn_finishes hs hscheduled h hturn (isFinite_atStep ..)
    have hdue : t.server.now + (if (p.length + 1) % 3 = 2 then p.pause else 0) =
        (t.on .go).server.now := by
      rw [if_neg (by unfold length; omega), hserver, Server.finish_now, Nat.add_zero]
    rw [hdue]
    refine ⟨.ended hat, fun hle => by omega, t.server.clock, ?_⟩
    rw [holder, if_neg (by omega), stored, if_neg (by omega), reached_of_le (by omega),
      ended_atStep _ _ _ written]
    rw [reached_of_le (by omega)] at hended
    exact hended
  | ended h => exact absurd hturn (not_isTurn_of_jobsOf h.jobs _)

/-! ## Runs that were cancelled -/

/-- **A turn of a run that was cancelled** leaves the server as it is; at its next check the work
ends. -/
theorem Reaches.turn_cancelled {first : Nat}
    (h : p.Reaches (p.check first) (p.verdict first) t turns due) (hfirst : first ≤ turns)
    {task : Task} (htask : t.HasTask p.key p.store none task) (hturn : t.IsTurn p.run .go) :
    (∃ due', p.Reaches (p.check first) (p.verdict first) (t.on .go) (turns + 1) due') ∧
      (t.on .go).server = t.server := by
  have hcancelled : turns ≤ p.check first + 1 → p.run ∈ t.server.ledger.cancelled := fun hle => by
    obtain ⟨r, hrun, hholds⟩ := h.exists_run hle
    exact htask.mem_cancelled hs hscheduled hrun hholds
  have hcheck : p.check first = min (3 * ((first + 2) / 3)) p.length := rfl
  have hlength : p.length = 3 * p.steps.length := rfl
  cases h with
  | working hturns h =>
    have hc := (RunLedger.isCancelled_iff _ _).2 (hcancelled (by omega))
    -- at the next check the work stops, or returns if no check is left
    by_cases hlast : turns = p.check first
    · subst hlast
      by_cases hleft : p.check first < p.length
      · obtain ⟨step, a, -, ha, hnext⟩ := Work.next?_plan p.milliseconds p.nanoseconds hleft
        rw [show p.check first % 3 = 0 by omega] at ha
        cases ha
        obtain ⟨hat, hserver⟩ := h.turn_stops hturn hnext hc
        refine ⟨⟨_, .ending ?_⟩, hserver⟩
        rw [verdict, if_pos hleft]
        exact hat
      · obtain ⟨hat, hserver⟩ :=
          h.turn_returns hturn (Work.next?_plan_of_le _ _ (Nat.le_of_not_lt hleft))
        refine ⟨⟨_, .ending ?_⟩, hserver⟩
        rw [verdict, if_neg hleft]
        exact hat
    · -- before the next check the work pauses, or reports in vain
      have hlt : turns < p.length := by omega
      obtain ⟨step, a, -, ha, hnext⟩ := Work.next?_plan p.milliseconds p.nanoseconds hlt
      have hkind : turns % 3 = 1 ∨ turns % 3 = 2 := by omega
      rcases hkind with hkind | hkind
      · rw [hkind] at ha
        cases ha
        obtain ⟨hresumes, hserver⟩ := h.turn hturn hnext trivial
        exact ⟨⟨_, .working (by omega) hresumes⟩, hserver.trans (if_pos hc)⟩
      · rw [hkind] at ha
        cases ha
        obtain ⟨hresumes, hserver⟩ := h.turn hturn hnext trivial
        exact ⟨⟨_, .working (by omega) hresumes⟩, hserver⟩
  | ending h =>
    obtain ⟨hat, hserver⟩ := h.turn_finishes hturn
    refine ⟨⟨_, .ended hat⟩, hserver.trans ?_⟩
    obtain ⟨s, -, hexact⟩ := hscheduled.exact hs
    unfold Server.finish
    dsimp only
    have hmem := hcancelled (Nat.le_refl _)
    rw [hexact.release_eq_self hmem, if_pos ((RunLedger.isCancelled_iff _ _).2 hmem)]
  | ended h => exact absurd hturn (not_isTurn_of_jobsOf h.jobs _)

end Turns

/-- Where the run is when it is cancelled. -/
theorem Reaches.narrow (h : p.Reaches p.length (.ok ()) t turns due)
    (hturns : turns ≤ p.length + 1) : p.Reaches (p.check turns) (p.verdict turns) t turns due := by
  have hcheck : p.check turns = min (3 * ((turns + 2) / 3)) p.length := rfl
  have hlength : p.length = 3 * p.steps.length := rfl
  cases h with
  | working hle h => exact .working (by omega) h
  | ending h =>
    have hlast : p.check (p.length + 1) = p.length := by omega
    unfold verdict
    rw [hlast, if_neg (Nat.lt_irrefl _)]
    exact .ending h
  | ended h => omega

/-- **A run that gets its turns is over in the end.** -/
theorem exists_ended {first : ℕ} {events : ℕ → Timeline.Event}
    (hreaches : ∀ k, ∃ due, p.Reaches last outcome (t.after events k)
      (first + t.turns p.run ((List.range k).map events)) due)
    (habort : ∀ j, ¬ (t.after events j).IsTurn p.run (events j) → events j ≠ .abort p.run)
    (hfair : t.Fair p.run events) :
    ∃ k, first + t.turns p.run ((List.range k).map events) = last + 2 := by
  by_contra hnever
  -- so the run is never over, and has as many turns as one likes
  have hmany : ∀ m, ∃ k, m ≤ first + t.turns p.run ((List.range k).map events) := by
    intro m
    induction m with
    | zero => exact ⟨0, Nat.zero_le _⟩
    | succ m ih =>
      obtain ⟨k, hk⟩ := ih
      obtain ⟨j, hj, hturn⟩ : ∃ j ≥ k, (t.after events j).IsTurn p.run (events j) := by
        obtain ⟨due, h⟩ := hreaches k
        have hnot : first + t.turns p.run ((List.range k).map events) ≠ last + 2 :=
          fun heq => hnever ⟨k, heq⟩
        generalize first + t.turns p.run ((List.range k).map events) = turns at h hnot
        cases h with
        | working _ h => exact h.exists_turn habort hfair
        | ending h => exact hfair.line k (by simp [h.jobs])
        | ended h => exact absurd rfl hnot
      refine ⟨j + 1, ?_⟩
      have hmono := t.turns_after_mono p.run events hj
      rw [List.range_succ, List.map_append, List.map_singleton, Timeline.turns_concat,
        if_pos (show (t.play ((List.range j).map events)).IsTurn p.run (events j) from hturn)]
      omega
  obtain ⟨k, hk⟩ := hmany (last + 2)
  obtain ⟨due, h⟩ := hreaches k
  exact hnever ⟨k, Nat.le_antisymm h.le hk⟩

/-! ## Whole runs -/

/-- **What becomes of a run that no one cancels**, after some events since its work began. -/
structure Completes (p : PlannedRun) (begun : Timeline) (events : List Timeline.Event) : Prop where
  /-- The task is at the step that was reported last, and in the end it is completed. -/
  task : ∃ written, (begun.play events).HasTask p.key p.store (p.holder (begun.turns p.run events))
    (p.stored written (begun.turns p.run events))
  /-- Until the work has ended nothing is written but the steps, each by one turn. -/
  writes : (begun.play events).IsTurn p.run .go → begun.turns p.run events ≤ p.length →
    ((begun.play events).on .go).server =
      p.onServer (begun.turns p.run events) (begun.play events).server
  /-- The run has three turns for each step and two more, and is over then. -/
  bound : begun.turns p.run events ≤ p.length + 2
  ended : (begun.play events).isOver p.run = true ↔ begun.turns p.run events = p.length + 2
  /-- Until then its next turn comes, after all the pauses so far. -/
  waits : begun.turns p.run events ≤ p.length + 1 → ∃ due, (begun.play events).Waits p.run due ∧
    (begun.Along Timeline.Forward events →
      begun.server.now + begun.turns p.run events / 3 * p.pause ≤ due) ∧
    (begun.Along Timeline.Punctual events →
      due = begun.server.now + begun.turns p.run events / 3 * p.pause)

/-- **What becomes of a run that is cancelled** after some events since its work began, and some
more events later. -/
structure Stops (p : PlannedRun) (begun : Timeline) (events more : List Timeline.Event) : Prop where
  /-- The caller hears that there was a run. -/
  answer : ((begun.play events).server.cancelRun p.key).1 = true
  /-- The task stays at the step that was reported last, and is cancelled. -/
  task : (((begun.play events).on (.cancel p.key)).play more).HasTask p.key p.store none
    (p.stopped (begun.play events).server.clock (begun.turns p.run events))
  /-- No turn of the run writes any more. -/
  dropped : (((begun.play events).on (.cancel p.key)).play more).IsTurn p.run .go →
    ((((begun.play events).on (.cancel p.key)).play more).on .go).server =
      (((begun.play events).on (.cancel p.key)).play more).server
  /-- The work ends at its next check. -/
  outcome : begun.turns p.run events + ((begun.play events).on (.cancel p.key)).turns p.run more =
      p.check (begun.turns p.run events) + 1 →
    (((begun.play events).on (.cancel p.key)).play more).run? p.run =
      some ⟨.ending p.key (p.verdict (begun.turns p.run events)), none⟩
  /-- One turn later the run is over. -/
  bound : begun.turns p.run events + ((begun.play events).on (.cancel p.key)).turns p.run more ≤
    p.check (begun.turns p.run events) + 2
  ended : (((begun.play events).on (.cancel p.key)).play more).isOver p.run = true ↔
    begun.turns p.run events + ((begun.play events).on (.cancel p.key)).turns p.run more =
      p.check (begun.turns p.run events) + 2
  /-- Until then its next turn comes. -/
  waits : begun.turns p.run events + ((begun.play events).on (.cancel p.key)).turns p.run more ≤
      p.check (begun.turns p.run events) + 1 →
    ∃ due, (((begun.play events).on (.cancel p.key)).play more).Waits p.run due

/-- **What becomes of a run that is cancelled** when it has taken its task and has not begun, and
some moves later. -/
structure Withdraws (p : PlannedRun) (s : Schedule) (moves : List Move) : Prop where
  /-- The caller hears that there was a run. -/
  answer : ((s.move (.step p.run .accept)).server.cancelRun p.key).1 = true
  /-- The task stays as it was, and is cancelled. -/
  task : ((((s.move (.step p.run .accept)).move (.cancel p.key)).play moves).server.store
    p.store).task p.key.session p.key.task =
      .ok (p.task.stopped (s.move (.step p.run .accept)).server.clock)
  /-- Nothing that the run does changes the server any more. -/
  inert : ((s.move (.step p.run .accept)).move (.cancel p.key)).Inert p.run

section Runs

open Timeline

variable {c : Config} {epoch issued : Nat} {files : FileTree} {server : Server} {begun : Timeline}
  (hs : Server.ofConfig c epoch files issued = .ok server) (hscheduled : Scheduled server begun)
  (hwork : begun.Resumes p.run (p.atWork 0) begun.server.now)
  (htask : begun.HasTask p.key p.store (some p.run) (p.task.started p.began))
include hs hscheduled hwork htask

/-- **Run lemma.**  The turns that the run has had tell where it is and what is stored. -/
theorem reaches_play {events : List Timeline.Event}
    (hquiet : begun.Along (Quiet p.run p.key p.store) events) :
    (∃ written, (begun.play events).HasTask p.key p.store (p.holder (begun.turns p.run events))
      (p.stored written (begun.turns p.run events))) ∧
    ∃ due, p.Reaches p.length (.ok ()) (begun.play events) (begun.turns p.run events) due ∧
      (begun.Along Forward events →
        begun.server.now + begun.turns p.run events / 3 * p.pause ≤ due) ∧
      (begun.Along Punctual events → begun.turns p.run events ≤ p.length + 1 →
        due = begun.server.now + begun.turns p.run events / 3 * p.pause) := by
  induction events using List.reverseRecOn with
  | nil =>
    refine ⟨⟨p.began, ?_⟩, begun.server.now, .working (Nat.zero_le _) hwork, fun _ => ?_,
      fun _ _ => ?_⟩
    · rw [show begun.turns p.run [] = 0 from rfl, holder_of_le (Nat.zero_le _),
        stored_of_le (Nat.zero_le _)]
      exact htask
    · show _ + 0 / 3 * p.pause ≤ _
      simp
    · show _ = _ + 0 / 3 * p.pause
      simp
  | append_singleton events e ih =>
    rw [along_concat] at hquiet
    obtain ⟨⟨written, hstored⟩, due, hreaches, hforward, hpunctual⟩ := ih hquiet.1
    have hhere := hscheduled.play events
    rw [play_concat, turns_concat, along_concat, along_concat]
    -- a turn of the run counts, and nothing else moves the run on
    by_cases hturn : (begun.play events).IsTurn p.run e
    · cases hturn.eq_go
      rw [if_pos hturn]
      obtain ⟨hle, hnext, -, hwritten⟩ := hreaches.turn hs hhere hstored hturn
      refine ⟨hwritten, _, hnext, fun hall => ?_, fun hall _ => ?_⟩
      · rw [pauses_succ, ← Nat.add_assoc]
        exact Nat.add_le_add_right (hforward hall.1) _
      · rw [hpunctual hall.1 hle, pauses_succ, Nat.add_assoc]
    · rw [if_neg hturn, Nat.add_zero]
      obtain ⟨due', hnext, hlater, hjust⟩ :=
        hreaches.on_other hturn (hquiet.2.resolve_left hturn).1
      refine ⟨⟨written, hstored.on_other hturn hquiet.2⟩, due', hnext, fun hall => ?_,
        fun hall hle => ?_⟩
      · exact Nat.le_trans (hforward hall.1) (hlater hall.2)
      · rw [hjust hall.2 hle]
        exact hpunctual hall.1 hle

/-- A run that no one cancels makes every step and completes its task. -/
theorem completes {events : List Timeline.Event}
    (hquiet : begun.Along (Quiet p.run p.key p.store) events) : p.Completes begun events := by
  obtain ⟨⟨written, hstored⟩, due, hreaches, hforward, hpunctual⟩ :=
    reaches_play hs hscheduled hwork htask hquiet
  refine ⟨⟨written, hstored⟩, fun hturn hle => ?_, hreaches.le, hreaches.isOver_iff, fun hle =>
    ⟨due, hreaches.waits hle, hforward, fun hall => hpunctual hall hle⟩⟩
  obtain ⟨-, -, hwrites, -⟩ := hreaches.turn hs (hscheduled.play events) hstored hturn
  exact hwrites hle

/-- **Run lemma, once the run was cancelled.** -/
theorem reaches_play_cancelled {events more : List Timeline.Event}
    (hquiet : begun.Along (Quiet p.run p.key p.store) events)
    (hturns : begun.turns p.run events ≤ p.length + 1)
    (hmore : ((begun.play events).on (.cancel p.key)).Along (Quiet p.run p.key p.store) more) :
    (((begun.play events).on (.cancel p.key)).play more).HasTask p.key p.store none
        (p.stopped (begun.play events).server.clock (begun.turns p.run events)) ∧
      ∃ due, p.Reaches (p.check (begun.turns p.run events)) (p.verdict (begun.turns p.run events))
        (((begun.play events).on (.cancel p.key)).play more)
        (begun.turns p.run events + ((begun.play events).on (.cancel p.key)).turns p.run more)
        due := by
  obtain ⟨⟨written, hstored⟩, due, hreaches, -⟩ :=
    reaches_play hs hscheduled hwork htask hquiet
  rw [holder_of_le hturns, stored_of_le hturns] at hstored
  have hhere := hscheduled.play events
  -- of what came before the cancellation only the number of turns counts from here on
  generalize begun.play events = t, begun.turns p.run events = first at *
  induction more using List.reverseRecOn with
  | nil =>
    obtain ⟨r, hrun, hholds⟩ := hreaches.exists_run hturns
    have hcancel := hstored.cancel hs hhere hrun (fun q hq => (hholds q hq).1) (isFinite_atStep ..)
    obtain ⟨due', hnext, -⟩ := hreaches.on_other (e := .cancel p.key) id (by simp)
    rw [stopped_atStep _ _ written t.server.clock] at hcancel
    exact ⟨hcancel, due', hnext.narrow hturns⟩
  | append_singleton more e ih =>
    rw [along_concat] at hmore
    obtain ⟨hstays, due', hnow⟩ := ih hmore.1
    have hthere := (hhere.play [.cancel p.key]).play more
    rw [play_concat, turns_concat, ← Nat.add_assoc]
    by_cases hturn : ((t.on (.cancel p.key)).play more).IsTurn p.run e
    · cases hturn.eq_go
      rw [if_pos hturn]
      obtain ⟨hnext, hserver⟩ :=
        hnow.turn_cancelled hs hthere (Nat.le_add_right _ _) hstays hturn
      exact ⟨hstays.congr hserver, hnext⟩
    · rw [if_neg hturn, Nat.add_zero]
      obtain ⟨due'', hnext, -⟩ := hnow.on_other hturn (hmore.2.resolve_left hturn).1
      exact ⟨hstays.on_other hturn hmore.2, due'', hnext⟩

/-- A run that is cancelled leaves its task at the step it had come to. -/
theorem stops {events more : List Timeline.Event}
    (hquiet : begun.Along (Quiet p.run p.key p.store) events)
    (hturns : begun.turns p.run events ≤ p.length + 1)
    (hmore : ((begun.play events).on (.cancel p.key)).Along (Quiet p.run p.key p.store) more) :
    p.Stops begun events more := by
  obtain ⟨⟨written, hstored⟩, -⟩ := reaches_play hs hscheduled hwork htask hquiet
  obtain ⟨hstays, due, hreaches⟩ :=
    reaches_play_cancelled hs hscheduled hwork htask hquiet hturns hmore
  have hthere : Scheduled server (((begun.play events).on (.cancel p.key)).play more) :=
    ((hscheduled.play events).play [.cancel p.key]).play more
  refine ⟨?_, hstays, fun hturn => ?_, fun hturns => ?_, hreaches.le, hreaches.isOver_iff,
    fun hle => ⟨due, hreaches.waits hle⟩⟩
  · rw [Server.cancelRun_fst, hstored.holder, holder_of_le hturns]
    rfl
  · exact (hreaches.turn_cancelled hs hthere (Nat.le_add_right _ _) hstays hturn).2
  · exact hreaches.run_of_eq hturns

/-- A run that no one cancels and that gets its turns completes its task. -/
theorem ends {events : ℕ → Timeline.Event}
    (hquiet : ∀ k, Quiet p.run p.key p.store (begun.after events k) (events k))
    (hfair : begun.Fair p.run events) : ∃ k, ∀ j ≥ k, (begun.after events j).isOver p.run = true ∧
      ∃ written, (begun.after events j).HasTask p.key p.store none
        ((p.task.atStep p.began written p.steps.getLast?).ended written (.ok ())) := by
  have hreaches : ∀ k, ∃ due, p.Reaches p.length (.ok ()) (begun.after events k)
      (0 + begun.turns p.run ((List.range k).map events)) due := fun k => by
    obtain ⟨-, due, hreaches, -⟩ :=
      reaches_play hs hscheduled hwork htask (along_after hquiet k)
    rw [Nat.zero_add]
    exact ⟨due, hreaches⟩
  obtain ⟨k, hk⟩ :=
    exists_ended hreaches (fun j hturn => ((hquiet j).resolve_left hturn).1) hfair
  refine ⟨k, fun j hj => ?_⟩
  have hnow := completes hs hscheduled hwork htask (along_after hquiet j)
  have hmono := begun.turns_after_mono p.run events hj
  have hturns : begun.turns p.run ((List.range j).map events) = p.length + 2 := by
    have hbound := hnow.bound
    omega
  refine ⟨hnow.ended.2 hturns, ?_⟩
  obtain ⟨written, hstored⟩ := hnow.task
  rw [hturns, holder, if_neg (by omega), stored, if_neg (by omega), reached_of_le (by omega)]
    at hstored
  exact ⟨written, hstored⟩

/-- A run that is cancelled and gets its turns is over in the end. -/
theorem halts {events : List Timeline.Event} {more : ℕ → Timeline.Event}
    (hquiet : begun.Along (Quiet p.run p.key p.store) events)
    (hturns : begun.turns p.run events ≤ p.length + 1)
    (hmore : ∀ k, Quiet p.run p.key p.store
      (((begun.play events).on (.cancel p.key)).after more k) (more k))
    (hfair : ((begun.play events).on (.cancel p.key)).Fair p.run more) :
    ∃ k, ∀ j ≥ k, (((begun.play events).on (.cancel p.key)).after more j).isOver p.run = true := by
  have hnow := fun k => reaches_play_cancelled hs hscheduled hwork htask hquiet hturns
    (along_after hmore k)
  obtain ⟨k, hk⟩ := exists_ended (fun k => (hnow k).2)
    (fun j hturn => ((hmore j).resolve_left hturn).1) hfair
  refine ⟨k, fun j hj => ?_⟩
  obtain ⟨-, due, hreaches⟩ := hnow j
  have hmono := ((begun.play events).on (.cancel p.key)).turns_after_mono p.run more hj
  have hbound := hreaches.le
  exact hreaches.isOver_iff.2 (by omega)

end Runs

/-! ## Plans that are asked for -/

/-- **What becomes of a plan** that has its first turn now: no one cancels it; it is cancelled
after some of its turns; or it is cancelled within the first one. -/
structure Unfolds (p : PlannedRun) (server : Server) (t : Timeline) : Prop where
  completes : ∀ events, (t.on .go).Along (Timeline.Quiet p.run p.key p.store) events →
    p.Completes (t.on .go) events
  stops : ∀ events more, (t.on .go).Along (Timeline.Quiet p.run p.key p.store) events →
    (t.on .go).turns p.run events ≤ p.length + 1 →
    (((t.on .go).play events).on (.cancel p.key)).Along (Timeline.Quiet p.run p.key p.store) more →
    p.Stops (t.on .go) events more
  /-- A run that gets its turns makes every step in the end, if no one cancels it. -/
  ends : ∀ events : ℕ → Timeline.Event,
    (∀ k, Timeline.Quiet p.run p.key p.store ((t.on .go).after events k) (events k)) →
    (t.on .go).Fair p.run events → ∃ k, ∀ j ≥ k, ((t.on .go).after events j).isOver p.run = true ∧
      ∃ written, ((t.on .go).after events j).HasTask p.key p.store none
        ((p.task.atStep p.began written p.steps.getLast?).ended written (.ok ()))
  /-- If someone cancels it, it is over in the end as well. -/
  halts : ∀ events (more : ℕ → Timeline.Event),
    (t.on .go).Along (Timeline.Quiet p.run p.key p.store) events →
    (t.on .go).turns p.run events ≤ p.length + 1 →
    (∀ k, Timeline.Quiet p.run p.key p.store
      ((((t.on .go).play events).on (.cancel p.key)).after more k) (more k)) →
    (((t.on .go).play events).on (.cancel p.key)).Fair p.run more →
    ∃ k, ∀ j ≥ k, ((((t.on .go).play events).on (.cancel p.key)).after more j).isOver p.run = true
  withdraws : ∀ history moves, t.Follows ((Schedule.ofServer server).play history) →
    p.task.progress.isFinite = true →
    ¬ ((((Schedule.ofServer server).play history).move (.step p.run .accept)).move
      (.cancel p.key)).Happens (Schedule.Touches p.run p.key p.store) moves →
    p.Withdraws ((Schedule.ofServer server).play history) moves

/-- A run that is inert leaves its task, if nothing else touches it. -/
theorem task_play_of_inert {s : Schedule} {n : RunId} {key : TaskKey} {id : StoreId} {task : Task}
    (hinert : s.Inert n) (htask : (s.server.store id).task key.session key.task = .ok task)
    {moves : List Move} (hquiet : ¬ s.Happens (Schedule.Touches n key id) moves) :
    ((s.play moves).server.store id).task key.session key.task = .ok task := by
  induction moves using List.reverseRecOn with
  | nil => exact htask
  | append_singleton moves m ih =>
    rw [Schedule.happens_concat_iff, not_or] at hquiet
    rw [Schedule.play_concat]
    by_cases hm : ∃ a, m = .step n a
    · obtain ⟨a, rfl⟩ := hm
      rw [hinert moves a]
      exact ih hquiet.1
    · have hleft := Classical.not_not.1 fun hc => hquiet.2 ⟨fun a ha => hm ⟨a, ha⟩, hc⟩
      exact hleft.2.1.trans (ih hquiet.1)

open Timeline in
/-- A run that was asked for waits for its first turn. -/
theorem asked_play {t : Timeline} {n : RunId} {key : TaskKey} {id : StoreId} {task : Task}
    {work : Work} (hat : t.At n [.call n] [] ⟨.starting key work, none⟩)
    (htask : t.HasTask key id none task) {events : List Timeline.Event}
    (hquiet : t.Along (Quiet n key id) events) (hturns : t.turns n events = 0) :
    (t.play events).At n [.call n] [] ⟨.starting key work, none⟩ ∧
      (t.play events).HasTask key id none task := by
  induction events using List.reverseRecOn with
  | nil => exact ⟨hat, htask⟩
  | append_singleton events e ih =>
    rw [along_concat] at hquiet
    rw [turns_concat, Nat.add_eq_zero_iff] at hturns
    obtain ⟨hat, htask⟩ := ih hquiet.1 hturns.1
    have hturn : ¬ (t.play events).IsTurn n e := fun hturn => by
      rw [if_pos hturn] at hturns
      exact absurd hturns.2 (by decide)
    rw [play_concat]
    exact ⟨hat.on_other_awake hturn (hquiet.2.resolve_left hturn).1,
      htask.on_other hturn hquiet.2⟩

/-- The timeline in which the run is asked for after some events. -/
def asked (p : PlannedRun) (server : Server) (before : List Timeline.Event) : Timeline :=
  (Timeline.play { server } before).on (.ask p.key p.work)

open Timeline in
/-- **A plan persists exactly a prefix of its steps.**  A plan is asked for, for a stored task of a
live session that no run holds, and in the end has its first turn.  While nothing else touches the
task it is at every turn at the step that was reported last, in the order of the plan; if no one
cancels the run it makes every step and completes the task, and if someone does the task stays at
the step it had come to. -/
theorem unfolds {c : Config} {epoch issued : Nat} {files : FileTree} {server : Server}
    (hs : Server.ofConfig c epoch files issued = .ok server) (p : PlannedRun)
    {before events : List Timeline.Event} (hrun : p.run = (play { server } before).runs.length)
    (htask : (p.asked server before).HasTask p.key p.store none p.task)
    (hquiet : (p.asked server before).Along (Quiet p.run p.key p.store) events)
    (hturns : (p.asked server before).turns p.run events = 0)
    (hturn : ((p.asked server before).play events).IsTurn p.run .go)
    (hbegan : p.began = ((p.asked server before).play events).server.clock) :
    p.Unfolds server ((p.asked server before).play events) := by
  have hasked := at_ask server before p.key p.work
  rw [← hrun] at hasked
  have hscheduled : Scheduled server ((p.asked server before).play events) :=
    (((scheduled_of_server server).play before).play [.ask p.key _]).play events
  obtain ⟨hat, htask⟩ := asked_play (t := p.asked server before) hasked htask hquiet hturns
  generalize (p.asked server before).play events = t at *
  have hbegan' : Scheduled server (t.on .go) := hscheduled.play [.go]
  obtain ⟨hwork, hbegun⟩ := htask.turn_begins hs hscheduled hat hturn
  rw [← hbegan] at hwork hbegun
  refine ⟨fun events hquiet => completes hs hbegan' hwork hbegun hquiet,
    fun events more hquiet hturns hmore => stops hs hbegan' hwork hbegun hquiet hturns hmore,
    fun events hquiet hfair => ends hs hbegan' hwork hbegun hquiet hfair,
    fun events more hquiet hturns hmore hfair =>
      halts hs hbegan' hwork hbegun hquiet hturns hmore hfair,
    fun history moves hfollows hfinite hmoves => ?_⟩
  -- within the first turn the run holds its task before it begins
  obtain ⟨q, hq, hstands⟩ := htask.stands hfollows hat.run fun q hq => hq.call.2
  rw [show q.stage = .asked from hq.call.1, show q.task = none from hq.labour] at hstands
  have hexact := Schedule.exact_move (Schedule.exact_of_ofConfig hs history) (.step p.run .accept)
  have hapart := Schedule.apart_play (s := Schedule.ofServer server) (Server.apart_ofConfig hs)
    (history ++ [.step p.run .accept])
  rw [Schedule.play_concat] at hapart
  have hcancelled := hstands.accept.cancel hfinite hapart
  have hinert := Schedule.inert_of_mem_cancelled (Schedule.exact_move hexact (.cancel p.key))
    (Server.mem_cancelled_cancelRun hstands.accept.holder)
  refine ⟨?_, task_play_of_inert hinert hcancelled.stored hmoves, hinert⟩
  rw [Server.cancelRun_fst, hstands.accept.holder]
  rfl

/-- A session is looked up and a task created in it. -/
def sampleBefore : List Timeline.Event :=
  [.operate (.lookup "a"), .operate (.useStore 0 (.createTask (.sanitize "a") { name := "t" }))]

/-- A plan of two steps for this task. -/
def samplePlan : PlannedRun where
  run := 0
  key := Schedule.sampleTask
  store := 0
  task := TaskDraft.start { name := "t" } (identifier 1) (.sanitize "a") 0
  began := 5
  steps := [⟨"first", .hundred, "one"⟩, ⟨"second", .zero, "two"⟩]
  milliseconds := 2
  nanoseconds := 1

/-- Another session is looked up before the plan has its first turn, and time passes. -/
def sampleWaiting : List Timeline.Event := [.operate (.lookup "b"), .operate (.setClock 5)]

open Timeline Schedule in
theorem unfolds_sample :
    Server.ofConfig {} 0 .empty 0 = .ok sampleServer ∧
      samplePlan.run = (play { server := sampleServer } sampleBefore).runs.length ∧
      (samplePlan.asked sampleServer sampleBefore).HasTask samplePlan.key samplePlan.store none
        samplePlan.task ∧
      (samplePlan.asked sampleServer sampleBefore).Along
        (Quiet samplePlan.run samplePlan.key samplePlan.store) sampleWaiting ∧
      (samplePlan.asked sampleServer sampleBefore).turns samplePlan.run sampleWaiting = 0 ∧
      ((samplePlan.asked sampleServer sampleBefore).play sampleWaiting).IsTurn samplePlan.run .go ∧
      samplePlan.began =
        ((samplePlan.asked sampleServer sampleBefore).play sampleWaiting).server.clock ∧
      samplePlan.Unfolds sampleServer
        ((samplePlan.asked sampleServer sampleBefore).play sampleWaiting) := by
  have htask : (samplePlan.asked sampleServer sampleBefore).HasTask samplePlan.key samplePlan.store
      none samplePlan.task :=
    ⟨by decide +kernel, by decide +kernel, by decide +kernel⟩
  have hquiet : (samplePlan.asked sampleServer sampleBefore).Along
      (Quiet samplePlan.run samplePlan.key samplePlan.store) sampleWaiting :=
    ⟨.inr ⟨by simp, by decide +kernel, by decide +kernel, by decide +kernel⟩,
      .inr ⟨by simp, by decide +kernel, by decide +kernel, by decide +kernel⟩, trivial⟩
  have hturns : (samplePlan.asked sampleServer sampleBefore).turns samplePlan.run
      sampleWaiting = 0 := by decide +kernel
  have hturn : ((samplePlan.asked sampleServer sampleBefore).play sampleWaiting).IsTurn
      samplePlan.run .go := by decide +kernel
  have hbegan : samplePlan.began =
      ((samplePlan.asked sampleServer sampleBefore).play sampleWaiting).server.clock := by
    decide +kernel
  exact ⟨ofConfig_sampleServer, rfl, htask, hquiet, hturns, hturn, hbegan,
    unfolds ofConfig_sampleServer samplePlan rfl htask hquiet hturns hturn hbegan⟩

end PlannedRun

end SessionTasks
