/-
# The turns of a run

Between its turns a run waits, in the line or until a pause is over, and whatever else happens
leaves it there.  A turn of its work is one action; one more turn ends the work, and one the call.

* `Timeline.turns`, `Timeline.Along` : the turns that a run has among some events, and what holds
  of all of these;
* `Timeline.Resumes.on_other`, `Timeline.Resumes.turn` : what is between two turns of a work, and
  what a turn does;
* `Timeline.HasTask.turn_begins`, `Timeline.HasTask.turn_reports`,
  `Timeline.HasTask.turn_finishes` : what the turns of a run write, while its session is live and
  no other run has its task;
* `Timeline.Resumes.exists_turn` : a run that waits gets its turn in the end.
-/
import SessionTasks.Proofs.Schedule.Execution
import SessionTasks.Proofs.Sessions.Survivors
import SessionTasks.Proofs.Timeline.Places
namespace SessionTasks

namespace Action

/-- How many milliseconds an action takes. -/
def lasts : Action → Nat
  | .pause nanoseconds => (nanoseconds + 999999) / 1000000
  | _ => 0

/-- What an action of the work of a run does to the server. -/
def onServer (key : TaskKey) (n : RunId) (s : Server) : Action → Server
  | .report progress step description => s.report key n progress step description
  | _ => s

end Action

namespace Server

theorem writeUpdate_now (s : Server) (key : TaskKey) (u : TaskUpdate) :
    (s.writeUpdate key u).2.now = s.now := by
  rw [writeUpdate_snd]
  exact s.lookup_now key.session

theorem report_now (s : Server) (key : TaskKey) (n : RunId) (progress : Binary64)
    (step description : Option String) :
    (s.report key n progress step description).now = s.now := by
  unfold report
  split
  · rfl
  · exact s.writeUpdate_now key _

theorem finish_now (s : Server) (key : TaskKey) (n : RunId) (outcome : Except Failure Unit) :
    (s.finish key n outcome).now = s.now := by
  unfold finish
  dsimp only
  split
  · rfl
  · exact writeUpdate_now _ key _

end Server

namespace Timeline

variable {t : Timeline} {n : RunId} {e : Event} {P : Timeline → Event → Prop}

/-! ## Along some events -/

/-- Every event is, where it happens, as `P` tells. -/
def Along (P : Timeline → Event → Prop) (t : Timeline) : List Event → Prop
  | [] => True
  | e :: rest => P t e ∧ Along P (t.on e) rest

/-- What holds along two pieces of events holds along the first, and then along the second. -/
theorem along_append {first second : List Event} :
    t.Along P (first ++ second) ↔ t.Along P first ∧ (t.play first).Along P second := by
  induction first generalizing t with
  | nil => exact ⟨fun h => ⟨trivial, h⟩, And.right⟩
  | cons e rest ih => exact (and_congr_right fun _ => ih).trans and_assoc.symm

theorem along_concat {events : List Event} :
    t.Along P (events ++ [e]) ↔ t.Along P events ∧ P (t.play events) e :=
  along_append.trans (and_congr_right fun _ => ⟨And.left, fun h => ⟨h, trivial⟩⟩)

/-- How many turns a run has. -/
def turns (t : Timeline) (n : RunId) : List Event → Nat
  | [] => 0
  | e :: rest => (if t.IsTurn n e then 1 else 0) + (t.on e).turns n rest

/-- Turns are counted piece by piece. -/
theorem turns_append (t : Timeline) (n : RunId) (first second : List Event) :
    t.turns n (first ++ second) = t.turns n first + (t.play first).turns n second := by
  induction first generalizing t with
  | nil => exact (Nat.zero_add _).symm
  | cons e rest ih =>
    show _ + (t.on e).turns n (rest ++ second) = _ + _ + ((t.on e).play rest).turns n second
    rw [ih, Nat.add_assoc]

/-- The last event counts when it is a turn of the run. -/
theorem turns_concat (t : Timeline) (n : RunId) (events : List Event) (e : Event) :
    t.turns n (events ++ [e]) =
      t.turns n events + if (t.play events).IsTurn n e then 1 else 0 :=
  turns_append t n events [e]

/-- More events give no fewer turns. -/
theorem turns_le_append (t : Timeline) (n : RunId) (first second : List Event) :
    t.turns n first ≤ t.turns n (first ++ second) := by
  rw [turns_append]
  exact Nat.le_add_right _ _

/-- A turn is the only event of its kind. -/
theorem IsTurn.eq_go (h : t.IsTurn n e) : e = .go := by
  cases e with
  | go => rfl
  | _ => exact h.elim

/-! ## A timeline is a schedule -/

/-- Whatever happens, the timeline is where a schedule is. -/
theorem Scheduled.play {server : Server} (h : Scheduled server t) (events : List Event) :
    Scheduled server (t.play events) := by
  induction events generalizing t with
  | nil => exact h
  | cons e rest ih =>
    refine ih ?_
    cases e with
    | go => exact h.step
    | wake time => exact h.wake time
    | operate o => exact h.operate o
    | cancel key => exact h.cancel key
    | cancelAll => exact h.cancelAll
    | ask key work => exact h.spawn key work
    | abort m => exact h.abort m
    | release gate permits => exact h.release gate permits
    | startTimer => exact h.startTimer

/-! ## Between two turns -/

variable {key : TaskKey} {call : Call} {given : Task} {work rest : Work} {r : Run} {due : Nat}
  {naps : List Nat} {outcome : Except Failure Unit}

/-- The clock is not set back. -/
def Forward (t : Timeline) (e : Event) : Prop := t.server.now ≤ (t.on e).server.now

/-- The clock moves when nothing can go on, and past no time that a work pauses until. -/
def Punctual (t : Timeline) (e : Event) : Prop :=
  ((t.on e).server.now ≠ t.server.now → t.ready = []) ∧
    ∀ s ∈ t.sleepers, (t.on e).server.now ≤ s.due

/-- The work of the run goes on at a time: it is in the line by then, or pauses until then. -/
def Resumes (t : Timeline) (n : RunId) (r : Run) (due : Nat) : Prop :=
  (t.At n [.work n] [] r ∧ t.server.now = due) ∨ t.At n [] [due] r

/-- The run has its next turn at a time: it is in the line by then, or pauses until then. -/
def Waits (t : Timeline) (n : RunId) (due : Nat) : Prop :=
  (∃ j, t.jobsOf n = [j] ∧ t.server.now = due) ∨ (t.jobsOf n = [] ∧ t.napsOf n = [due])

theorem Resumes.run (h : t.Resumes n r due) : t.run? n = some r := by
  rcases h with ⟨hat, -⟩ | hat <;> exact hat.run

/-- A run that is in the line is not in an empty one. -/
theorem At.ready_ne_nil {j : Job} (h : t.At n [j] naps r) : t.ready ≠ [] := by
  intro hnil
  have hjobs : t.ready.filter (·.isFor n) = [j] := h.jobs
  rw [hnil] at hjobs
  cases hjobs

/-- The clock stands while a run is in the line. -/
theorem At.now_of_punctual {j : Job} (h : t.At n [j] naps r) (hpunctual : t.Punctual e) :
    (t.on e).server.now = t.server.now :=
  Classical.not_not.1 fun hmoved => h.ready_ne_nil (hpunctual.1 hmoved)

/-- **What is no turn of the run** lets it resume no earlier; on a punctual clock, just then. -/
theorem Resumes.on_other (h : t.Resumes n r due) (hturn : ¬ t.IsTurn n e)
    (habort : e ≠ .abort n) :
    ∃ due', (t.on e).Resumes n r due' ∧ (t.Forward e → due ≤ due') ∧
      (t.Punctual e → due' = due) := by
  rcases h with ⟨hat, hnow⟩ | hat
  · refine ⟨_, .inl ⟨hat.on_other_awake hturn habort, rfl⟩, fun hforward => hnow ▸ hforward,
      fun hpunctual => ?_⟩
    rw [hat.now_of_punctual hpunctual, hnow]
  · by_cases hwoken : ∃ time, e = .wake time ∧ due ≤ time
    · obtain ⟨time, rfl, hdue⟩ := hwoken
      refine ⟨time, .inl ⟨hat.wake_due hdue, rfl⟩, fun _ => hdue, fun hpunctual => ?_⟩
      -- a punctual clock is not moved past the end of the pause
      have hmem : due ∈ t.napsOf n := by
        rw [hat.naps]
        exact List.mem_singleton.2 rfl
      obtain ⟨s, hs, rfl⟩ := List.mem_map.1 hmem
      exact Nat.le_antisymm (hpunctual.2 s (List.mem_of_mem_filter hs)) hdue
    · refine ⟨due, .inr (hat.on_other hturn habort fun time htime d hd => ?_),
        fun _ => Nat.le_refl _, fun _ => rfl⟩
      cases List.mem_singleton.1 hd
      exact Nat.lt_of_not_le fun hdue => hwoken ⟨time, htime, hdue⟩

/-! ## A turn -/

/-- A work whose turn it is stands in the line, and its time is now. -/
theorem Resumes.inLine (h : t.Resumes n r due) (hturn : t.IsTurn n .go) :
    t.At n [.work n] [] r ∧ t.server.now = due :=
  h.resolve_right fun hat => not_isTurn_of_jobsOf hat.jobs .go hturn

/-- A turn of a call in the line is a step of the call. -/
theorem At.on_go_call (h : t.At n [.call n] naps r) (hturn : t.IsTurn n .go) :
    t.on .go = t.yieldTurn.stepCall n r := by
  obtain ⟨others, hready, -⟩ := h.front hturn
  show t.step = _
  unfold step
  rw [hready]
  dsimp only
  rw [h.run]

/-- A turn of a work in the line is a step of the work. -/
theorem At.on_go_work (h : t.At n [.work n] naps r) (hturn : t.IsTurn n .go) {l : Labour}
    (hlabour : r.labour = some l) : t.on .go = t.stepWork n r l := by
  obtain ⟨others, hready, -⟩ := h.front hturn
  show t.step = _
  unfold step
  rw [hready]
  dsimp only
  rw [h.run]
  dsimp only
  rw [hlabour]

/-- The action lets the work go on. -/
def Passes (t : Timeline) (n : RunId) : Action → Prop
  | .report _ _ _ | .pause _ => True
  | .stopIfCancelled _ => t.server.ledger.isCancelled n = false
  | _ => False

/-- **A turn of a work that goes on** is its next action. -/
theorem Resumes.turn (h : t.Resumes n ⟨call, some ⟨key, given, work⟩⟩ due)
    (hturn : t.IsTurn n .go) {a : Action} (hnext : work.next? = some (a, rest))
    (hpasses : t.Passes n a) :
    (t.on .go).Resumes n ⟨call, some ⟨key, given, rest⟩⟩ (due + a.lasts) ∧
      (t.on .go).server = a.onServer key n t.server := by
  obtain ⟨hat, rfl⟩ := h.inLine hturn
  rw [hat.on_go_work hturn rfl]
  unfold stepWork
  rw [hnext]
  dsimp only
  cases a with
  | report progress step description =>
    exact ⟨.inl ⟨(hat.withServer _).setRun _, Server.report_now ..⟩, rfl⟩
  | pause nanoseconds =>
    cases nanoseconds with
    | zero => exact ⟨.inl ⟨hat.setRun _, rfl⟩, rfl⟩
    | succ k => exact ⟨.inr (((hat.yieldTurn hturn).setRun _).sleep _), rfl⟩
  | stopIfCancelled name =>
    have hgoes : t.server.ledger.isCancelled n = false := hpasses
    unfold act
    rw [hgoes]
    exact ⟨.inl ⟨hat.setRun _, rfl⟩, rfl⟩
  | _ => exact hpasses.elim

/-- Work that ends passes the turn to its call. -/
theorem At.endWork (h : t.At n [] naps r) (labour : Option Labour)
    (outcome : Except Failure Unit) :
    (t.endWork n ⟨.working key, labour⟩ outcome).At n [.call n] naps ⟨.ending key outcome, none⟩ :=
  (h.setRun _).enqueue (by simp [Job.isFor])

/-- A work that looks whether its run was cancelled stops if so. -/
theorem Resumes.turn_stops (h : t.Resumes n ⟨.working key, some ⟨key, given, work⟩⟩ due)
    (hturn : t.IsTurn n .go) {name : String}
    (hnext : work.next? = some (.stopIfCancelled name, rest))
    (hcancelled : t.server.ledger.isCancelled n = true) :
    (t.on .go).At n [.call n] [] ⟨.ending key (.error (.runCancelled name given.id)), none⟩ ∧
      (t.on .go).server = t.server := by
  obtain ⟨hat, -⟩ := h.inLine hturn
  rw [hat.on_go_work hturn rfl]
  unfold stepWork
  rw [hnext]
  dsimp only
  unfold act
  dsimp only
  rw [if_pos hcancelled]
  exact ⟨(hat.yieldTurn hturn).endWork _ _, rfl⟩

/-- A work that has nothing left to do returns. -/
theorem Resumes.turn_returns (h : t.Resumes n ⟨.working key, some ⟨key, given, work⟩⟩ due)
    (hturn : t.IsTurn n .go) (hnext : work.next? = none) :
    (t.on .go).At n [.call n] [] ⟨.ending key (.ok ()), none⟩ ∧
      (t.on .go).server = t.server := by
  obtain ⟨hat, -⟩ := h.inLine hturn
  rw [hat.on_go_work hturn rfl]
  unfold stepWork
  rw [hnext]
  exact ⟨(hat.yieldTurn hturn).endWork _ _, rfl⟩

/-- The last turn ends the call. -/
theorem At.turn_finishes (h : t.At n [.call n] [] ⟨.ending key outcome, none⟩)
    (hturn : t.IsTurn n .go) :
    (t.on .go).At n [] [] ⟨.over, none⟩ ∧
      (t.on .go).server = t.server.finish key n outcome := by
  rw [h.on_go_call hturn]
  exact ⟨((h.yieldTurn hturn).withServer _).setRun _, rfl⟩

/-! ## What is kept of the task -/

variable {server : Server} {id : StoreId} {holder : Option RunId} {task : Task}

/-- The session of the task is live and has the store, the store has the task, and it is told which
run holds it. -/
structure HasTask (t : Timeline) (key : TaskKey) (id : StoreId) (holder : Option RunId)
    (task : Task) : Prop where
  live : (Schedule.ofServer t.server).LiveIn key.session id
  holder : t.server.ledger.holder? key = holder
  stored : (t.server.store id).task key.session key.task = .ok task

/-- The event is a turn of the run; or it does not give the run up, and leaves the session its
store, the task, and which run holds it. -/
def Quiet (n : RunId) (key : TaskKey) (id : StoreId) (t : Timeline) (e : Event) : Prop :=
  t.IsTurn n e ∨ e ≠ .abort n ∧ (Schedule.ofServer (t.on e).server).LiveIn key.session id ∧
    ((t.on e).server.store id).task key.session key.task =
      (t.server.store id).task key.session key.task ∧
    (t.on e).server.ledger.holder? key = t.server.ledger.holder? key

/-- The task is kept by a quiet event that is not a turn of the run. -/
theorem HasTask.on_other (h : t.HasTask key id holder task) (hturn : ¬ t.IsTurn n e)
    (hquiet : Quiet n key id t e) : (t.on e).HasTask key id holder task := by
  obtain ⟨-, hlive, hstored, hholder⟩ := hquiet.resolve_left hturn
  exact ⟨hlive, hholder.trans h.holder, hstored.trans h.stored⟩

/-- Only the server tells whether the task is kept. -/
theorem HasTask.congr {t' : Timeline} (h : t.HasTask key id holder task)
    (hserver : t'.server = t.server) : t'.HasTask key id holder task := by
  obtain ⟨hlive, hholder, hstored⟩ := h
  rw [← hserver] at hlive hholder hstored
  exact ⟨hlive, hholder, hstored⟩

/-- A run that stands in a schedule has its task on any timeline with that server. -/
theorem HasTask.of_stands {s : Schedule} {stage : Stage} {given : Option Task}
    (h : s.Stands n key id stage given holder task) (hserver : s.server = t.server) :
    t.HasTask key id holder task := by
  obtain ⟨hlive, -, hholder, hstored⟩ := h
  unfold Schedule.LiveIn at hlive
  rw [hserver] at hlive hholder hstored
  exact ⟨hlive, hholder, hstored⟩

/-- In a schedule of the timeline the run stands as it does here. -/
theorem HasTask.stands (h : t.HasTask key id holder task) {s : Schedule} (hfollows : t.Follows s)
    (hrun : t.run? n = some r) (hkey : ∀ q : RunState, r.Follows q → q.key = key) :
    ∃ q : RunState, r.Follows q ∧ s.Stands n key id q.stage q.task holder task := by
  have hlt : n < s.runs.length := hfollows.length ▸ (List.getElem?_eq_some_iff.1 hrun).1
  have hget := List.getElem?_eq_getElem hlt
  have hq := hfollows.runs n r _ hrun hget
  generalize s.runs[n] = q at hget hq
  cases hkey q hq
  obtain ⟨hlive, hholder, hstored⟩ := h
  rw [hfollows.server] at hlive hholder hstored
  exact ⟨q, hq, hlive, hget, hholder, hstored⟩

/-- A run that has its task on a timeline stands in a schedule with the same server. -/
theorem HasTask.exists_stands {c : Config} {epoch issued : Nat} {files : FileTree}
    (hs : Server.ofConfig c epoch files issued = .ok server) (hscheduled : Scheduled server t)
    (h : t.HasTask key id holder task) (hrun : t.run? n = some r)
    (hkey : ∀ q : RunState, r.Follows q → q.key = key) :
    ∃ (s : Schedule) (q : RunState), s.server = t.server ∧ s.server.ledger.Exact s.runs ∧
      s.server.Apart ∧ r.Follows q ∧ s.Stands n key id q.stage q.task holder task := by
  obtain ⟨moves, hfollows⟩ := hscheduled
  obtain ⟨q, hq, hstands⟩ := h.stands hfollows hrun hkey
  exact ⟨_, q, hfollows.server.symm, Schedule.exact_of_ofConfig hs moves,
    Schedule.apart_play (s := Schedule.ofServer server) (Server.apart_ofConfig hs) moves, hq,
    hstands⟩

/-! ## What the turns write -/

section Writes

variable {c : Config} {epoch issued : Nat} {files : FileTree}
  (hs : Server.ofConfig c epoch files issued = .ok server) (hscheduled : Scheduled server t)
include hs hscheduled

/-- A run that holds a task was not cancelled. -/
theorem HasTask.isCancelled (h : t.HasTask key id (some n) task) :
    t.server.ledger.isCancelled n = false := by
  obtain ⟨s, -, hexact⟩ := hscheduled.exact hs
  obtain ⟨-, -, -, -, hc⟩ := (hexact.holder_iff key n).1 h.holder
  rw [← Bool.not_eq_true, RunLedger.isCancelled_iff]
  exact hc

/-- A run that has not ended and does not hold its task any more was cancelled. -/
theorem HasTask.mem_cancelled (h : t.HasTask key id none task) (hrun : t.run? n = some r)
    (hholds : ∀ q : RunState, r.Follows q → q.key = key ∧ q.stage.holds = true) :
    n ∈ t.server.ledger.cancelled := by
  obtain ⟨s, q, hserver, hexact, -, hq, hstands⟩ :=
    h.exists_stands hs hscheduled hrun fun q hq => (hholds q hq).1
  rw [← hserver]
  by_contra hc
  have hheld := (hexact.holder_iff key n).2 ⟨_, hstands.run, rfl, (hholds q hq).2, hc⟩
  rw [hstands.holder] at hheld
  cases hheld

/-- **The first turn** takes the task and starts it, and the work goes on from there. -/
theorem HasTask.turn_begins (h : t.HasTask key id none task)
    (hat : t.At n [.call n] [] ⟨.starting key work, none⟩) (hturn : t.IsTurn n .go) :
    (t.on .go).Resumes n ⟨.working key, some ⟨key, task.started t.server.clock, work⟩⟩
        (t.on .go).server.now ∧
      (t.on .go).HasTask key id (some n) (task.started t.server.clock) := by
  obtain ⟨s, q, hserver, hexact, hapart, hq, hstands⟩ :=
    h.exists_stands hs hscheduled hat.run fun q hq => hq.call.2
  rw [show q.stage = .asked from hq.call.1, show q.task = none from hq.labour] at hstands
  -- the server once the run holds the task
  obtain ⟨held, haccept, hclock, hmove⟩ : ∃ held, t.server.accept? key n = some held ∧
      held.clock = t.server.clock ∧ (s.move (.step n .accept)).server = held := by
    refine ⟨{ t.server with ledger :=
      { t.server.ledger with holders := (key, n) :: t.server.ledger.holders } }, ?_, rfl, ?_⟩
    · unfold Server.accept?
      rw [h.holder]
    · rw [Schedule.move_step hstands.run]
      unfold RunState.step Server.accept?
      dsimp only
      rw [hstands.holder, hserver]
  have hexact' := Schedule.exact_move hexact (.step n .accept)
  have hapart' := Schedule.apart_move hapart (.step n .accept)
  have hbegun := hstands.accept.begin hexact' hapart'
  have hbegin := hstands.accept.begin_eq hexact' hapart'
  have hmove' : ((s.move (.step n .accept)).move (.step n .begin)).server =
      (held.writeUpdate key Server.startUpdate).2 := by
    rw [Schedule.move_step hstands.accept.run]
    unfold RunState.step
    dsimp only
    rw [hbegin, hmove]
  rw [hmove, hclock] at hbegin hbegun
  have hgo : t.on .go =
      ({ t.yieldTurn with server := (held.writeUpdate key Server.startUpdate).2 }.setRun n
        ⟨.working key, some ⟨key, task.started t.server.clock, work⟩⟩).enqueue (.work n) := by
    rw [hat.on_go_call hturn]
    show t.yieldTurn.startCall n _ key work = _
    unfold startCall
    rw [show t.yieldTurn.server = t.server from rfl, haccept]
    dsimp only
    rw [hbegin]
  rw [hgo]
  exact ⟨.inl ⟨(((hat.yieldTurn hturn).withServer _).setRun _).enqueue (by simp [Job.isFor]), rfl⟩,
    .of_stands hbegun hmove'⟩

/-- **A turn that reports** stores what it says. -/
theorem HasTask.turn_reports {began before : Int64} {reports : List Report}
    (h : t.HasTask key id (some n) (task.reported began reports before))
    (hresumes : t.Resumes n ⟨.working key, some ⟨key, task.started began, work⟩⟩ due)
    (hturn : t.IsTurn n .go) (report : Report)
    (hserver : (t.on .go).server =
      t.server.report key n report.progress report.step report.description) :
    (t.on .go).HasTask key id (some n)
      (task.reported began (reports ++ [report]) t.server.clock) := by
  obtain ⟨hat, -⟩ := hresumes.inLine hturn
  obtain ⟨s, q, hsame, hexact, hapart, hq, hstands⟩ :=
    h.exists_stands hs hscheduled hat.run fun q hq => hq.call.2
  rw [show q.stage = .working from hq.call.1,
    show q.task = some (task.started began) from hq.labour.1] at hstands
  have hreported := hstands.report hexact hapart report
  have hmove : (s.move (.step n report.act)).server = (t.on .go).server := by
    rw [hserver, Schedule.move_step hstands.run, ← hsame]
    rfl
  rw [hsame] at hreported
  exact .of_stands hreported hmove

/-- **The last turn** completes the task, or says what failed, and lets go of it. -/
theorem HasTask.turn_finishes (h : t.HasTask key id (some n) task)
    (hat : t.At n [.call n] [] ⟨.ending key outcome, none⟩) (hturn : t.IsTurn n .go)
    (hfinite : task.progress.isFinite = true) :
    (t.on .go).HasTask key id none (task.ended t.server.clock outcome) := by
  obtain ⟨s, q, hsame, hexact, hapart, hq, hstands⟩ :=
    h.exists_stands hs hscheduled hat.run fun q hq => hq.call.2
  rw [show q.stage = .ending outcome from hq.call.1, show q.task = none from hq.labour] at hstands
  have hfinished := hstands.finish hfinite hexact hapart
  have hmove : (s.move (.step n .finish)).server = (t.on .go).server := by
    rw [(hat.turn_finishes hturn).2, Schedule.move_step hstands.run, ← hsame]
    rfl
  rw [hsame] at hfinished
  exact .of_stands hfinished hmove

/-- **Cancelling the run** says so of the task, and lets go of it. -/
theorem HasTask.cancel (h : t.HasTask key id (some n) task) (hrun : t.run? n = some r)
    (hkey : ∀ q : RunState, r.Follows q → q.key = key) (hfinite : task.progress.isFinite = true) :
    (t.on (.cancel key)).HasTask key id none (task.stopped t.server.clock) := by
  obtain ⟨s, q, hsame, hexact, hapart, -, hstands⟩ := h.exists_stands hs hscheduled hrun hkey
  have hcancelled := hstands.cancel hfinite hapart
  rw [hsame] at hcancelled
  exact .of_stands hcancelled (congrArg (fun server : Server => (server.cancelRun key).2) hsame)

end Writes

/-! ## Without end -/

/-- The timeline after the first `k` of some events that never end. -/
def after (t : Timeline) (events : ℕ → Event) (k : ℕ) : Timeline :=
  t.play ((List.range k).map events)

theorem after_succ (t : Timeline) (events : ℕ → Event) (k : ℕ) :
    t.after events (k + 1) = (t.after events k).on (events k) := by
  unfold after
  rw [List.range_succ, List.map_append, List.map_singleton, play_concat]

/-- A run that is in the line gets a turn some time, and one that pauses is woken. -/
structure Fair (t : Timeline) (n : RunId) (events : ℕ → Event) : Prop where
  line : ∀ k, (t.after events k).jobsOf n ≠ [] →
    ∃ j ≥ k, (t.after events j).IsTurn n (events j)
  time : ∀ k, ∀ due ∈ (t.after events k).napsOf n,
    ∃ j ≥ k, ∃ time ≥ due, events j = .wake time

/-- What holds of each event in its place holds along the first ones. -/
theorem along_after {events : ℕ → Event} (h : ∀ k, P (t.after events k) (events k)) (k : ℕ) :
    t.Along P ((List.range k).map events) := by
  induction k with
  | zero => trivial
  | succ k ih =>
    rw [List.range_succ, List.map_append, List.map_singleton, along_concat]
    exact ⟨ih, h k⟩

/-- More events give no fewer turns. -/
theorem turns_after_mono (t : Timeline) (n : RunId) (events : ℕ → Event) {k j : ℕ} (hkj : k ≤ j) :
    t.turns n ((List.range k).map events) ≤ t.turns n ((List.range j).map events) := by
  obtain ⟨i, rfl⟩ := Nat.exists_eq_add_of_le hkj
  rw [List.range_add, List.map_append]
  exact turns_le_append ..

/-- **A run that is not given up gets its turn** in the end. -/
theorem Resumes.exists_turn {events : ℕ → Event} {k : ℕ} (h : (t.after events k).Resumes n r due)
    (habort : ∀ j, ¬ (t.after events j).IsTurn n (events j) → events j ≠ .abort n)
    (hfair : t.Fair n events) : ∃ j ≥ k, (t.after events j).IsTurn n (events j) := by
  by_contra hnone
  have hturn : ∀ j ≥ k, ¬ (t.after events j).IsTurn n (events j) := fun j hj ht => hnone ⟨j, hj, ht⟩
  have hjobs : ∀ j ≥ k, (t.after events j).jobsOf n = [] := by
    intro j hj
    by_contra hline
    obtain ⟨i, hi, ht⟩ := hfair.line j hline
    exact hturn i (Nat.le_trans hj hi) ht
  -- so the run is never woken
  have hsleeps : ∀ j ≥ k, (t.after events j).At n [] [due] r →
      ∀ time, events j = .wake time → time < due := by
    intro j hj hat time htime
    by_contra hdue
    have hwoken := (hat.wake_due (Nat.le_of_not_lt hdue)).jobs
    have hnext := hjobs (j + 1) (Nat.le_succ_of_le hj)
    rw [after_succ, htime] at hnext
    rw [show (t.after events j).wake time = (t.after events j).on (.wake time) from rfl, hnext]
      at hwoken
    cases hwoken
  have hstays : ∀ j ≥ k, (t.after events j).At n [] [due] r := by
    intro j hj
    induction j, hj using Nat.le_induction with
    | base => exact h.resolve_left fun hat => by simpa [hat.1.jobs] using hjobs k le_rfl
    | succ j hj ih =>
      rw [after_succ]
      refine ih.on_other (hturn j hj) (habort j (hturn j hj)) fun time htime d hd => ?_
      cases List.mem_singleton.1 hd
      exact hsleeps j hj ih time htime
  have hmem : due ∈ (t.after events k).napsOf n := by
    rw [(hstays k le_rfl).naps]
    exact List.mem_singleton.2 rfl
  obtain ⟨j, hj, time, hdue, htime⟩ := hfair.time k due hmem
  exact absurd (hsleeps j hj (hstays j hj) time htime) (Nat.not_lt.2 hdue)

end Timeline

end SessionTasks
