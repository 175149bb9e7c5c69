/-
# Where a run waits

A timeline holds a run in one place at a time: in the line of what can go on, among the works that
pause, or at a gate.  Only what the run itself does moves it, and time that passes; whatever else
happens leaves it where it is.

* `Timeline.on` : what may happen to a timeline, one thing at a time;
* `Timeline.Spares` : what leaves a run where it is, and `Timeline.spares_on` : that is all but the
  turns of the run, the time that it waits for, and giving it up;
* `Timeline.wakes` : what time does to it;
* `Timeline.absent_of_length_le` : in no place is a run that was not asked for.
-/
import SessionTasks.Proofs.Schedule.Timeline
namespace SessionTasks

/-- The job is one of a run. -/
def Job.isFor (n : RunId) : Job → Bool
  | .call m | .work m => m = n
  | .cycle => false

namespace Timeline

/-! ## What may happen -/

/-- What may happen to a timeline. -/
inductive Event where
  /-- The job at the front of the line goes on. -/
  | go
  /-- What has fallen due at a time goes on. -/
  | wake (time : Nat)
  /-- A caller asks for something that is not about runs. -/
  | operate (o : Operation)
  /-- A caller cancels the run of a task. -/
  | cancel (key : TaskKey)
  /-- A caller cancels every run. -/
  | cancelAll
  /-- A run is asked for. -/
  | ask (key : TaskKey) (work : Work)
  /-- The call of a run is given up. -/
  | abort (n : RunId)
  /-- A gate is given permits. -/
  | release (gate : String) (permits : Nat)
  /-- The timer of retention is set. -/
  | startTimer

/-- The timeline after an event. -/
def on (t : Timeline) : Event → Timeline
  | .go => t.step
  | .wake time => t.wake time
  | .operate o => { t with server := t.server.perform o }
  | .cancel key => { t with server := (t.server.cancelRun key).2 }
  | .cancelAll => { t with server := t.server.cancelAll.2 }
  | .ask key work => (t.spawn key work).2
  | .abort n => t.abort n
  | .release gate permits => t.release gate permits
  | .startTimer => t.startTimer.2

/-- The timeline after some events. -/
def play (t : Timeline) (events : List Event) : Timeline := events.foldl on t

variable {t t' t'' : Timeline} {n m : RunId}

/-- Two pieces of events are played one after the other. -/
theorem play_append (t : Timeline) (first second : List Event) :
    t.play (first ++ second) = (t.play first).play second := List.foldl_append ..

theorem play_concat (t : Timeline) (events : List Event) (e : Event) :
    t.play (events ++ [e]) = (t.play events).on e := List.foldl_concat ..

/-- Taking steps until the line is empty is a number of events. -/
theorem exists_play_drain (t : Timeline) (fuel : Nat) : ∃ events, t.drain fuel = t.play events := by
  induction fuel generalizing t with
  | zero => exact ⟨[], rfl⟩
  | succ fuel ih =>
    unfold drain
    split
    · exact ⟨[], rfl⟩
    · obtain ⟨events, hevents⟩ := ih t.step
      exact ⟨.go :: events, hevents⟩

/-- Moving time from deadline to deadline is a number of events. -/
theorem exists_play_pass (last fuel : Nat) (t : Timeline) :
    ∃ events, pass last fuel t = t.play events := by
  induction fuel generalizing t with
  | zero => exact ⟨[], rfl⟩
  | succ fuel ih =>
    unfold pass
    split
    · exact ⟨[], rfl⟩
    · rename_i due _
      split
      · obtain ⟨events, hevents⟩ := exists_play_drain (t.wake due) ((t.wake due).size + 1)
        obtain ⟨rest, hrest⟩ := ih (t.wake due).settle
        refine ⟨.wake due :: (events ++ rest), ?_⟩
        show _ = (t.wake due).play (events ++ rest)
        rw [hrest, play_append, ← hevents]
        rfl
      · exact ⟨[], rfl⟩

/-- **Time that moves is made of events**: what falls due goes on, one job after the other. -/
theorem exists_play_advance (t : Timeline) (milliseconds : Nat) :
    ∃ events, t.advance milliseconds = t.play events := by
  obtain ⟨events, hevents⟩ :=
    exists_play_pass (t.server.now + milliseconds) (milliseconds + 1) t
  refine ⟨events ++ [.operate (.setClock (t.server.now + milliseconds))], ?_⟩
  rw [play_concat, ← hevents]
  rfl

/-! ## What leaves a run where it is -/

/-- The run waits at no gate. -/
def FreeOfGates (t : Timeline) (n : RunId) : Prop :=
  ∀ name g, t.gates.get? name = some g → n ∉ g.waiting

/-- A run that is at no gate waits at none. -/
theorem FreeOfGates.not_mem (h : t.FreeOfGates n) (name : String) :
    n ∉ (t.gate name).waiting := by
  unfold gate
  cases hg : t.gates.get? name with
  | none => exact List.not_mem_nil
  | some g => exact h name g hg

/-- The jobs of the run that can go on. -/
def jobsOf (t : Timeline) (n : RunId) : List Job := t.ready.filter (·.isFor n)

/-- The times that works of the run pause until. -/
def napsOf (t : Timeline) (n : RunId) : List Nat :=
  (t.sleepers.filter (·.run = n)).map Sleeper.due

/-- The run is where it was: in the line, among the works that pause, and what it does. -/
structure Spares (n : RunId) (t t' : Timeline) : Prop where
  jobs : t'.jobsOf n = t.jobsOf n
  naps : t'.napsOf n = t.napsOf n
  gates : t.FreeOfGates n → t'.FreeOfGates n
  run : t'.run? n = t.run? n

theorem Spares.refl (n : RunId) (t : Timeline) : Spares n t t := ⟨rfl, rfl, id, rfl⟩

theorem Spares.trans (h : Spares n t t') (h' : Spares n t' t'') : Spares n t t'' :=
  ⟨h'.jobs.trans h.jobs, h'.naps.trans h.naps, h'.gates ∘ h.gates, h'.run.trans h.run⟩

/-- What is no part of the places does not matter. -/
theorem Spares.of_eq (hready : t'.ready = t.ready) (hsleepers : t'.sleepers = t.sleepers)
    (hgates : t'.gates = t.gates) (hruns : t'.runs = t.runs) : Spares n t t' := by
  refine ⟨by unfold jobsOf; rw [hready], by unfold napsOf; rw [hsleepers], fun h => ?_,
    by unfold run?; rw [hruns]⟩
  unfold FreeOfGates
  rw [hgates]
  exact h

/-- The first job leaves the line; if it is not for the run, the run does not notice. -/
theorem spares_yieldTurn (h : ∀ j ∈ t.ready.head?, j.isFor n = false) : Spares n t t.yieldTurn := by
  refine ⟨?_, rfl, id, rfl⟩
  show (t.ready.drop 1).filter _ = t.ready.filter _
  cases hready : t.ready with
  | nil => rfl
  | cons j rest =>
    rw [hready] at h
    rw [List.drop_one, List.tail_cons,
      List.filter_cons_of_neg (by rw [h j rfl]; exact Bool.false_ne_true)]

/-- Another state of another run. -/
theorem spares_setRun (hne : m ≠ n) (r : Run) : Spares n t (t.setRun m r) :=
  ⟨rfl, rfl, id, List.getElem?_set_ne hne⟩

/-- One more job that is not for the run. -/
theorem spares_enqueue {j : Job} (h : j.isFor n = false) : Spares n t (t.enqueue j) := by
  refine ⟨?_, rfl, id, rfl⟩
  show (t.ready ++ [j]).filter _ = _
  rw [List.filter_append, List.filter_cons_of_neg (by rw [h]; exact Bool.false_ne_true),
    List.filter_nil, List.append_nil]
  rfl

/-- Another run is put off. -/
theorem spares_sleep (hne : m ≠ n) (due : Nat) : Spares n t (t.sleep m due) := by
  refine ⟨rfl, ?_, id, rfl⟩
  show ((t.sleepers ++ [_]).filter _).map _ = _
  rw [List.filter_append, List.filter_cons_of_neg (by simpa using hne), List.filter_nil,
    List.append_nil]
  rfl

/-- A gate changes, and the run does not come to wait there. -/
theorem spares_setGate {name : String} {g : Gate} (h : t.FreeOfGates n → n ∉ g.waiting) :
    Spares n t (t.setGate name g) := by
  refine ⟨rfl, rfl, fun hfree other g' hg' => ?_, rfl⟩
  change (t.gates.insert name g).get? other = some g' at hg'
  rw [KeyMap.get?_insert] at hg'
  split at hg'
  · cases hg'
    exact h hfree
  · exact hfree other g' hg'

theorem isFor_call (hne : m ≠ n) : (Job.call m).isFor n = false := by simpa [Job.isFor] using hne

theorem isFor_work (hne : m ≠ n) : (Job.work m).isFor n = false := by simpa [Job.isFor] using hne

/-! ## The turns of other runs -/

/-- Another run is started. -/
theorem spares_startCall (hne : m ≠ n) (r : Run) (key : TaskKey) (work : Work) :
    Spares n t (t.startCall m r key work) := by
  have hserver : ∀ s, Spares n t { t with server := s } := fun _ => .of_eq rfl rfl rfl rfl
  unfold startCall
  split
  · exact spares_setRun hne _
  · split
    · exact (hserver _).trans (spares_setRun hne _)
    · exact (hserver _).trans (spares_setRun hne _)
    · exact ((hserver _).trans (spares_setRun hne _)).trans (spares_enqueue (isFor_work hne))

/-- The call of another run goes on. -/
theorem spares_stepCall (hne : m ≠ n) (r : Run) : Spares n t (t.stepCall m r) := by
  have hserver : ∀ s, Spares n t { t with server := s } := fun _ => .of_eq rfl rfl rfl rfl
  unfold stepCall
  split
  · exact spares_startCall hne r _ _
  · exact (hserver _).trans (spares_setRun hne _)
  · exact .refl n t
  · exact .refl n t

/-- The work of another run ends. -/
theorem spares_endWork (hne : m ≠ n) (r : Run) (outcome : Except Failure Unit) :
    Spares n t (t.endWork m r outcome) := by
  unfold endWork
  split
  · exact (spares_setRun hne _).trans (spares_enqueue (isFor_call hne))
  · exact spares_setRun hne _

/-- The work of another run takes an action. -/
theorem spares_act (hne : m ≠ n) (hfront : ∀ j ∈ t.ready.head?, j.isFor n = false) (r : Run)
    (l : Labour) (a : Action) : Spares n t (t.act m r l a) := by
  have hyield : Spares n t t.yieldTurn := spares_yieldTurn hfront
  have hend : ∀ outcome, Spares n t (t.yieldTurn.endWork m r outcome) :=
    fun outcome => hyield.trans (spares_endWork hne r outcome)
  have hserver : ∀ s, Spares n t { t with server := s } := fun _ => .of_eq rfl rfl rfl rfl
  have hnote : ∀ v, Spares n t (t.note v) := fun _ => .of_eq rfl rfl rfl rfl
  have hset : ∀ {t' : Timeline}, Spares n t t' → Spares n t (t'.setRun m r) :=
    fun h => h.trans (spares_setRun hne r)
  unfold act
  split
  · exact hset (hserver _)
  · split
    · exact hend _
    · exact hset (.refl n t)
  · exact hset (.refl n t)
  · exact (hset hyield).trans (spares_sleep hne _)
  · rename_i name
    dsimp only
    split
    · exact hset (spares_setGate fun hfree => hfree.not_mem name)
    · have hwait : Spares n t
          (t.setGate name { t.gate name with waiting := (t.gate name).waiting ++ [m] }) := by
        refine spares_setGate fun hfree hmem => ?_
        rcases List.mem_append.1 hmem with hmem | hmem
        · exact hfree.not_mem name hmem
        · exact hne (List.mem_singleton.1 hmem).symm
      exact hset (hwait.trans (spares_yieldTurn hfront))
  · exact hset (hnote _)
  · exact hset (hnote _)
  · exact hend _
  · exact hend _

/-- A turn of another run, or a cycle, leaves the run where it is. -/
theorem spares_step (hfront : ∀ j ∈ t.ready.head?, j.isFor n = false) : Spares n t t.step := by
  have hyield : Spares n t t.yieldTurn := spares_yieldTurn hfront
  unfold step
  split
  · exact .refl n t
  · rename_i m rest hready
    have hne : m ≠ n := by simpa [hready, Job.isFor] using hfront
    split
    · exact hyield.trans (spares_stepCall hne _)
    · exact hyield
  · rename_i m rest hready
    have hne : m ≠ n := by simpa [hready, Job.isFor] using hfront
    split
    · split
      · unfold stepWork
        split
        · exact hyield.trans (spares_endWork hne _ _)
        · exact spares_act hne hfront _ _ _
      · exact hyield
    · exact hyield
  · exact hyield.trans (.of_eq rfl rfl rfl rfl)

/-! ## Events -/

/-- It is the turn of the run. -/
def IsTurn (t : Timeline) (n : RunId) : Event → Prop
  | .go => ∃ j ∈ t.ready.head?, j.isFor n = true
  | _ => False

instance (t : Timeline) (n : RunId) (e : Event) : Decidable (t.IsTurn n e) := by
  unfold IsTurn
  split <;> infer_instance

/-- The call of another run is given up. -/
theorem spares_abort (hne : m ≠ n) : Spares n t (t.abort m) := by
  have hserver : ∀ s, Spares n t { t with server := s } := fun _ => .of_eq rfl rfl rfl rfl
  unfold abort
  split
  · split
    · exact (hserver _).trans (spares_setRun hne _)
    · exact (hserver _).trans (spares_setRun hne _)
    · exact spares_setRun hne _
    · exact spares_setRun hne _
  · exact .refl n t

/-- Another run is asked for. -/
theorem spares_spawn (hne : n ≠ t.runs.length) (key : TaskKey) (work : Work) :
    Spares n t (t.spawn key work).2 := by
  have hadd : Spares n t { t with runs := t.runs ++ [Run.mk (.starting key work) none] } := by
    refine ⟨rfl, rfl, id, ?_⟩
    show (t.runs ++ [_])[n]? = t.runs[n]?
    rcases Nat.lt_or_gt_of_ne hne with hlt | hgt
    · exact List.getElem?_append_left hlt
    · rw [List.getElem?_eq_none (Nat.le_of_lt hgt), List.getElem?_eq_none]
      rw [List.length_append, List.length_singleton]
      exact hgt
  exact hadd.trans (spares_enqueue (isFor_call hne.symm))

/-- The works that a gate lets pass are those that waited at it. -/
theorem spares_release (hfree : t.FreeOfGates n) (name : String) (permits : Nat) :
    Spares n t (t.release name permits) := by
  have hwaiting : n ∉ (t.gate name).waiting := hfree.not_mem name
  have hserved (k : Nat) :
      (((t.gate name).waiting.take k).map Job.work).filter (·.isFor n) = [] := by
    rw [List.filter_eq_nil_iff]
    intro j hj
    obtain ⟨m, hm, rfl⟩ := List.mem_map.1 hj
    have hne : m ≠ n := fun h => hwaiting (h ▸ List.mem_of_mem_take hm)
    rw [isFor_work hne]
    exact Bool.false_ne_true
  refine ⟨?_, rfl, fun _ other g hg => ?_, rfl⟩
  · show (t.ready ++ ((t.gate name).waiting.take _).map Job.work).filter _ = _
    rw [List.filter_append, hserved, List.append_nil]
    rfl
  · change (t.gates.insert name _).get? other = some g at hg
    rw [KeyMap.get?_insert] at hg
    split at hg
    · cases hg
      exact fun hmem => hwaiting (List.mem_of_mem_drop hmem)
    · exact hfree other g hg

/-- The timer of retention is no job of a run. -/
theorem spares_startTimer (n : RunId) (t : Timeline) : Spares n t t.startTimer.2 := by
  unfold startTimer
  dsimp only
  split
  · exact .of_eq rfl rfl rfl rfl
  · exact .refl n t

/-- **Only its own turns, time and giving it up move a run.** -/
theorem spares_on (hfree : t.FreeOfGates n) {e : Event} (hturn : ¬ t.IsTurn n e)
    (hwake : ∀ time, e ≠ .wake time) (habort : e ≠ .abort n)
    (hask : ∀ key work, e = .ask key work → n ≠ t.runs.length) : Spares n t (t.on e) := by
  have hserver : ∀ s, Spares n t { t with server := s } := fun _ => .of_eq rfl rfl rfl rfl
  cases e with
  | go =>
    refine spares_step fun j hj => ?_
    rw [← Bool.not_eq_true]
    exact fun hfor => hturn ⟨j, hj, hfor⟩
  | wake time => exact absurd rfl (hwake time)
  | operate o => exact hserver _
  | cancel key => exact hserver _
  | cancelAll => exact hserver _
  | ask key work => exact spares_spawn (hask key work rfl) key work
  | abort m => exact spares_abort fun h => habort (by rw [h])
  | release gate permits => exact spares_release hfree gate permits
  | startTimer => exact spares_startTimer n t

/-! ## What time does to a run -/

/-- What is due of a run are its own naps. -/
theorem filter_isFor_deadlines (t : Timeline) (n : RunId) (time : Nat) :
    ((t.deadlines.filter (·.1 ≤ time)).map (·.2.2)).filter (·.isFor n) =
      ((t.napsOf n).filter (· ≤ time)).map fun _ => .work n := by
  have hcycle : ((((t.server.sweeper.timer.map fun timer =>
      (timer.due, t.cycleTicket, Job.cycle)).toList).filter (·.1 ≤ time)).map (·.2.2)).filter
        (·.isFor n) = [] := by
    rw [List.filter_eq_nil_iff]
    intro j hj
    obtain ⟨d, hd, rfl⟩ := List.mem_map.1 hj
    obtain ⟨timer, -, rfl⟩ := Option.map_eq_some_iff.1
      (Option.mem_toList.1 (List.mem_of_mem_filter hd))
    exact Bool.false_ne_true
  unfold deadlines napsOf
  rw [List.filter_append, List.map_append, List.filter_append, hcycle, List.append_nil]
  induction t.sleepers with
  | nil => rfl
  | cons s rest ih =>
    by_cases hdue : s.due ≤ time <;> by_cases hrun : s.run = n <;>
      simpa [hdue, hrun, Job.isFor] using ih

/-- **What time does to a run**: what pauses until then goes on at the end of the line. -/
theorem wakes (t : Timeline) (n : RunId) (time : Nat) :
    (∃ woken : List Job, (t.wake time).jobsOf n = t.jobsOf n ++ woken ∧
      woken.Perm (((t.napsOf n).filter (· ≤ time)).map fun _ => .work n)) ∧
    (t.wake time).napsOf n = (t.napsOf n).filter (time < ·) := by
  constructor
  · refine ⟨_, List.filter_append .., ?_⟩
    rw [← filter_isFor_deadlines]
    exact ((List.mergeSort_perm _ _).map _).filter _
  · show ((t.sleepers.filter _).filter _).map _ = ((t.sleepers.filter _).map _).filter _
    rw [List.filter_map, List.filter_filter, List.filter_filter]
    simp only [Function.comp_def, Bool.and_comm]

/-! ## Where a run is -/

/-- The run does as `r` says, and waits in these places and at no gate. -/
structure At (t : Timeline) (n : RunId) (jobs : List Job) (naps : List Nat) (r : Run) : Prop where
  jobs : t.jobsOf n = jobs
  naps : t.napsOf n = naps
  gates : t.FreeOfGates n
  run : t.run? n = some r

variable {jobs : List Job} {naps : List Nat} {r : Run}

/-- What spares a run leaves it where it is. -/
theorem At.spares (h : t.At n jobs naps r) (hspares : Spares n t t') : t'.At n jobs naps r :=
  ⟨hspares.jobs.trans h.jobs, hspares.naps.trans h.naps, hspares.gates h.gates,
    hspares.run.trans h.run⟩

/-- Time leaves a run that does not pause until then. -/
theorem At.wake (h : t.At n jobs naps r) {time : Nat} (hnaps : ∀ due ∈ naps, time < due) :
    (t.wake time).At n jobs naps r := by
  obtain ⟨⟨woken, hjobs, hwoken⟩, hstay⟩ := wakes t n time
  rw [h.naps] at hwoken hstay
  have hnone : naps.filter (· ≤ time) = [] := by
    rw [List.filter_eq_nil_iff]
    intro due hdue
    simpa using hnaps due hdue
  have hall : naps.filter (time < ·) = naps := by
    rw [List.filter_eq_self]
    intro due hdue
    simpa using hnaps due hdue
  rw [hnone, List.map_nil] at hwoken
  rw [hwoken.eq_nil, List.append_nil] at hjobs
  exact ⟨hjobs.trans h.jobs, hstay.trans hall, h.gates, h.run⟩

/-- A run whose pause is over goes on. -/
theorem At.wake_due {due time : Nat} (h : t.At n [] [due] r) (hdue : due ≤ time) :
    (t.wake time).At n [.work n] [] r := by
  obtain ⟨⟨woken, hjobs, hwoken⟩, hstay⟩ := wakes t n time
  rw [h.naps] at hwoken hstay
  rw [List.filter_cons_of_pos (by simpa using hdue), List.filter_nil] at hwoken
  rw [List.filter_cons_of_neg (by simpa using hdue), List.filter_nil] at hstay
  rw [List.perm_singleton.1 hwoken, h.jobs] at hjobs
  exact ⟨hjobs, hstay, h.gates, h.run⟩

/-- A run that is somewhere was asked for. -/
theorem At.lt (h : t.At n jobs naps r) : n < t.runs.length :=
  (List.getElem?_eq_some_iff.1 h.run).1

/-- **An event that is no turn of the run** leaves it where it is, unless its pause is over. -/
theorem At.on_other (h : t.At n jobs naps r) {e : Event} (hturn : ¬ t.IsTurn n e)
    (habort : e ≠ .abort n) (hwake : ∀ time, e = .wake time → ∀ due ∈ naps, time < due) :
    (t.on e).At n jobs naps r := by
  by_cases he : ∃ time, e = .wake time
  · obtain ⟨time, rfl⟩ := he
    exact h.wake (hwake time rfl)
  · exact h.spares (spares_on h.gates hturn (fun time ht => he ⟨time, ht⟩) habort
      fun _ _ _ => Nat.ne_of_lt h.lt)

/-- A run that does not sleep stays where it is, whatever happens but its turn and its end. -/
theorem At.on_other_awake (h : t.At n jobs [] r) {e : Event} (hturn : ¬ t.IsTurn n e)
    (habort : e ≠ .abort n) : (t.on e).At n jobs [] r :=
  h.on_other hturn habort fun _ _ _ hdue => (List.not_mem_nil hdue).elim

/-! ## What a turn does to the run -/

/-- A run that has one job, and whose turn it is, has this job at the front of the line. -/
theorem At.front {j : Job} (h : t.At n [j] naps r) (hturn : t.IsTurn n .go) :
    ∃ rest, t.ready = j :: rest ∧ rest.filter (·.isFor n) = [] := by
  obtain ⟨k, hk, hfor⟩ := hturn
  have hjobs : t.ready.filter (·.isFor n) = [j] := h.jobs
  cases hready : t.ready with
  | nil =>
    rw [hready] at hk
    cases hk
  | cons first rest =>
    rw [hready] at hk hjobs
    cases hk
    rw [List.filter_cons_of_pos hfor] at hjobs
    obtain ⟨rfl, hrest⟩ := List.cons.inj hjobs
    exact ⟨rest, rfl, hrest⟩

/-- A run without a job has no turn. -/
theorem not_isTurn_of_jobsOf (h : t.jobsOf n = []) (e : Event) : ¬ t.IsTurn n e := by
  cases e with
  | go =>
    rintro ⟨j, hj, hfor⟩
    have hmem : j ∈ t.jobsOf n := List.mem_filter.2 ⟨List.mem_of_mem_head? hj, hfor⟩
    rw [h] at hmem
    cases hmem
  | _ => exact id

/-- A run whose turn it is leaves the line. -/
theorem At.yieldTurn {j : Job} (h : t.At n [j] naps r) (hturn : t.IsTurn n .go) :
    t.yieldTurn.At n [] naps r := by
  obtain ⟨rest, hready, hrest⟩ := h.front hturn
  refine ⟨?_, h.naps, h.gates, h.run⟩
  show (t.ready.drop 1).filter _ = []
  rw [hready]
  exact hrest

/-- A run stays in its place when only the server changes. -/
theorem At.withServer (h : t.At n jobs naps r) (server : Server) :
    Timeline.At { t with server } n jobs naps r := ⟨h.jobs, h.naps, h.gates, h.run⟩

/-- A run is where it is, whatever its state. -/
theorem At.setRun (h : t.At n jobs naps r) (r' : Run) : (t.setRun n r').At n jobs naps r' :=
  ⟨h.jobs, h.naps, h.gates, List.getElem?_set_self h.lt⟩

/-- A job of the run joins the line. -/
theorem At.enqueue {j : Job} (h : t.At n [] naps r) (hj : j.isFor n = true) :
    (t.enqueue j).At n [j] naps r := by
  refine ⟨?_, h.naps, h.gates, h.run⟩
  show (t.ready ++ [j]).filter _ = [j]
  have hnone : t.ready.filter (·.isFor n) = [] := h.jobs
  rw [List.filter_append, hnone, List.filter_cons_of_pos hj, List.filter_nil, List.nil_append]

/-- The run is put off, and sleeps until then. -/
theorem At.sleep (h : t.At n jobs [] r) (due : Nat) : (t.sleep n due).At n jobs [due] r := by
  refine ⟨h.jobs, ?_, h.gates, h.run⟩
  show ((t.sleepers ++ [Sleeper.mk due t.tickets n]).filter _).map _ = [due]
  have hnone : t.sleepers.filter (·.run = n) = [] := List.map_eq_nil_iff.1 h.naps
  rw [List.filter_append, hnone, List.filter_cons_of_pos (by simp), List.filter_nil,
    List.nil_append]
  rfl

/-! ## Runs that were not asked for -/

theorem length_runs_setRun (t : Timeline) (m : RunId) (r : Run) :
    (t.setRun m r).runs.length = t.runs.length := List.length_set ..

theorem length_runs_endWork (t : Timeline) (m : RunId) (r : Run) (outcome : Except Failure Unit) :
    (t.endWork m r outcome).runs.length = t.runs.length := by
  unfold endWork
  split <;> exact length_runs_setRun ..

theorem length_runs_stepCall (t : Timeline) (m : RunId) (r : Run) :
    (t.stepCall m r).runs.length = t.runs.length := by
  unfold stepCall startCall
  split
  · split
    · exact length_runs_setRun ..
    · split <;> exact length_runs_setRun ..
  · exact length_runs_setRun ..
  · rfl
  · rfl

theorem length_runs_act (t : Timeline) (m : RunId) (r : Run) (l : Labour) (a : Action) :
    (t.act m r l a).runs.length = t.runs.length := by
  unfold act
  cases a with
  | stopIfCancelled work =>
    dsimp only
    split
    · exact length_runs_endWork ..
    · exact length_runs_setRun ..
  | pause nanoseconds => cases nanoseconds <;> exact length_runs_setRun ..
  | await name =>
    dsimp only
    split <;> exact length_runs_setRun ..
  | fail kind message => exact length_runs_endWork ..
  | panic message => exact length_runs_endWork ..
  | _ => exact length_runs_setRun ..

/-- A step asks for no run. -/
theorem length_runs_step (t : Timeline) : t.step.runs.length = t.runs.length := by
  unfold step
  split
  · rfl
  · split
    · exact length_runs_stepCall ..
    · rfl
  · split
    · split
      · unfold stepWork
        split
        · exact length_runs_endWork ..
        · exact length_runs_act ..
      · rfl
    · rfl
  · rfl

/-- Runs are never forgotten. -/
theorem length_runs_le_on (t : Timeline) (e : Event) :
    t.runs.length ≤ (t.on e).runs.length := by
  cases e with
  | go => exact Nat.le_of_eq (length_runs_step t).symm
  | ask key work =>
    show _ ≤ (t.runs ++ [_]).length
    rw [List.length_append]
    exact Nat.le_add_right _ _
  | abort m =>
    show _ ≤ (t.abort m).runs.length
    unfold abort
    split
    · split <;> exact Nat.le_of_eq (length_runs_setRun ..).symm
    · exact Nat.le_refl _
  | startTimer =>
    show _ ≤ t.startTimer.2.runs.length
    unfold startTimer
    dsimp only
    split <;> exact Nat.le_refl _
  | _ => exact Nat.le_refl _

/-- The run is in no place. -/
structure Absent (t : Timeline) (n : RunId) : Prop where
  jobs : t.jobsOf n = []
  naps : t.napsOf n = []
  gates : t.FreeOfGates n

/-- A run that was not asked for has no place, until it is. -/
theorem Absent.on (h : t.Absent n) {e : Event} (hn : (t.on e).runs.length ≤ n) :
    (t.on e).Absent n := by
  have hnone : t.run? n = none :=
    List.getElem?_eq_none (Nat.le_trans (length_runs_le_on t e) hn)
  by_cases hwake : ∃ time, e = .wake time
  · obtain ⟨time, rfl⟩ := hwake
    obtain ⟨⟨woken, hjobs, hwoken⟩, hstay⟩ := wakes t n time
    rw [h.naps] at hwoken hstay
    rw [List.Perm.eq_nil hwoken, h.jobs] at hjobs
    exact ⟨hjobs, hstay, h.gates⟩
  · by_cases habort : e = .abort n
    · have hsame : t.on e = t := by
        subst habort
        show t.abort n = t
        unfold abort
        rw [hnone]
      rw [hsame]
      exact h
    · have hspares := spares_on h.gates (not_isTurn_of_jobsOf h.jobs e)
        (fun time he => hwake ⟨time, he⟩) habort (by
          rintro key work rfl
          -- the run that is asked for is the last one from then on
          change (t.runs ++ [_]).length ≤ n at hn
          rw [List.length_append, List.length_singleton] at hn
          exact Nat.ne_of_gt hn)
      exact ⟨hspares.jobs.trans h.jobs, hspares.naps.trans h.naps, hspares.gates h.gates⟩

/-- **A run that was not asked for is in no place.** -/
theorem absent_of_length_le (server : Server) (events : List Event)
    (hn : (play { server } events).runs.length ≤ n) : (play { server } events).Absent n := by
  induction events using List.reverseRecOn with
  | nil =>
    refine ⟨rfl, rfl, fun name g hg => ?_⟩
    change (KeyMap.empty.get? name) = some g at hg
    cases hg
  | append_singleton events e ih =>
    rw [play_concat] at hn ⊢
    exact (ih (Nat.le_trans (length_runs_le_on _ e) hn)).on hn

/-- A run that was just asked for is in the line, and in no other place. -/
theorem at_ask (server : Server) (events : List Event) (key : TaskKey) (work : Work) :
    ((play { server } events).on (.ask key work)).At (play { server } events).runs.length
      [.call (play { server } events).runs.length] [] ⟨.starting key work, none⟩ := by
  have habsent := absent_of_length_le server events (Nat.le_refl _)
  generalize play { server } events = t at habsent ⊢
  have hadded : Timeline.At { t with runs := t.runs ++ [Run.mk (.starting key work) none] }
      t.runs.length [] [] ⟨.starting key work, none⟩ :=
    ⟨habsent.jobs, habsent.naps, habsent.gates, List.getElem?_concat_length⟩
  exact hadded.enqueue (by simp [Job.isFor])

end Timeline

end SessionTasks
