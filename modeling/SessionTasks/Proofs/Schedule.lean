/-
# Schedules of runs

A schedule is a server together with every run that was asked for.  The call of a run, its
work and the callers of the server take their steps in any order; a step is what happens
while the runs that hold their tasks are locked, so that two steps never overlap.

* `RunState.takes_step` : what one step of a run can do;
* `RunLedger.Exact` : the invariant, a task is held by the one run of it that has taken it,
  has not ended, was not given up and was not cancelled;
* `Schedule.exact_play` : every schedule of a fresh server keeps it.
-/
import SessionTasks.Proofs.Operation
import SessionTasks.Server.Runs
namespace SessionTasks

/-! ## Runs -/

/-- Where the call of a run is. -/
inductive Stage where
  /-- The run was asked for. -/
  | asked
  /-- The run holds its task and has not started. -/
  | holding
  /-- The call waits for the work. -/
  | working
  /-- It is known what came of the run, and the call is about to end. -/
  | ending (outcome : Except Failure Unit)
  /-- The call has ended, or was given up. -/
  | over

/-- A call at this stage holds its task, unless its run was cancelled. -/
def Stage.holds : Stage → Bool
  | .holding | .working | .ending _ => true
  | .asked | .over => false

/-- A run: where its call is, and the work, which may outlast the call. -/
structure RunState where
  /-- The task of the run. -/
  key : TaskKey
  /-- Where the call is. -/
  stage : Stage := .asked
  /-- The task as it was given to the work, while the work goes on. -/
  task : Option Task := none

/-- What a run may do next. -/
inductive RunStep where
  /-- The call tries to take the task. -/
  | accept
  /-- The call starts the run. -/
  | begin
  /-- The work reports. -/
  | report (progress : Binary64) (step description : Option String)
  /-- The work ends: it returns, fails or breaks off. -/
  | endWork (outcome : Except Failure Unit)
  /-- The call ends. -/
  | finish
  /-- The call is given up where it waits. -/
  | giveUp

namespace RunState

/-- The step of the run with the number `n`.  A step that cannot be taken changes nothing. -/
def step (r : RunState) (n : RunId) (s : Server) : RunStep → Server × RunState
  | .accept =>
    match r.stage with
    | .asked =>
      match s.accept? r.key n with
      | some s => (s, { r with stage := .holding })
      | none => (s, { r with stage := .over })
    | _ => (s, r)
  | .begin =>
    match r.stage with
    | .holding =>
      match s.begin r.key n with
      | (.ok (some task), s) => (s, { r with stage := .working, task := some task })
      | (.ok none, s) => (s, { r with stage := .ending (.ok ()) })
      | (.error f, s) => (s, { r with stage := .ending (.error f) })
    | _ => (s, r)
  | .report progress step description =>
    if r.task.isSome then (s.report r.key n progress step description, r) else (s, r)
  | .endWork outcome =>
    match r.task, r.stage with
    | some _, .working => (s, { r with stage := .ending outcome, task := none })
    | _, _ => (s, { r with task := none })
  | .finish =>
    match r.stage with
    | .ending outcome => (s.finish r.key n outcome, { r with stage := .over })
    | _ => (s, r)
  | .giveUp =>
    match r.stage with
    | .asked => (s, { r with stage := .over })
    | .working | .ending _ => (s.giveUp r.key n, { r with stage := .over })
    | .holding | .over => (s, r)

/-- How the server and the run are after a step. -/
inductive Takes (r : RunState) (n : RunId) (s : Server) : RunStep → Server × RunState → Prop
  /-- The step cannot be taken. -/
  | stay (a : RunStep) : Takes r n s a (s, r)
  /-- Another run holds the task. -/
  | refused (hstage : r.stage = .asked) : Takes r n s .accept (s, { r with stage := .over })
  /-- The run takes the task. -/
  | accepted {s' : Server} (hstage : r.stage = .asked) (haccept : s.accept? r.key n = some s') :
      Takes r n s .accept (s', { r with stage := .holding })
  /-- The work begins. -/
  | begun {task : Task} {s' : Server} (hstage : r.stage = .holding)
      (hbegin : s.begin r.key n = (.ok (some task), s')) :
      Takes r n s .begin (s', { r with stage := .working, task := some task })
  /-- The run does not start: it was cancelled, or its task cannot be written. -/
  | unbegun {result : Except Failure (Option Task)} {s' : Server} (outcome : Except Failure Unit)
      (hstage : r.stage = .holding) (hbegin : s.begin r.key n = (result, s')) :
      Takes r n s .begin (s', { r with stage := .ending outcome })
  /-- The work reports. -/
  | reported (progress : Binary64) (step description : Option String)
      (htask : r.task.isSome = true) :
      Takes r n s (.report progress step description)
        (s.report r.key n progress step description, r)
  /-- The work ends, and the call waits for it. -/
  | ended (outcome : Except Failure Unit) (hstage : r.stage = .working) :
      Takes r n s (.endWork outcome) (s, { r with stage := .ending outcome, task := none })
  /-- The work ends, and no call waits for it. -/
  | endedAlone (outcome : Except Failure Unit) :
      Takes r n s (.endWork outcome) (s, { r with task := none })
  /-- The call ends. -/
  | finished {outcome : Except Failure Unit} (hstage : r.stage = .ending outcome) :
      Takes r n s .finish (s.finish r.key n outcome, { r with stage := .over })
  /-- The call is given up before it takes the task. -/
  | dropped (hstage : r.stage = .asked) : Takes r n s .giveUp (s, { r with stage := .over })
  /-- The call is given up where it waits, and lets go of the task. -/
  | givenUp (hstage : r.stage.holds = true) :
      Takes r n s .giveUp (s.giveUp r.key n, { r with stage := .over })

/-- **Inversion.**  These are all the steps that there are. -/
theorem takes_step (r : RunState) (n : RunId) (s : Server) (a : RunStep) :
    r.Takes n s a (r.step n s a) := by
  unfold step
  cases a with
  | accept =>
    dsimp only
    split
    · rename_i hstage
      split
      · rename_i haccept
        exact .accepted hstage haccept
      · exact .refused hstage
    · exact .stay _
  | begin =>
    dsimp only
    split
    · rename_i hstage
      split
      · rename_i hbegin
        exact .begun hstage hbegin
      · rename_i hbegin
        exact .unbegun _ hstage hbegin
      · rename_i hbegin
        exact .unbegun _ hstage hbegin
    · exact .stay _
  | report progress step description =>
    dsimp only
    split
    · rename_i htask
      exact .reported progress step description htask
    · exact .stay _
  | endWork outcome =>
    dsimp only
    split
    · rename_i hstage
      exact .ended outcome hstage
    · exact .endedAlone outcome
  | finish =>
    dsimp only
    split
    · rename_i hstage
      exact .finished hstage
    · exact .stay _
  | giveUp =>
    dsimp only
    split
    · rename_i hstage
      exact .dropped hstage
    · rename_i hstage
      exact .givenUp (by rw [hstage]; rfl)
    · rename_i hstage
      exact .givenUp (by rw [hstage]; rfl)
    · exact .stay _
    · exact .stay _

/-- A run keeps its task. -/
@[simp] theorem step_key (r : RunState) (n : RunId) (s : Server) (a : RunStep) :
    (r.step n s a).2.key = r.key := by
  have h := r.takes_step n s a
  generalize r.step n s a = after at h ⊢
  cases h <;> rfl

end RunState

/-! ## Schedules -/

/-- A server and every run that was asked for, by their numbers. -/
structure Schedule where
  /-- The server. -/
  server : Server
  /-- The runs. -/
  runs : List RunState := []

/-- What happens next. -/
inductive Move where
  /-- A caller asks for something that is not about runs. -/
  | operate (o : Operation)
  /-- A caller asks for a run of a task. -/
  | ask (key : TaskKey)
  /-- A caller cancels the run that holds a task. -/
  | cancel (key : TaskKey)
  /-- A caller cancels every run. -/
  | cancelAll
  /-- A run goes on. -/
  | step (n : RunId) (a : RunStep)

namespace Schedule

/-- A server of which no run was asked for yet. -/
def ofServer (server : Server) : Schedule := ⟨server, []⟩

/-- The schedule after a move. -/
def move (s : Schedule) : Move → Schedule
  | .operate o => { s with server := s.server.perform o }
  | .ask key => { s with runs := s.runs ++ [{ key := key }] }
  | .cancel key => { s with server := (s.server.cancelRun key).2 }
  | .cancelAll => { s with server := s.server.cancelAll.2 }
  | .step n a =>
    match s.runs[n]? with
    | some r => ⟨(r.step n s.server a).1, s.runs.set n (r.step n s.server a).2⟩
    | none => s

/-- The schedule after some moves. -/
def play (s : Schedule) (moves : List Move) : Schedule := moves.foldl move s

@[simp] theorem play_nil (s : Schedule) : s.play [] = s := rfl

@[simp] theorem play_cons (s : Schedule) (m : Move) (moves : List Move) :
    s.play (m :: moves) = (s.move m).play moves := rfl

/-- Two pieces of a schedule are played one after the other. -/
theorem play_append (s : Schedule) (a b : List Move) : s.play (a ++ b) = (s.play a).play b :=
  List.foldl_append

theorem play_concat (s : Schedule) (moves : List Move) (m : Move) :
    s.play (moves ++ [m]) = (s.play moves).move m :=
  s.play_append moves [m]

/-- At one of the moves `P` was the case, of the schedule before the move and of the move. -/
def Happens (P : Schedule → Move → Prop) (s : Schedule) : List Move → Prop
  | [] => False
  | m :: rest => P s m ∨ Happens P (s.move m) rest

instance decidableHappens (P : Schedule → Move → Prop) [∀ s m, Decidable (P s m)] :
    ∀ (s : Schedule) (moves : List Move), Decidable (s.Happens P moves)
  | _, [] => inferInstanceAs (Decidable False)
  | s, m :: rest =>
    have := decidableHappens P (s.move m) rest
    inferInstanceAs (Decidable (P s m ∨ Happens P (s.move m) rest))

/-- Something happens in a schedule when it happens in one of its pieces. -/
theorem happens_append (P : Schedule → Move → Prop) (s : Schedule) (a b : List Move) :
    s.Happens P (a ++ b) ↔ s.Happens P a ∨ (s.play a).Happens P b := by
  induction a generalizing s with
  | nil => simp [Happens]
  | cons m rest ih =>
    rw [List.cons_append, Happens, Happens, ih, or_assoc]
    rfl

theorem happens_singleton (P : Schedule → Move → Prop) (s : Schedule) (m : Move) :
    s.Happens P [m] ↔ P s m := by
  simp [Happens]

/-- Something happens in a schedule when it happens before the last move or with it. -/
theorem happens_concat_iff {P : Schedule → Move → Prop} {s : Schedule} {moves : List Move}
    {m : Move} : s.Happens P (moves ++ [m]) ↔ s.Happens P moves ∨ P (s.play moves) m := by
  rw [happens_append, happens_singleton]

/-- What happened has happened later too. -/
theorem Happens.concat {P : Schedule → Move → Prop} {s : Schedule} {moves : List Move}
    (h : s.Happens P moves) (m : Move) : s.Happens P (moves ++ [m]) :=
  happens_concat_iff.2 (Or.inl h)

theorem happens_concat_self {P : Schedule → Move → Prop} {s : Schedule} {moves : List Move}
    {m : Move} (h : P (s.play moves) m) : s.Happens P (moves ++ [m]) :=
  happens_concat_iff.2 (Or.inr h)

/-- A move of a run is a step of that run. -/
theorem move_step {s : Schedule} {n : RunId} {r : RunState} (hr : s.runs[n]? = some r)
    (a : RunStep) :
    s.move (.step n a) = ⟨(r.step n s.server a).1, s.runs.set n (r.step n s.server a).2⟩ := by
  simp only [move, hr]

end Schedule

/-- What an entry of a list with one more entry is. -/
theorem getElem?_concat_eq_some_iff {α : Type} {l : List α} {a b : α} {n : Nat} :
    (l ++ [a])[n]? = some b ↔ l[n]? = some b ∨ n = l.length ∧ a = b := by
  rw [List.getElem?_append]
  split
  · rename_i hn
    exact ⟨Or.inl, fun h => h.resolve_right fun hc => absurd hc.1 (Nat.ne_of_lt hn)⟩
  · rename_i hn
    rw [List.getElem?_eq_none (by omega : l.length ≤ n), List.getElem?_singleton]
    constructor
    · intro h
      split at h
      · rename_i hz
        exact Or.inr ⟨Nat.le_antisymm (Nat.sub_eq_zero_iff_le.1 hz) (Nat.le_of_not_lt hn),
          Option.some.inj h⟩
      · cases h
    · rintro (h | ⟨rfl, rfl⟩)
      · cases h
      · simp

/-! ## What holds a task -/

namespace RunLedger

/-- One more task that is held. -/
theorem holder?_cons (l : RunLedger) (key other : TaskKey) (n : RunId) :
    RunLedger.holder? { l with holders := (key, n) :: l.holders } other =
      if other = key then some n else l.holder? other := by
  unfold holder?
  by_cases ho : other = key
  · simp [ho]
  · have hne : (other == key) = false := by simpa using ho
    rw [List.lookup_cons, hne, if_neg ho]

/-- A task that is let go has no holder, and the others keep theirs. -/
theorem holder?_drop (l : RunLedger) (key other : TaskKey) :
    (l.drop key).holder? other = if other = key then none else l.holder? other := by
  unfold holder? drop
  induction l.holders with
  | nil => simp
  | cons e rest ih =>
    obtain ⟨k, n⟩ := e
    by_cases hk : k = key
    · rw [List.filter_cons_of_neg (by simpa using hk), ih]
      by_cases ho : other = key
      · rw [if_pos ho, if_pos ho]
      · have hne : (other == k) = false := by simpa [hk] using ho
        rw [if_neg ho, if_neg ho, List.lookup_cons, hne]
    · rw [List.filter_cons_of_pos (by simpa using hk), List.lookup_cons, List.lookup_cons, ih]
      by_cases ho : other = key
      · have hne : (other == k) = false := by simpa [ho] using Ne.symm hk
        rw [if_pos ho, hne, if_pos ho]
      · rw [if_neg ho, if_neg ho]

/-- Letting go takes a task away from the run that holds it, and from no other. -/
theorem holder?_release_eq_some_iff (l : RunLedger) (key other : TaskKey) (n m : RunId) :
    (l.release key n).holder? other = some m ↔
      l.holder? other = some m ∧ ¬ (other = key ∧ m = n) := by
  unfold release
  by_cases h : l.holder? key = some n
  · rw [if_pos h, holder?_drop]
    by_cases ho : other = key
    · subst ho
      rw [if_pos rfl, h]
      constructor
      · intro hc
        cases hc
      · rintro ⟨hm, hne⟩
        cases hm
        exact absurd ⟨rfl, rfl⟩ hne
    · rw [if_neg ho]
      exact ⟨fun hm => ⟨hm, fun hc => ho hc.1⟩, And.left⟩
  · rw [if_neg h]
    refine ⟨fun hm => ⟨hm, ?_⟩, And.left⟩
    rintro ⟨rfl, rfl⟩
    exact h hm

/-- The holder that is found for a task is listed with it. -/
theorem mem_of_holder? {l : RunLedger} {key : TaskKey} {n : RunId} (h : l.holder? key = some n) :
    (key, n) ∈ l.holders := by
  obtain ⟨before, after, heq, -⟩ := List.lookup_eq_some_iff.1 h
  rw [heq]
  exact List.mem_append_right before List.mem_cons_self

/-- The tasks that are held are those that a run holds. -/
theorem mem_keys_iff {l : RunLedger} {key : TaskKey} :
    key ∈ l.keys ↔ (l.holder? key).isSome = true := by
  unfold RunLedger.keys
  rw [List.mem_mergeSort]
  constructor
  · intro hkey
    rw [← Option.ne_none_iff_isSome]
    intro hnone
    obtain ⟨e, he, rfl⟩ := List.mem_map.1 hkey
    have hne := List.lookup_eq_none_iff.1 hnone e he
    simp at hne
  · intro hsome
    obtain ⟨n, hn⟩ := Option.isSome_iff_exists.1 hsome
    exact List.mem_map.2 ⟨_, mem_of_holder? hn, rfl⟩

@[simp] theorem release_cancelled (l : RunLedger) (key : TaskKey) (n : RunId) :
    (l.release key n).cancelled = l.cancelled := by
  unfold release
  split <;> rfl

theorem isCancelled_iff (l : RunLedger) (n : RunId) :
    l.isCancelled n = true ↔ n ∈ l.cancelled := by
  simp [isCancelled]

/-- **The ledger is exact.**  A task is held by the one run of it that has taken it, has not
ended or been given up, and was not cancelled.  Only a run that has tried to take its task is
ever cancelled, and work goes on only while its call waits for it or is over. -/
structure Exact (l : RunLedger) (runs : List RunState) : Prop where
  holder_iff : ∀ (key : TaskKey) (n : RunId), l.holder? key = some n ↔
    ∃ r, runs[n]? = some r ∧ r.key = key ∧ r.stage.holds = true ∧ n ∉ l.cancelled
  cancelled : ∀ n ∈ l.cancelled, ∃ r, runs[n]? = some r ∧ r.stage ≠ .asked
  work : ∀ (n : RunId) (r : RunState), runs[n]? = some r → r.task.isSome = true →
    r.stage = .working ∨ r.stage = .over

/-- A ledger without holders is exact for no runs. -/
theorem Exact.empty : Exact {} [] where
  holder_iff := by
    intro key n
    simp [holder?]
  cancelled := by
    intro n hn
    cases hn
  work := by
    intro n r hr
    simp at hr

/-- A run that tries to take its task was not cancelled. -/
theorem Exact.not_mem_cancelled {l : RunLedger} {runs : List RunState} (h : l.Exact runs)
    {n : RunId} {r : RunState} (hr : runs[n]? = some r) (hstage : r.stage = .asked) :
    n ∉ l.cancelled := by
  intro hn
  obtain ⟨r', hr', hne⟩ := h.cancelled n hn
  rw [hr] at hr'
  cases hr'
  exact hne hstage

/-- A run holds at most the task it was asked for. -/
theorem Exact.key_of_holder {l : RunLedger} {runs : List RunState} (h : l.Exact runs)
    {n : RunId} {r : RunState} (hr : runs[n]? = some r) {key : TaskKey}
    (hn : l.holder? key = some n) : r.key = key := by
  obtain ⟨r', hr', hkey, -⟩ := (h.holder_iff key n).1 hn
  rw [hr] at hr'
  cases hr'
  exact hkey

/-- One more run that was asked for. -/
theorem Exact.ask {l : RunLedger} {runs : List RunState} (h : l.Exact runs) (key : TaskKey) :
    l.Exact (runs ++ [{ key := key }]) where
  holder_iff := by
    intro other n
    rw [h.holder_iff]
    constructor
    · rintro ⟨r, hr, hrest⟩
      exact ⟨r, getElem?_concat_eq_some_iff.2 (Or.inl hr), hrest⟩
    · rintro ⟨r, hr, hkey, hholds, hc⟩
      rcases getElem?_concat_eq_some_iff.1 hr with hr | ⟨-, rfl⟩
      · exact ⟨r, hr, hkey, hholds, hc⟩
      · exact absurd hholds Bool.false_ne_true
  cancelled := by
    intro n hn
    obtain ⟨r, hr, hstage⟩ := h.cancelled n hn
    exact ⟨r, getElem?_concat_eq_some_iff.2 (Or.inl hr), hstage⟩
  work := by
    intro n r hr htask
    rcases getElem?_concat_eq_some_iff.1 hr with hr | ⟨-, rfl⟩
    · exact h.work n r hr htask
    · exact absurd htask Bool.false_ne_true

/-- **Frame of a step.**  When one run goes on, it is enough to look at what this run holds,
as long as the others hold what they held. -/
theorem Exact.set {l l' : RunLedger} {runs : List RunState} (h : l.Exact runs) {n : RunId}
    {r r' : RunState} (hr : runs[n]? = some r)
    (hothers : ∀ key m, m ≠ n → (l'.holder? key = some m ↔ l.holder? key = some m))
    (hown : ∀ key, l'.holder? key = some n ↔
      r'.key = key ∧ r'.stage.holds = true ∧ n ∉ l.cancelled)
    (hcancelled : l'.cancelled = l.cancelled)
    (hstage : r'.stage = .asked → r.stage = .asked)
    (hwork : r'.task.isSome = true → r'.stage = .working ∨ r'.stage = .over) :
    l'.Exact (runs.set n r') := by
  have hn : n < runs.length := (List.getElem?_eq_some_iff.1 hr).1
  have hself : (runs.set n r')[n]? = some r' := List.getElem?_set_self hn
  have hother : ∀ m, m ≠ n → (runs.set n r')[m]? = runs[m]? := fun m hm =>
    List.getElem?_set_ne (Ne.symm hm)
  -- each clause splits on whether it speaks of the run that was set
  refine ⟨fun key m => ?_, fun m hm => ?_, fun m q hq htask => ?_⟩
  · rw [hcancelled]
    by_cases hm : m = n
    · subst hm
      rw [hown, hself]
      constructor
      · rintro ⟨hkey, hholds, hc⟩
        exact ⟨r', rfl, hkey, hholds, hc⟩
      · rintro ⟨q, hq, hkey, hholds, hc⟩
        cases hq
        exact ⟨hkey, hholds, hc⟩
    · rw [hothers key m hm, h.holder_iff, hother m hm]
  · rw [hcancelled] at hm
    obtain ⟨q, hq, hne⟩ := h.cancelled m hm
    by_cases hmn : m = n
    · subst hmn
      rw [hr] at hq
      cases hq
      exact ⟨r', hself, fun ha => hne (hstage ha)⟩
    · exact ⟨q, (hother m hmn).trans hq, hne⟩
  · by_cases hmn : m = n
    · subst hmn
      rw [hself] at hq
      cases hq
      exact hwork htask
    · exact h.work m q ((hother m hmn).symm.trans hq) htask

/-- A step of a run that leaves the ledger alone. -/
theorem Exact.set_of_holds {l : RunLedger} {runs : List RunState} (h : l.Exact runs) {n : RunId}
    {r r' : RunState} (hr : runs[n]? = some r) (hkey : r'.key = r.key)
    (hholds : r'.stage.holds = r.stage.holds) (hstage : r'.stage = .asked → r.stage = .asked)
    (hwork : r'.task.isSome = true → r'.stage = .working ∨ r'.stage = .over) :
    l.Exact (runs.set n r') := by
  refine h.set hr (fun _ _ _ => Iff.rfl) (fun key => ?_) rfl hstage hwork
  rw [h.holder_iff, hkey, hholds]
  constructor
  · rintro ⟨q, hq, hrest⟩
    rw [hr] at hq
    cases hq
    exact hrest
  · intro hrest
    exact ⟨r, hr, hrest⟩

/-- The call of a run takes the task. -/
theorem Exact.accept {l : RunLedger} {runs : List RunState} (h : l.Exact runs) {n : RunId}
    {r : RunState} (hr : runs[n]? = some r) (hstage : r.stage = .asked)
    (hfree : l.holder? r.key = none) :
    RunLedger.Exact { l with holders := (r.key, n) :: l.holders }
      (runs.set n { r with stage := .holding }) := by
  have hc : n ∉ l.cancelled := h.not_mem_cancelled hr hstage
  refine h.set hr (fun key m hm => ?_) (fun key => ?_) rfl (fun ha => by cases ha) ?_
  · rw [holder?_cons]
    -- no other run can hold this task, which was free
    by_cases hk : key = r.key
    · subst hk
      rw [if_pos rfl, hfree]
      constructor
      · intro he
        exact absurd (Option.some.inj he).symm hm
      · intro he
        cases he
    · rw [if_neg hk]
  · rw [holder?_cons]
    by_cases hk : key = r.key
    · rw [if_pos hk]
      exact ⟨fun _ => ⟨hk.symm, rfl, hc⟩, fun _ => rfl⟩
    · rw [if_neg hk]
      constructor
      · intro hn
        exact absurd (h.key_of_holder hr hn).symm hk
      · rintro ⟨hkey, -⟩
        exact absurd hkey.symm hk
  · intro htask
    rcases h.work n r hr htask with hw | hw
    · rw [hstage] at hw
      cases hw
    · rw [hstage] at hw
      cases hw

/-- The call of a run lets go of its task and is over. -/
theorem Exact.release {l : RunLedger} {runs : List RunState} (h : l.Exact runs) {n : RunId}
    {r : RunState} (hr : runs[n]? = some r) :
    (l.release r.key n).Exact (runs.set n { r with stage := .over }) := by
  refine h.set hr (fun key m hm => ?_) (fun key => ?_) (release_cancelled l r.key n)
    (fun ha => by cases ha) (fun _ => Or.inr rfl)
  · rw [holder?_release_eq_some_iff]
    exact ⟨And.left, fun hk => ⟨hk, fun hc => hm hc.2⟩⟩
  · rw [holder?_release_eq_some_iff]
    constructor
    · rintro ⟨hk, hne⟩
      exact absurd ⟨(h.key_of_holder hr hk).symm, rfl⟩ hne
    · rintro ⟨-, hholds, -⟩
      cases hholds

/-- The run that holds a task is cancelled. -/
theorem Exact.cancel {l : RunLedger} {runs : List RunState} (h : l.Exact runs) {key : TaskKey}
    {n : RunId} (hn : l.holder? key = some n) :
    RunLedger.Exact { l.drop key with cancelled := n :: l.cancelled } runs where
  holder_iff := by
    intro other m
    show (l.drop key).holder? other = some m ↔ _
    rw [holder?_drop]
    by_cases ho : other = key
    · subst ho
      rw [if_pos rfl]
      constructor
      · intro hc
        cases hc
      -- a run at work on the task that is not cancelled would be its holder, which just was
      · rintro ⟨r, hr, hkey, hholds, hc⟩
        rw [List.mem_cons, not_or] at hc
        have hm := (h.holder_iff other m).2 ⟨r, hr, hkey, hholds, hc.2⟩
        rw [hn] at hm
        exact absurd (Option.some.inj hm).symm hc.1
    · rw [if_neg ho, h.holder_iff]
      constructor
      · rintro ⟨r, hr, hkey, hholds, hc⟩
        refine ⟨r, hr, hkey, hholds, ?_⟩
        rw [List.mem_cons, not_or]
        refine ⟨?_, hc⟩
        rintro rfl
        exact ho (hkey.symm.trans (h.key_of_holder hr hn))
      · rintro ⟨r, hr, hkey, hholds, hc⟩
        exact ⟨r, hr, hkey, hholds, fun hm => hc (List.mem_cons_of_mem _ hm)⟩
  cancelled := by
    intro m hm
    rcases List.mem_cons.1 hm with rfl | hm
    · obtain ⟨r, hr, -, hholds, -⟩ := (h.holder_iff key m).1 hn
      refine ⟨r, hr, ?_⟩
      intro ha
      rw [ha] at hholds
      cases hholds
    · exact h.cancelled m hm
  work := h.work

end RunLedger

/-! ## Every move keeps the ledger exact -/

namespace Server

/-- No run holds a task of a fresh server. -/
theorem ofConfig_ledger {c : Config} {epoch issued : Nat} {files : FileTree} {s : Server}
    (h : ofConfig c epoch files issued = .ok s) : s.ledger = {} := by
  unfold ofConfig at h
  split at h
  · cases h
  · split at h
    · cases h
    · cases h
      rfl

/-- A task is accepted only when no run holds it, and then the run does. -/
theorem accept?_eq_some {s s' : Server} {key : TaskKey} {n : RunId}
    (h : s.accept? key n = some s') :
    s.ledger.holder? key = none ∧
      s'.ledger = { s.ledger with holders := (key, n) :: s.ledger.holders } := by
  unfold accept? at h
  split at h
  · cases h
  · rename_i hfree
    cases h
    exact ⟨hfree, rfl⟩

theorem begin_ledger (s : Server) (key : TaskKey) (n : RunId) :
    (s.begin key n).2.ledger = s.ledger := by
  unfold begin
  split
  · rfl
  · exact writeUpdate_ledger s key startUpdate

theorem report_ledger (s : Server) (key : TaskKey) (n : RunId) (progress : Binary64)
    (step description : Option String) :
    (s.report key n progress step description).ledger = s.ledger := by
  unfold report
  split
  · rfl
  · rw [writeUpdate_ledger]

/-- The ledger releases the task when the run finishes, whatever the outcome. -/
theorem finish_ledger (s : Server) (key : TaskKey) (n : RunId) (outcome : Except Failure Unit) :
    (s.finish key n outcome).ledger = s.ledger.release key n := by
  unfold finish
  dsimp only
  split
  · rfl
  · rw [writeUpdate_ledger]

/-- Cancelling a run that holds its task frees the task and marks the run. -/
theorem cancelRun_ledger_of_some {s : Server} {key : TaskKey} {n : RunId}
    (h : s.ledger.holder? key = some n) :
    (s.cancelRun key).2.ledger =
      { s.ledger.drop key with cancelled := n :: s.ledger.cancelled } := by
  unfold cancelRun
  rw [h]
  dsimp only
  rw [writeUpdate_ledger]
  rfl

/-- Nothing is cancelled when no run holds the task. -/
theorem cancelRun_of_none {s : Server} {key : TaskKey} (h : s.ledger.holder? key = none) :
    s.cancelRun key = (false, s) := by
  unfold cancelRun
  rw [h]

/-- A run that was cancelled stays cancelled. -/
theorem cancelled_cancelRun {s : Server} {n : RunId} (h : n ∈ s.ledger.cancelled)
    (key : TaskKey) : n ∈ (s.cancelRun key).2.ledger.cancelled := by
  cases hm : s.ledger.holder? key with
  | none =>
    rw [cancelRun_of_none hm]
    exact h
  | some m =>
    rw [cancelRun_ledger_of_some hm]
    exact List.mem_cons_of_mem m h

/-- A run that is cancelled stays so while others are cancelled. -/
theorem cancelled_cancelRuns (keys : List TaskKey) {s : Server} {n : RunId}
    (h : n ∈ s.ledger.cancelled) : n ∈ (s.cancelRuns keys).2.ledger.cancelled := by
  induction keys generalizing s with
  | nil => exact h
  | cons key rest ih => exact ih (cancelled_cancelRun h key)

/-- Cancelling the run of a task keeps the ledger exact. -/
theorem exact_cancelRun {s : Server} {runs : List RunState} (h : s.ledger.Exact runs)
    (key : TaskKey) : (s.cancelRun key).2.ledger.Exact runs := by
  cases hn : s.ledger.holder? key with
  | none =>
    rw [cancelRun_of_none hn]
    exact h
  | some n =>
    rw [cancelRun_ledger_of_some hn]
    exact h.cancel hn

/-- Exactness survives that some runs are cancelled. -/
theorem exact_cancelRuns {runs : List RunState} (keys : List TaskKey) {s : Server}
    (h : s.ledger.Exact runs) : (s.cancelRuns keys).2.ledger.Exact runs := by
  induction keys generalizing s with
  | nil => exact h
  | cons key rest ih => exact ih (exact_cancelRun h key)

end Server

/-- No step of a run cancels a run. -/
theorem RunState.step_cancelled (r : RunState) (n : RunId) (s : Server) (a : RunStep) :
    (r.step n s a).1.ledger.cancelled = s.ledger.cancelled := by
  have h := r.takes_step n s a
  generalize r.step n s a = after at h ⊢
  cases h with
  | accepted hstage haccept => rw [(Server.accept?_eq_some haccept).2]
  | begun hstage hbegin =>
    have hledger := s.begin_ledger r.key n
    rw [hbegin] at hledger
    exact congrArg RunLedger.cancelled hledger
  | unbegun outcome hstage hbegin =>
    have hledger := s.begin_ledger r.key n
    rw [hbegin] at hledger
    exact congrArg RunLedger.cancelled hledger
  | reported progress step description htask => rw [Server.report_ledger]
  | finished hstage => rw [Server.finish_ledger, RunLedger.release_cancelled]
  | givenUp hstage => exact RunLedger.release_cancelled s.ledger r.key n
  | _ => rfl

namespace Schedule

/-- **What a move does to a run.**  It leaves the run as it was, the run was asked for just
now, or the run took a step. -/
theorem run_of_move {s : Schedule} {m : Move} {n : RunId} {r' : RunState}
    (h : (s.move m).runs[n]? = some r') :
    s.runs[n]? = some r' ∨ (m = .ask r'.key ∧ r' = { key := r'.key }) ∨
      ∃ r a, m = .step n a ∧ s.runs[n]? = some r ∧ r' = (r.step n s.server a).2 := by
  cases m with
  | ask key =>
    rcases getElem?_concat_eq_some_iff.1 h with hr | ⟨-, rfl⟩
    · exact Or.inl hr
    · exact Or.inr (Or.inl ⟨rfl, rfl⟩)
  | step k a =>
    cases hk : s.runs[k]? with
    | none =>
      have hmove : s.move (.step k a) = s := by simp only [move, hk]
      rw [hmove] at h
      exact Or.inl h
    | some q =>
      rw [move_step hk] at h
      by_cases hkn : k = n
      · subst hkn
        rw [List.getElem?_set_self (List.getElem?_eq_some_iff.1 hk).1] at h
        exact Or.inr (Or.inr ⟨q, a, rfl, hk, (Option.some.inj h).symm⟩)
      · rw [List.getElem?_set_ne hkn] at h
        exact Or.inl h
  | _ => exact Or.inl h

/-- A run that was cancelled stays cancelled, whatever happens. -/
theorem cancelled_move {s : Schedule} {n : RunId} (h : n ∈ s.server.ledger.cancelled) (m : Move) :
    n ∈ (s.move m).server.ledger.cancelled := by
  cases m with
  | operate o =>
    show n ∈ (s.server.perform o).ledger.cancelled
    rw [Server.perform_ledger]
    exact h
  | ask key => exact h
  | cancel key => exact Server.cancelled_cancelRun h key
  | cancelAll => exact Server.cancelled_cancelRuns _ h
  | step k a =>
    cases hr : s.runs[k]? with
    | none => simpa only [move, hr] using h
    | some r =>
      rw [move_step hr]
      show n ∈ (r.step k s.server a).1.ledger.cancelled
      rw [RunState.step_cancelled]
      exact h

/-- A run that is cancelled stays so. -/
theorem cancelled_play {s : Schedule} {n : RunId} (h : n ∈ s.server.ledger.cancelled)
    (moves : List Move) : n ∈ (s.play moves).server.ledger.cancelled := by
  induction moves generalizing s with
  | nil => exact h
  | cons m rest ih => exact ih (cancelled_move h m)

/-- **Step lemma.**  Whatever a run does next, the ledger stays exact. -/
theorem exact_step {s : Schedule} (h : s.server.ledger.Exact s.runs) (n : RunId) (a : RunStep) :
    (s.move (.step n a)).server.ledger.Exact (s.move (.step n a)).runs := by
  cases hr : s.runs[n]? with
  | none =>
    have hmove : s.move (.step n a) = s := by simp only [move, hr]
    rw [hmove]
    exact h
  | some r =>
    have hsame : s.server.ledger.Exact (s.runs.set n r) :=
      h.set_of_holds hr rfl rfl id (h.work n r hr)
    -- before the work begins there is none, whatever the stage after the step
    have hidle : r.stage = .asked ∨ r.stage = .holding → r.task.isSome = true → False := by
      intro hstage htask
      rcases h.work n r hr htask with hw | hw <;> rw [hw] at hstage <;> simp at hstage
    rw [move_step hr]
    have htakes := r.takes_step n s.server a
    generalize r.step n s.server a = after at htakes ⊢
    cases htakes with
    | stay => exact hsame
    | refused hstage =>
      refine h.set_of_holds hr rfl ?_ (fun ha => by cases ha) (fun _ => Or.inr rfl)
      rw [hstage]
      rfl
    | accepted hstage haccept =>
      obtain ⟨hfree, hledger⟩ := Server.accept?_eq_some haccept
      dsimp only
      rw [hledger]
      exact h.accept hr hstage hfree
    | begun hstage hbegin =>
      have hledger := s.server.begin_ledger r.key n
      rw [hbegin] at hledger
      dsimp only at hledger ⊢
      rw [hledger]
      refine h.set_of_holds hr rfl ?_ (fun ha => by cases ha) (fun _ => Or.inl rfl)
      rw [hstage]
      rfl
    | unbegun outcome hstage hbegin =>
      have hledger := s.server.begin_ledger r.key n
      rw [hbegin] at hledger
      dsimp only at hledger ⊢
      rw [hledger]
      refine h.set_of_holds hr rfl ?_ (fun ha => by cases ha)
        (fun htask => (hidle (Or.inr hstage) htask).elim)
      rw [hstage]
      rfl
    | reported progress step description htask =>
      dsimp only
      rw [Server.report_ledger]
      exact hsame
    | ended outcome hstage =>
      refine h.set_of_holds hr rfl ?_ (fun ha => by cases ha) (fun hc => by cases hc)
      rw [hstage]
      rfl
    | endedAlone outcome => exact h.set_of_holds hr rfl rfl id (fun hc => by cases hc)
    | finished hstage =>
      dsimp only
      rw [Server.finish_ledger]
      exact h.release hr
    | dropped hstage =>
      refine h.set_of_holds hr rfl ?_ (fun ha => by cases ha) (fun _ => Or.inr rfl)
      rw [hstage]
      rfl
    | givenUp hstage => exact h.release hr

/-- One move keeps the ledger exact. -/
theorem exact_move {s : Schedule} (h : s.server.ledger.Exact s.runs) (m : Move) :
    (s.move m).server.ledger.Exact (s.move m).runs := by
  cases m with
  | operate o =>
    show (s.server.perform o).ledger.Exact s.runs
    rw [Server.perform_ledger]
    exact h
  | ask key => exact h.ask key
  | cancel key => exact Server.exact_cancelRun h key
  | cancelAll => exact Server.exact_cancelRuns _ h
  | step n a => exact exact_step h n a

/-- **Run lemma.**  A schedule keeps the ledger exact. -/
theorem exact_play {s : Schedule} (h : s.server.ledger.Exact s.runs) (moves : List Move) :
    (s.play moves).server.ledger.Exact (s.play moves).runs := by
  induction moves generalizing s with
  | nil => exact h
  | cons m rest ih => exact ih (exact_move h m)

/-- In every schedule of a fresh server the ledger is exact. -/
theorem exact_of_ofConfig {c : Config} {epoch issued : Nat} {files : FileTree} {server : Server}
    (hs : Server.ofConfig c epoch files issued = .ok server) (moves : List Move) :
    ((ofServer server).play moves).server.ledger.Exact ((ofServer server).play moves).runs := by
  apply exact_play
  show server.ledger.Exact []
  rw [Server.ofConfig_ledger hs]
  exact RunLedger.Exact.empty

/-! ## A small schedule -/

/-- A fresh server with the settings that a configuration has by itself. -/
def sampleServer : Server where
  epoch := 0
  files := .empty
  pool := .empty (Config.pool {})
  sweeper := { options := Config.retention {} }
  resolver := { settings := Config.resolving {} }

/-- The sample server is what the default configuration gives. -/
theorem ofConfig_sampleServer : Server.ofConfig {} 0 .empty 0 = .ok sampleServer := rfl

/-- The first task of a session. -/
def sampleTask : TaskKey := ⟨.sanitize "a", identifier 1⟩

/-- The task is created, and the work of a run of it begins. -/
def sampleStart : List Move :=
  [.operate (.lookup "a"), .operate (.useStore 0 (.createTask (.sanitize "a") { name := "t" })),
    .ask sampleTask, .step 0 .accept, .step 0 .begin]

/-- A second run of the task is asked for, and its work begins if the task is free. -/
def sampleRestart : List Move := [.ask sampleTask, .step 1 .accept, .step 1 .begin]

end Schedule

end SessionTasks
