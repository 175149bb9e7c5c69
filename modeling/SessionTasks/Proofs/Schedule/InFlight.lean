/-
# Calls in flight

A call is in flight from the moment it takes its task until it ends, is given up or is
cancelled.  This is told from what has happened alone, without a look at the ledger.

* `Schedule.holding_iff` : the stage of a run tells whether its call has taken the task and has
  not come to its end;
* `Schedule.mem_cancelled_iff` : the runs that count as cancelled are those that a caller has
  cancelled while they held their task;
* `Schedule.tracks_inFlight` : the ledger lists exactly the calls in flight, and a call for a
  task that is listed comes to nothing.
-/
import SessionTasks.Proofs.Schedule.Cancellation
namespace SessionTasks

namespace Schedule

/-! ## What happens to a call -/

/-- The call of the run has taken its task and has not come to its end. -/
def Holding (s : Schedule) (key : TaskKey) (n : RunId) : Prop :=
  ∃ r, s.runs[n]? = some r ∧ r.key = key ∧ r.stage.holds = true

/-- The call of the run takes its task, which no run holds. -/
def Accepts (key : TaskKey) (n : RunId) (s : Schedule) (m : Move) : Prop :=
  m = .step n .accept ∧ s.server.ledger.holder? key = none ∧
    ∃ r, s.runs[n]? = some r ∧ r.key = key ∧ r.stage = .asked

/-- The call of the run ends. -/
def Ends (n : RunId) (s : Schedule) (m : Move) : Prop :=
  m = .step n .finish ∧ ∃ r outcome, s.runs[n]? = some r ∧ r.stage = .ending outcome

/-- The call of the run is given up where it waits. -/
def Drops (n : RunId) (s : Schedule) (m : Move) : Prop :=
  m = .step n .giveUp ∧
    ∃ r, s.runs[n]? = some r ∧ (r.stage = .working ∨ ∃ outcome, r.stage = .ending outcome)

/-- A caller cancels the run of the task, or every run, while the call of the run has the
task. -/
def Cancels (n : RunId) (s : Schedule) (m : Move) : Prop :=
  ∃ key, s.Holding key n ∧ (m = .cancel key ∨ m = .cancelAll)

/-- The call of the run has taken the task, and has neither ended nor been given up nor been
cancelled. -/
structure InFlight (start : Schedule) (moves : List Move) (key : TaskKey) (n : RunId) : Prop where
  accepted : start.Happens (Accepts key n) moves
  notEnded : ¬ start.Happens (Ends n) moves
  notDropped : ¬ start.Happens (Drops n) moves
  notCancelled : ¬ start.Happens (Cancels n) moves

/-! ## The stage of a run -/

/-- **What one step does to the stage.**  The call has its task after the step if it had it or
takes it now, unless it comes to its end now. -/
theorem holds_step (r : RunState) (n : RunId) (s : Server) (a : RunStep) :
    (r.step n s a).2.stage.holds = true ↔
      (r.stage.holds = true ∨
        a = .accept ∧ s.ledger.holder? r.key = none ∧ r.stage = .asked) ∧
      ¬ (a = .finish ∧ ∃ outcome, r.stage = .ending outcome) ∧
      ¬ (a = .giveUp ∧ (r.stage = .working ∨ ∃ outcome, r.stage = .ending outcome)) := by
  unfold RunState.step
  cases a with
  | accept =>
    cases hstage : r.stage with
    | asked =>
      dsimp only
      unfold Server.accept?
      cases hholder : s.ledger.holder? r.key <;> simp [Stage.holds]
    | _ => simp [Stage.holds, hstage]
  | begin =>
    cases hstage : r.stage with
    | holding =>
      dsimp only
      split <;> simp [Stage.holds]
    | _ => simp [Stage.holds, hstage]
  | report progress step description =>
    dsimp only
    split <;> simp
  | endWork outcome =>
    dsimp only
    split
    · rename_i hstage
      simp [hstage, Stage.holds]
    · simp
  | finish => cases hstage : r.stage <;> simp [Stage.holds, hstage]
  | giveUp => cases hstage : r.stage <;> simp [Stage.holds, hstage]

/-- A move that is no step of the run leaves it alone. -/
theorem holding_move_of_ne {s : Schedule} {m : Move} {n : RunId} (hm : ∀ a, m ≠ .step n a)
    (key : TaskKey) : (s.move m).Holding key n ↔ s.Holding key n := by
  constructor
  · rintro ⟨r, hr, hkey, hholds⟩
    rcases run_of_move hr with hr | ⟨-, hfresh⟩ | ⟨q, a, rfl, -, -⟩
    · exact ⟨r, hr, hkey, hholds⟩
    · rw [hfresh] at hholds
      cases hholds
    · exact absurd rfl (hm a)
  · rintro ⟨r, hr, hkey, hholds⟩
    refine ⟨r, ?_, hkey, hholds⟩
    cases m with
    | ask other => exact getElem?_concat_eq_some_iff.2 (Or.inl hr)
    | step k a =>
      have hkn : k ≠ n := fun h => hm a (by rw [h])
      cases hk : s.runs[k]? with
      | none => simpa only [move, hk] using hr
      | some q =>
        rw [move_step hk, List.getElem?_set_ne hkn]
        exact hr
    | _ => exact hr

/-- **What one move does to a call.**  Its run has the task after the move if it had it or takes
it now, unless the call comes to its end now. -/
theorem holding_move (s : Schedule) (m : Move) (key : TaskKey) (n : RunId) :
    (s.move m).Holding key n ↔
      (s.Holding key n ∨ Accepts key n s m) ∧ ¬ Ends n s m ∧ ¬ Drops n s m := by
  by_cases hm : ∃ a, m = .step n a
  · obtain ⟨a, rfl⟩ := hm
    cases hr : s.runs[n]? with
    | none =>
      have hmove : s.move (.step n a) = s := by simp only [move, hr]
      rw [hmove]
      simp [Holding, Accepts, Ends, Drops, hr]
    | some r =>
      have hself : (s.move (.step n a)).runs[n]? = some (r.step n s.server a).2 := by
        rw [move_step hr]
        exact List.getElem?_set_self (List.getElem?_eq_some_iff.1 hr).1
      have hstep := holds_step r n s.server a
      simp only [Holding, Accepts, Ends, Drops, hself, hr, Option.some.injEq, Move.step.injEq,
        true_and, exists_eq_left', RunState.step_key]
      rw [hstep]
      by_cases hkey : r.key = key
      · subst hkey
        simp
      · simp [hkey]
  · have hne : ∀ a, m ≠ .step n a := fun a h => hm ⟨a, h⟩
    rw [holding_move_of_ne hne]
    simp [Accepts, Ends, Drops, hne]

/-- The call of the run is over. -/
def IsOver (s : Schedule) (n : RunId) : Prop := ∃ r, s.runs[n]? = some r ∧ r.stage = .over

/-- A call that is over stays over. -/
theorem IsOver.move {s : Schedule} {n : RunId} (h : s.IsOver n) (m : Move) :
    (s.move m).IsOver n := by
  obtain ⟨r, hr, hover⟩ := h
  cases m with
  | ask other => exact ⟨r, getElem?_concat_eq_some_iff.2 (Or.inl hr), hover⟩
  | step k a =>
    by_cases hkn : k = n
    · subst hkn
      refine ⟨(r.step k s.server a).2, ?_, ?_⟩
      · rw [move_step hr]
        exact List.getElem?_set_self (List.getElem?_eq_some_iff.1 hr).1
      · have htakes := r.takes_step k s.server a
        generalize r.step k s.server a = after at htakes ⊢
        -- every step that changes the stage is taken at another one
        cases htakes <;> simp_all [Stage.holds]
    · refine ⟨r, ?_, hover⟩
      cases hk : s.runs[k]? with
      | none => simpa only [Schedule.move, hk] using hr
      | some q =>
        rw [move_step hk, List.getElem?_set_ne hkn]
        exact hr
  | _ => exact ⟨r, hr, hover⟩

theorem isOver_of_ends {s : Schedule} {m : Move} {n : RunId} (h : Ends n s m) :
    (s.move m).IsOver n := by
  obtain ⟨rfl, r, outcome, hr, hstage⟩ := h
  refine ⟨{ r with stage := .over }, ?_, rfl⟩
  rw [move_step hr]
  simp only [RunState.step, hstage]
  exact List.getElem?_set_self (List.getElem?_eq_some_iff.1 hr).1

theorem isOver_of_drops {s : Schedule} {m : Move} {n : RunId} (h : Drops n s m) :
    (s.move m).IsOver n := by
  obtain ⟨rfl, r, hr, hstage⟩ := h
  refine ⟨{ r with stage := .over }, ?_, rfl⟩
  rw [move_step hr]
  rcases hstage with hstage | ⟨outcome, hstage⟩
  all_goals
    simp only [RunState.step, hstage]
    exact List.getElem?_set_self (List.getElem?_eq_some_iff.1 hr).1

/-- A call that has come to its end is over. -/
theorem isOver_of_happens {P : Schedule → Move → Prop} {n : RunId}
    (hP : ∀ s m, P s m → (s.move m).IsOver n) {s : Schedule} {moves : List Move}
    (h : s.Happens P moves) : (s.play moves).IsOver n := by
  induction moves using List.reverseRecOn with
  | nil => cases h
  | append_singleton moves m ih =>
    rw [play_concat]
    rcases happens_concat_iff.1 h with h | h
    · exact (ih h).move m
    · exact hP _ m h

/-- **The stage of a run, told from what has happened.** -/
theorem holding_iff {s : Schedule} (hs : s.runs = []) (moves : List Move) (key : TaskKey)
    (n : RunId) :
    (s.play moves).Holding key n ↔
      s.Happens (Accepts key n) moves ∧ ¬ s.Happens (Ends n) moves ∧
        ¬ s.Happens (Drops n) moves := by
  -- induction on the last move; only a call that has not come to its end can take its task
  induction moves using List.reverseRecOn with
  | nil => simp [Holding, hs, Happens]
  | append_singleton moves m ih =>
    rw [play_concat, holding_move, ih, happens_concat_iff, happens_concat_iff, happens_concat_iff]
    have hfirst : Accepts key n (s.play moves) m →
        ¬ s.Happens (Ends n) moves ∧ ¬ s.Happens (Drops n) moves := by
      rintro ⟨-, -, r, hr, -, hasked⟩
      have hover : ¬ (s.play moves).IsOver n := by
        rintro ⟨q, hq, hover⟩
        rw [hr] at hq
        cases hq
        rw [hasked] at hover
        cases hover
      exact ⟨fun h => hover (isOver_of_happens (fun _ _ => isOver_of_ends) h),
        fun h => hover (isOver_of_happens (fun _ _ => isOver_of_drops) h)⟩
    tauto

/-! ## The runs that were cancelled -/

end Schedule

namespace Server

/-- Cancelling the run of a task cancels the run that holds it, and no other. -/
theorem mem_cancelled_cancelRun_iff {s : Server} {key : TaskKey} {n : RunId} :
    n ∈ (s.cancelRun key).2.ledger.cancelled ↔
      n ∈ s.ledger.cancelled ∨ s.ledger.holder? key = some n := by
  cases hm : s.ledger.holder? key with
  | none => simp [cancelRun_of_none hm]
  | some m =>
    rw [cancelRun_ledger_of_some hm]
    simp only [List.mem_cons, Option.some.injEq]
    rw [or_comm, eq_comm]

/-- No run holds a task whose run was cancelled. -/
theorem holder?_cancelRun_self (s : Server) (key : TaskKey) :
    (s.cancelRun key).2.ledger.holder? key = none := by
  cases hm : s.ledger.holder? key with
  | none => rw [cancelRun_of_none hm, hm]
  | some m =>
    rw [cancelRun_ledger_of_some hm]
    show (s.ledger.drop key).holder? key = none
    rw [RunLedger.holder?_drop, if_pos rfl]

/-- Cancelling the runs of some tasks cancels the runs that hold them, and no other. -/
theorem mem_cancelled_cancelRuns_iff {keys : List TaskKey} {s : Server} {n : RunId} :
    n ∈ (s.cancelRuns keys).2.ledger.cancelled ↔
      n ∈ s.ledger.cancelled ∨ ∃ key ∈ keys, s.ledger.holder? key = some n := by
  constructor
  · intro h
    induction keys generalizing s with
    | nil => exact Or.inl h
    | cons first rest ih =>
      change n ∈ ((s.cancelRun first).2.cancelRuns rest).2.ledger.cancelled at h
      rcases ih h with h | ⟨key, hkey, hn⟩
      · rcases mem_cancelled_cancelRun_iff.1 h with h | h
        · exact Or.inl h
        · exact Or.inr ⟨first, List.mem_cons_self, h⟩
      · have hne : key ≠ first := by
          rintro rfl
          rw [holder?_cancelRun_self] at hn
          cases hn
        rw [holder?_cancelRun_of_ne s hne] at hn
        exact Or.inr ⟨key, List.mem_cons_of_mem first hkey, hn⟩
  · rintro (h | ⟨key, hkey, hn⟩)
    · exact cancelled_cancelRuns keys h
    · exact mem_cancelled_cancelRuns hkey hn

end Server

namespace Schedule

/-- **What one move does to the runs that count as cancelled.** -/
theorem mem_cancelled_move_iff {s : Schedule} (h : s.server.ledger.Exact s.runs) (m : Move)
    (n : RunId) :
    n ∈ (s.move m).server.ledger.cancelled ↔
      n ∈ s.server.ledger.cancelled ∨ Cancels n s m := by
  -- a run that has its task holds it, unless it was cancelled before
  have hholder : ∀ key, s.Holding key n →
      n ∈ s.server.ledger.cancelled ∨ s.server.ledger.holder? key = some n := by
    rintro key ⟨r, hr, hkey, hholds⟩
    by_cases hc : n ∈ s.server.ledger.cancelled
    · exact Or.inl hc
    · exact Or.inr ((h.holder_iff key n).2 ⟨r, hr, hkey, hholds, hc⟩)
  have hholding : ∀ key, s.server.ledger.holder? key = some n → s.Holding key n := by
    intro key hn
    obtain ⟨r, hr, hkey, hholds, -⟩ := (h.holder_iff key n).1 hn
    exact ⟨r, hr, hkey, hholds⟩
  cases m with
  | operate o =>
    have hsame : (s.move (.operate o)).server.ledger = s.server.ledger := s.server.perform_ledger o
    simp [hsame, Cancels]
  | ask key => simp [move, Cancels]
  | cancel key =>
    refine Server.mem_cancelled_cancelRun_iff.trans ⟨?_, ?_⟩
    · rintro (hc | hn)
      · exact Or.inl hc
      · exact Or.inr ⟨key, hholding key hn, Or.inl rfl⟩
    · rintro (hc | ⟨other, hother, heq | heq⟩)
      · exact Or.inl hc
      · cases heq
        exact hholder key hother
      · cases heq
  | cancelAll =>
    refine Server.mem_cancelled_cancelRuns_iff.trans ⟨?_, ?_⟩
    · rintro (hc | ⟨key, -, hn⟩)
      · exact Or.inl hc
      · exact Or.inr ⟨key, hholding key hn, Or.inr rfl⟩
    · rintro (hc | ⟨key, hkey, -⟩)
      · exact Or.inl hc
      · rcases hholder key hkey with hc | hn
        · exact Or.inl hc
        · exact Or.inr ⟨key, RunLedger.mem_keys_of_holder hn, hn⟩
  | step k a =>
    have hsame : (s.move (.step k a)).server.ledger.cancelled = s.server.ledger.cancelled := by
      cases hr : s.runs[k]? with
      | none => simp only [move, hr]
      | some r =>
        rw [move_step hr]
        exact r.step_cancelled k s.server a
    simp [hsame, Cancels]

/-- **The runs that count as cancelled, told from what has happened.** -/
theorem mem_cancelled_iff {s : Schedule} (hs : s.server.ledger.Exact s.runs)
    (hc : s.server.ledger.cancelled = []) (moves : List Move) (n : RunId) :
    n ∈ (s.play moves).server.ledger.cancelled ↔ s.Happens (Cancels n) moves := by
  induction moves using List.reverseRecOn with
  | nil => simp [hc, Happens]
  | append_singleton moves m ih =>
    rw [play_concat, mem_cancelled_move_iff (exact_play hs moves), ih, happens_concat_iff]

/-! ## Calls for a task that is held -/

/-- Whatever happens from now on, the run takes no step, and its work never begins. -/
def NeverStarts (s : Schedule) (n : RunId) : Prop :=
  ∀ moves, (∃ r, (s.play moves).runs[n]? = some r ∧ r.task = none) ∧
    ∀ a, (s.play moves).move (.step n a) = s.play moves

/-- The call of a run for a task that is held is over at once: nothing is written, the ledger
stays as it is, and the run never starts. -/
def Refuses (s : Schedule) (n : RunId) : Prop :=
  (s.move (.step n .accept)).server = s.server ∧ (s.move (.step n .accept)).NeverStarts n

/-- A run whose call is over and that has no work takes no step. -/
theorem move_step_of_over {s : Schedule} {n : RunId} {r : RunState} (hr : s.runs[n]? = some r)
    (hover : r.stage = .over) (htask : r.task = none) (a : RunStep) :
    s.move (.step n a) = s := by
  have hstay : r.step n s.server a = (s.server, r) := by
    obtain ⟨key, stage, task⟩ := r
    cases hover
    cases htask
    cases a <;> rfl
  rw [move_step hr, hstay]
  have hset : s.runs.set n r = s.runs := by
    refine List.ext_getElem? fun k => ?_
    by_cases hk : n = k
    · subst hk
      rw [List.getElem?_set_self (List.getElem?_eq_some_iff.1 hr).1, hr]
    · rw [List.getElem?_set_ne hk]
  rw [hset]

theorem neverStarts_of_over {s : Schedule} {n : RunId} {r : RunState}
    (hr : s.runs[n]? = some r) (hover : r.stage = .over) (htask : r.task = none) :
    s.NeverStarts n := by
  -- no move changes such a run
  have hmove : ∀ (s : Schedule) (m : Move), s.runs[n]? = some r → (s.move m).runs[n]? = some r := by
    intro s m hr
    cases m with
    | ask key => exact getElem?_concat_eq_some_iff.2 (Or.inl hr)
    | step k a =>
      by_cases hkn : k = n
      · subst hkn
        rw [move_step_of_over hr hover htask]
        exact hr
      · cases hk : s.runs[k]? with
        | none => simpa only [move, hk] using hr
        | some q =>
          rw [move_step hk, List.getElem?_set_ne hkn]
          exact hr
    | _ => exact hr
  intro moves
  have hplay : (s.play moves).runs[n]? = some r := by
    induction moves generalizing s with
    | nil => exact hr
    | cons m rest ih => exact ih (hmove s m hr)
  exact ⟨⟨r, hplay, htask⟩, move_step_of_over hplay hover htask⟩

/-- **A call for a task that is held comes to nothing.** -/
theorem refuses_of_holder {s : Schedule} (h : s.server.ledger.Exact s.runs) {n m : RunId}
    {r : RunState} (hr : s.runs[n]? = some r) (hasked : r.stage = .asked)
    (hm : s.server.ledger.holder? r.key = some m) : s.Refuses n := by
  have htask : r.task = none := by
    by_contra hne
    rcases h.work n r hr (Option.ne_none_iff_isSome.1 hne) with hw | hw
    all_goals
      rw [hasked] at hw
      cases hw
  have hstep : r.step n s.server .accept = (s.server, { r with stage := .over }) := by
    simp only [RunState.step, hasked, Server.accept?, hm]
  have hmove : s.move (.step n .accept) =
      ⟨s.server, s.runs.set n { r with stage := .over }⟩ := by
    rw [move_step hr, hstep]
  refine ⟨by rw [hmove], ?_⟩
  rw [hmove]
  exact neverStarts_of_over (List.getElem?_set_self (List.getElem?_eq_some_iff.1 hr).1) rfl htask

/-! ## The ledger is the calls in flight -/

/-- After some moves the ledger lists exactly the calls in flight, each with its own run; a
call for a task that is listed comes to nothing, and no step of a run takes a task away from
another one. -/
structure Tracks (start : Schedule) (moves : List Move) : Prop where
  holder : ∀ key n,
    (start.play moves).server.ledger.holder? key = some n ↔ start.InFlight moves key n
  listed : ∀ key,
    key ∈ (start.play moves).server.ledger.keys ↔ ∃! n, start.InFlight moves key n
  refused : ∀ n r, (start.play moves).runs[n]? = some r → r.stage = .asked →
    r.key ∈ (start.play moves).server.ledger.keys → (start.play moves).Refuses n
  kept : ∀ n a key m, (start.play moves).server.ledger.holder? key = some m → m ≠ n →
    ((start.play moves).move (.step n a)).server.ledger.holder? key = some m

/-- **The ledger is exact.**  In every schedule of a fresh server a task is listed exactly when
one call for it is in flight, under the run of this call; every other call for it comes to
nothing, and only the run itself and those who cancel it take the task away. -/
theorem tracks_inFlight {c : Config} {epoch issued : Nat} {files : FileTree} {server : Server}
    (hs : Server.ofConfig c epoch files issued = .ok server) (moves : List Move) :
    (ofServer server).Tracks moves := by
  have hledger : server.ledger = {} := Server.ofConfig_ledger hs
  have hexact := exact_of_ofConfig hs moves
  -- the ledger is exact for the stages of the runs, and those are told by the history
  have hholder : ∀ key n, ((ofServer server).play moves).server.ledger.holder? key = some n ↔
      (ofServer server).InFlight moves key n := by
    intro key n
    have hholding := holding_iff (s := ofServer server) rfl moves key n
    have hcancelled : n ∈ ((ofServer server).play moves).server.ledger.cancelled ↔
        (ofServer server).Happens (Cancels n) moves := by
      refine mem_cancelled_iff (exact_of_ofConfig hs []) ?_ moves n
      show server.ledger.cancelled = []
      rw [hledger]
    rw [hexact.holder_iff]
    constructor
    · rintro ⟨r, hr, hkey, hholds, hc⟩
      obtain ⟨haccepted, hended, hdropped⟩ := hholding.1 ⟨r, hr, hkey, hholds⟩
      exact ⟨haccepted, hended, hdropped, fun h => hc (hcancelled.2 h)⟩
    · rintro ⟨haccepted, hended, hdropped, hc⟩
      obtain ⟨r, hr, hkey, hholds⟩ := hholding.2 ⟨haccepted, hended, hdropped⟩
      exact ⟨r, hr, hkey, hholds, fun h => hc (hcancelled.1 h)⟩
  refine ⟨hholder, fun key => ?_, fun n r hr hasked hkey => ?_, fun n a key m hm hne => ?_⟩
  · rw [RunLedger.mem_keys_iff, Option.isSome_iff_exists]
    constructor
    · rintro ⟨n, hn⟩
      refine ⟨n, (hholder key n).1 hn, fun m hm => ?_⟩
      have hsame := (hholder key m).2 hm
      rw [hn] at hsame
      exact (Option.some.inj hsame).symm
    · rintro ⟨n, hn, -⟩
      exact ⟨n, (hholder key n).2 hn⟩
  · obtain ⟨m, hm⟩ := Option.isSome_iff_exists.1 (RunLedger.mem_keys_iff.1 hkey)
    exact refuses_of_holder hexact hr hasked hm
  · -- the other run and what was cancelled are as they were
    obtain ⟨r, hr, hkey, hholds, hc⟩ := (hexact.holder_iff key m).1 hm
    refine ((exact_step hexact n a).holder_iff key m).2 ?_
    have hstep : ∀ b, Move.step n a ≠ .step m b := by
      rintro b heq
      cases heq
      exact hne rfl
    obtain ⟨q, hq, hqkey, hqholds⟩ :=
      (holding_move_of_ne hstep key).2 ⟨r, hr, hkey, hholds⟩
    refine ⟨q, hq, hqkey, hqholds, fun hmem => hc ?_⟩
    rcases (mem_cancelled_move_iff hexact (.step n a) m).1 hmem with hmem | ⟨other, -, heq | heq⟩
    · exact hmem
    · cases heq
    · cases heq

/-- The first run is cancelled at work and a second one begins; then the first run ends.  The
second run still has the task. -/
def sampleOvertaken : List Move :=
  sampleStart ++ .cancel sampleTask :: sampleRestart ++
    [.step 0 (.endWork (.ok ())), .step 0 .finish]

theorem tracks_inFlight_overtaken :
    Server.ofConfig {} 0 .empty 0 = .ok sampleServer ∧
      ((ofServer sampleServer).play sampleOvertaken).server.ledger.holder? sampleTask = some 1 ∧
      (ofServer sampleServer).InFlight sampleOvertaken sampleTask 1 ∧
      (ofServer sampleServer).Tracks sampleOvertaken := by
  have htracks : (ofServer sampleServer).Tracks sampleOvertaken :=
    tracks_inFlight ofConfig_sampleServer sampleOvertaken
  have hholder :
      ((ofServer sampleServer).play sampleOvertaken).server.ledger.holder? sampleTask = some 1 := by
    decide +kernel
  exact ⟨ofConfig_sampleServer, hholder, (htracks.holder sampleTask 1).1 hholder, htracks⟩

end Schedule

end SessionTasks
