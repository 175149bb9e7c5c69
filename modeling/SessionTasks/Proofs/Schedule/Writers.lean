/-
# Who writes to a task

A run writes to its task while its work goes on and it was not cancelled.  A call that is
given up lets go of the task but does not cancel the run, so its work still writes.  Main
statement: a task has one writer at most exactly as long as no run that was given up at work
writes beside another (`Schedule.writer_unique_iff`).
-/
import SessionTasks.Proofs.Schedule
namespace SessionTasks.Schedule

/-- The work of the run goes on, and what it reports is written to the task. -/
def Writes (s : Schedule) (key : TaskKey) (n : RunId) : Prop :=
  ∃ r, s.runs[n]? = some r ∧ r.key = key ∧ r.task.isSome = true ∧ n ∉ s.server.ledger.cancelled

instance (s : Schedule) (key : TaskKey) (n : RunId) : Decidable (s.Writes key n) :=
  match h : s.runs[n]? with
  | none => isFalse (by
      rintro ⟨r, hr, -⟩
      rw [h] at hr
      cases hr)
  | some r =>
    decidable_of_iff
      (r.key = key ∧ r.task.isSome = true ∧ n ∉ s.server.ledger.cancelled)
      ⟨fun hr => ⟨r, h, hr⟩, by
        rintro ⟨q, hq, hrest⟩
        rw [h] at hq
        cases hq
        exact hrest⟩

/-- The call of the run was given up while the run wrote to the task. -/
def GivenUpAtWork (s : Schedule) (moves : List Move) (key : TaskKey) (n : RunId) : Prop :=
  s.Happens (fun t m => m = .step n .giveUp ∧ t.Writes key n) moves

/-! ## What a writer writes -/

/-- A report of a writer reaches its task. -/
theorem report_of_writes {s : Schedule} {key : TaskKey} {n : RunId} (h : s.Writes key n)
    (progress : Binary64) (step description : Option String) :
    (s.move (.step n (.report progress step description))).server =
      (s.server.writeUpdate key {
        progress := some progress
        currentStep := step
        currentStepDescription := description }).2 := by
  obtain ⟨r, hr, rfl, htask, hc⟩ := h
  have hlive : ¬ s.server.ledger.isCancelled n = true := by
    rw [RunLedger.isCancelled_iff]
    exact hc
  rw [move_step hr]
  unfold RunState.step
  dsimp only
  rw [if_pos htask]
  unfold Server.report
  rw [if_neg hlive]

/-- A run that writes to no task reports in vain. -/
theorem report_of_not_writes {s : Schedule} {n : RunId} (h : ∀ key, ¬ s.Writes key n)
    (progress : Binary64) (step description : Option String) :
    (s.move (.step n (.report progress step description))).server = s.server := by
  cases hr : s.runs[n]? with
  | none => simp only [move, hr]
  | some r =>
    rw [move_step hr]
    unfold RunState.step
    dsimp only
    split
    · rename_i htask
      have hc : n ∈ s.server.ledger.cancelled := by
        by_contra hc
        exact h r.key ⟨r, hr, rfl, htask, hc⟩
      unfold Server.report
      rw [if_pos ((RunLedger.isCancelled_iff _ n).2 hc)]
    · rfl

/-! ## How a writer outlasts its call -/

/-- Work that goes on behind a call that does not wait for it went on before. -/
theorem task_of_step {r : RunState} {n : RunId} {s : Server} {a : RunStep}
    (hstage : (r.step n s a).2.stage ≠ .working) (htask : (r.step n s a).2.task.isSome = true) :
    r.task.isSome = true := by
  have htakes := r.takes_step n s a
  generalize r.step n s a = after at htakes hstage htask
  cases htakes with
  | begun => exact absurd rfl hstage
  | ended => cases htask
  | endedAlone => cases htask
  | _ => exact htask

/-- A call that is over was over before, had not started, was about to end or was given up
just now. -/
theorem stage_of_step_over {r : RunState} {n : RunId} {s : Server} {a : RunStep}
    (hover : (r.step n s a).2.stage = .over) :
    r.stage = .over ∨ r.stage = .asked ∨ (∃ outcome, r.stage = .ending outcome) ∨
      a = .giveUp := by
  have htakes := r.takes_step n s a
  generalize r.step n s a = after at htakes hover
  cases htakes with
  | refused hstage => exact Or.inr (Or.inl hstage)
  | finished hstage => exact Or.inr (Or.inr (Or.inl ⟨_, hstage⟩))
  | dropped => exact Or.inr (Or.inr (Or.inr rfl))
  | givenUp => exact Or.inr (Or.inr (Or.inr rfl))
  | accepted => cases hover
  | begun => cases hover
  | unbegun => cases hover
  | ended => cases hover
  | _ => exact Or.inl hover

/-- **A writer whose call is over was given up at work.** -/
theorem givenUpAtWork_of_over {s : Schedule} (hs : s.runs = []) (hl : s.server.ledger = {})
    (moves : List Move) {n : RunId} {r : RunState} (hr : (s.play moves).runs[n]? = some r)
    (hover : r.stage = .over) (htask : r.task.isSome = true)
    (hc : n ∉ (s.play moves).server.ledger.cancelled) : s.GivenUpAtWork moves r.key n := by
  -- the last move left the run as it was, or the run took a step
  induction moves using List.reverseRecOn generalizing r with
  | nil =>
    rw [play_nil, hs] at hr
    simp at hr
  | append_singleton moves m ih =>
    have hexact : (s.play moves).server.ledger.Exact (s.play moves).runs := by
      apply exact_play
      rw [hs, hl]
      exact RunLedger.Exact.empty
    rw [play_concat] at hr hc
    have hc' : n ∉ (s.play moves).server.ledger.cancelled := fun h => hc (cancelled_move h m)
    rcases run_of_move hr with hr | ⟨-, hfresh⟩ | ⟨q, a, rfl, hq, rfl⟩
    · exact (ih hr hover htask hc').concat m
    · rw [hfresh] at hover
      cases hover
    · have hqtask : q.task.isSome = true := task_of_step (by rw [hover]; simp) htask
      -- work goes on only while the call waits for it or is over
      have hqstage := hexact.work n q hq hqtask
      rw [RunState.step_key]
      rcases stage_of_step_over hover with hst | hst | ⟨outcome, hst⟩ | rfl
      · exact (ih hq hst hqtask hc').concat _
      · rw [hst] at hqstage
        rcases hqstage with hw | hw <;> cases hw
      · rw [hst] at hqstage
        rcases hqstage with hw | hw <;> cases hw
      · exact happens_concat_self ⟨rfl, q, hq, rfl, hqtask, hc'⟩

/-! ## One writer -/

/-- **Two writers of one task whose calls still wait are one run.** -/
theorem eq_of_writes {s : Schedule} (h : s.server.ledger.Exact s.runs) {key : TaskKey}
    {a b : RunId} {r q : RunState} (hr : s.runs[a]? = some r) (hq : s.runs[b]? = some q)
    (hrkey : r.key = key) (hqkey : q.key = key) (hrstage : r.stage = .working)
    (hqstage : q.stage = .working) (hra : a ∉ s.server.ledger.cancelled)
    (hqb : b ∉ s.server.ledger.cancelled) : a = b := by
  have ha : s.server.ledger.holder? key = some a :=
    (h.holder_iff key a).2 ⟨r, hr, hrkey, by rw [hrstage]; rfl, hra⟩
  have hb : s.server.ledger.holder? key = some b :=
    (h.holder_iff key b).2 ⟨q, hq, hqkey, by rw [hqstage]; rfl, hqb⟩
  rw [ha] at hb
  exact Option.some.inj hb

/-- **A task has one writer at most, as long as no run that was given up at work writes beside
another.**  In particular it has one at most in every schedule in which calls are given up
only before their work has begun or after it has ended. -/
theorem writer_unique_iff {c : Config} {epoch issued : Nat} {files : FileTree} {server : Server}
    (hs : Server.ofConfig c epoch files issued = .ok server) (moves : List Move)
    (key : TaskKey) :
    (∀ a b, ((ofServer server).play moves).Writes key a →
      ((ofServer server).play moves).Writes key b → a = b) ↔
    ∀ a b, (ofServer server).GivenUpAtWork moves key a →
      ((ofServer server).play moves).Writes key a →
      ((ofServer server).play moves).Writes key b → a = b := by
  constructor
  · intro h a b _ ha hb
    exact h a b ha hb
  · intro h a b ha hb
    have hexact := exact_of_ofConfig hs moves
    have hledger := Server.ofConfig_ledger hs
    obtain ⟨r, hr, hrkey, hrtask, hra⟩ := ha
    obtain ⟨q, hq, hqkey, hqtask, hqb⟩ := hb
    -- a run with work to do is at work, or its call was given up
    rcases hexact.work a r hr hrtask with hrstage | hrstage
    · rcases hexact.work b q hq hqtask with hqstage | hqstage
      · exact eq_of_writes hexact hr hq hrkey hqkey hrstage hqstage hra hqb
      · have hgiven : (ofServer server).GivenUpAtWork moves q.key b :=
          givenUpAtWork_of_over rfl hledger moves hq hqstage hqtask hqb
        rw [hqkey] at hgiven
        exact (h b a hgiven ⟨q, hq, hqkey, hqtask, hqb⟩ ⟨r, hr, hrkey, hrtask, hra⟩).symm
    · have hgiven : (ofServer server).GivenUpAtWork moves r.key a :=
        givenUpAtWork_of_over rfl hledger moves hr hrstage hrtask hra
      rw [hrkey] at hgiven
      exact h a b hgiven ⟨r, hr, hrkey, hrtask, hra⟩ ⟨q, hq, hqkey, hqtask, hqb⟩

/-- After the first run was cancelled at work the second is the only writer. -/
theorem writer_unique_after_cancel :
    Server.ofConfig {} 0 .empty 0 = .ok sampleServer ∧
      ((ofServer sampleServer).play
        (sampleStart ++ .cancel sampleTask :: sampleRestart)).Writes sampleTask 1 ∧
      ((∀ a b,
          ((ofServer sampleServer).play
            (sampleStart ++ .cancel sampleTask :: sampleRestart)).Writes sampleTask a →
          ((ofServer sampleServer).play
            (sampleStart ++ .cancel sampleTask :: sampleRestart)).Writes sampleTask b → a = b) ↔
        ∀ a b,
          (ofServer sampleServer).GivenUpAtWork
            (sampleStart ++ .cancel sampleTask :: sampleRestart) sampleTask a →
          ((ofServer sampleServer).play
            (sampleStart ++ .cancel sampleTask :: sampleRestart)).Writes sampleTask a →
          ((ofServer sampleServer).play
            (sampleStart ++ .cancel sampleTask :: sampleRestart)).Writes sampleTask b → a = b) :=
  ⟨rfl, by decide +kernel, writer_unique_iff ofConfig_sampleServer _ _⟩

/-- **Two writers.**  The call of the first run is given up at work and a second run begins:
both write to the task. -/
theorem two_writers_after_giveUp :
    ∃ a b, a ≠ b ∧
      ((ofServer sampleServer).play
        (sampleStart ++ .step 0 .giveUp :: sampleRestart)).Writes sampleTask a ∧
      ((ofServer sampleServer).play
        (sampleStart ++ .step 0 .giveUp :: sampleRestart)).Writes sampleTask b :=
  ⟨0, 1, by decide, by decide +kernel, by decide +kernel⟩

end SessionTasks.Schedule
