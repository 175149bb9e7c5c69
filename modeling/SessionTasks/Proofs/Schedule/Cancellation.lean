/-
# Runs that were cancelled

A run that was cancelled is inert: whatever it still does, and whatever happened in between,
the server stays as it is.  Main statement: so is every run that a call of `cancelRun` or
`cancelAll` finds holding its task (`Schedule.inert_of_cancelled`).
-/
import SessionTasks.Proofs.Schedule
namespace SessionTasks

/-! ## Who is cancelled -/

namespace RunLedger

/-- A run that was cancelled has nothing left to let go of. -/
theorem Exact.release_eq_self {l : RunLedger} {runs : List RunState} (h : l.Exact runs)
    {n : RunId} (hn : n ∈ l.cancelled) (key : TaskKey) : l.release key n = l := by
  unfold RunLedger.release
  rw [if_neg]
  intro hk
  obtain ⟨r, -, -, -, hc⟩ := (h.holder_iff key n).1 hk
  exact hc hn

/-- A task that is held is listed. -/
theorem mem_keys_of_holder {l : RunLedger} {key : TaskKey} {n : RunId}
    (h : l.holder? key = some n) : key ∈ l.keys := by
  rw [mem_keys_iff, h]
  rfl

end RunLedger

namespace Server

/-- Cancelling the run of a task tells whether a run held it. -/
theorem cancelRun_fst (s : Server) (key : TaskKey) :
    (s.cancelRun key).1 = (s.ledger.holder? key).isSome := by
  unfold cancelRun
  cases s.ledger.holder? key <;> rfl

/-- The run that holds a task is the one that is cancelled. -/
theorem mem_cancelled_cancelRun {s : Server} {key : TaskKey} {n : RunId}
    (h : s.ledger.holder? key = some n) : n ∈ (s.cancelRun key).2.ledger.cancelled := by
  rw [cancelRun_ledger_of_some h]
  exact List.mem_cons_self

/-- Cancelling one run leaves the other tasks with the runs that hold them. -/
theorem holder?_cancelRun_of_ne (s : Server) {key other : TaskKey} (hne : other ≠ key) :
    (s.cancelRun key).2.ledger.holder? other = s.ledger.holder? other := by
  cases hm : s.ledger.holder? key with
  | none => rw [cancelRun_of_none hm]
  | some m =>
    rw [cancelRun_ledger_of_some hm]
    show (s.ledger.drop key).holder? other = _
    rw [RunLedger.holder?_drop, if_neg hne]

/-- Of the runs of some tasks every one is cancelled. -/
theorem mem_cancelled_cancelRuns {keys : List TaskKey} {s : Server} {key : TaskKey} {n : RunId}
    (hkey : key ∈ keys) (h : s.ledger.holder? key = some n) :
    n ∈ (s.cancelRuns keys).2.ledger.cancelled := by
  induction keys generalizing s with
  | nil => cases hkey
  | cons first rest ih =>
    show n ∈ ((s.cancelRun first).2.cancelRuns rest).2.ledger.cancelled
    -- a run is cancelled at its own task; at any other it goes on holding it
    by_cases hfirst : key = first
    · subst hfirst
      exact cancelled_cancelRuns rest (mem_cancelled_cancelRun h)
    · have hrest : key ∈ rest := (List.mem_cons.1 hkey).resolve_left hfirst
      exact ih hrest ((holder?_cancelRun_of_ne s hfirst).trans h)

end Server

/-! ## What a cancelled run can do -/

namespace Schedule

/-- Whatever happens from now on, nothing that the run does changes the server. -/
def Inert (s : Schedule) (n : RunId) : Prop :=
  ∀ (moves : List Move) (a : RunStep),
    ((s.play moves).move (.step n a)).server = (s.play moves).server

/-- **A step of a cancelled run changes nothing.**  It was not asked for only just now, so it
takes no task; it starts nothing, its reports are dropped, and it holds nothing that it could
let go of. -/
theorem server_step_of_cancelled {s : Schedule} (h : s.server.ledger.Exact s.runs) {n : RunId}
    (hn : n ∈ s.server.ledger.cancelled) (a : RunStep) :
    (s.move (.step n a)).server = s.server := by
  obtain ⟨r, hr, hasked⟩ := h.cancelled n hn
  have hc : s.server.ledger.isCancelled n = true := (RunLedger.isCancelled_iff _ n).2 hn
  have hrelease : s.server.giveUp r.key n = s.server := by
    unfold Server.giveUp
    rw [h.release_eq_self hn]
  have hbegin : s.server.begin r.key n = (.ok none, s.server) := by
    unfold Server.begin
    rw [if_pos hc]
  rw [move_step hr]
  -- a run that was cancelled writes nothing in whichever step it takes
  have htakes := r.takes_step n s.server a
  generalize r.step n s.server a = after at htakes ⊢
  cases htakes with
  | accepted hstage => exact absurd hstage hasked
  | begun hstage hbegun =>
    rw [hbegin] at hbegun
    cases hbegun
  | unbegun outcome hstage hbegun =>
    rw [hbegin] at hbegun
    cases hbegun
    rfl
  | reported progress step description htask =>
    dsimp only
    unfold Server.report
    rw [if_pos hc]
  | finished hstage =>
    dsimp only
    unfold Server.finish
    dsimp only
    rw [h.release_eq_self hn, if_pos hc]
  | givenUp hstage => exact hrelease
  | _ => rfl

/-- A run that was cancelled is inert from then on. -/
theorem inert_of_mem_cancelled {s : Schedule} (h : s.server.ledger.Exact s.runs) {n : RunId}
    (hn : n ∈ s.server.ledger.cancelled) : s.Inert n := by
  intro moves a
  exact server_step_of_cancelled (exact_play h moves) (cancelled_play hn moves) a

/-- **Cancelling is final.**  A call that cancels the run of a task, and says so, has
cancelled the run that held the task; a call that cancels every run has cancelled every run
that held a task.  None of these runs ever changes the server again, whatever happens to the
task in between. -/
theorem inert_of_cancelled {c : Config} {epoch issued : Nat} {files : FileTree} {server : Server}
    (hs : Server.ofConfig c epoch files issued = .ok server) (moves : List Move)
    (key : TaskKey) :
    ((((ofServer server).play moves).server.cancelRun key).1 = true →
      ∃ n, ((ofServer server).play moves).server.ledger.holder? key = some n ∧
        (((ofServer server).play moves).move (.cancel key)).Inert n) ∧
    ∀ n, ((ofServer server).play moves).server.ledger.holder? key = some n →
      (((ofServer server).play moves).move .cancelAll).Inert n := by
  have hexact := exact_of_ofConfig hs moves
  constructor
  · intro htrue
    rw [Server.cancelRun_fst, Option.isSome_iff_exists] at htrue
    obtain ⟨n, hn⟩ := htrue
    refine ⟨n, hn, inert_of_mem_cancelled (exact_move hexact _) ?_⟩
    exact Server.mem_cancelled_cancelRun hn
  · intro n hn
    refine inert_of_mem_cancelled (exact_move hexact _) ?_
    exact Server.mem_cancelled_cancelRuns (RunLedger.mem_keys_of_holder hn) hn

/-- The first run is cancelled at work, by itself or with every other: either way it is inert
from then on. -/
theorem inert_of_cancelled_first :
    Server.ofConfig {} 0 .empty 0 = .ok sampleServer ∧
      (((ofServer sampleServer).play sampleStart).server.cancelRun sampleTask).1 = true ∧
      ((ofServer sampleServer).play sampleStart).server.ledger.holder? sampleTask = some 0 ∧
      (((ofServer sampleServer).play sampleStart).move (.cancel sampleTask)).Inert 0 ∧
      (((ofServer sampleServer).play sampleStart).move .cancelAll).Inert 0 := by
  have hs : Server.ofConfig {} 0 .empty 0 = .ok sampleServer := ofConfig_sampleServer
  have htrue : (((ofServer sampleServer).play sampleStart).server.cancelRun sampleTask).1 = true := by
    decide +kernel
  have hholder :
      ((ofServer sampleServer).play sampleStart).server.ledger.holder? sampleTask = some 0 := by
    decide +kernel
  obtain ⟨hone, hall⟩ := inert_of_cancelled hs sampleStart sampleTask
  obtain ⟨n, hn, hinert⟩ := hone htrue
  rw [hholder] at hn
  cases hn
  exact ⟨hs, htrue, hholder, hinert, hall 0 hholder⟩

end Schedule

end SessionTasks
