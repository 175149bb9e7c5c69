/-
# The timeline is a schedule

The timeline fixes one order in which calls, works and callers go on.  Whatever it does is one
of the schedules of its server, so that what holds in every schedule holds in every timeline.

* `Timeline.Scheduled` : the server and the runs of a timeline are those of a schedule;
* `Scheduled.step`, `Scheduled.abort`, … : each thing that a timeline does keeps it so;
* `Command.scheduled_execute` : so does a whole command.
-/
import SessionTasks.Proofs.Schedule
import SessionTasks.Command.Run
namespace SessionTasks

/-! ## Some steps of one run -/

/-- The run after some steps, and the server. -/
def RunState.steps (r : RunState) (n : RunId) (s : Server) : List RunStep → Server × RunState
  | [] => (s, r)
  | a :: rest => (r.step n s a).2.steps n (r.step n s a).1 rest

theorem Schedule.play_steps {s : Schedule} {n : RunId} {r : RunState} (hr : s.runs[n]? = some r)
    (steps : List RunStep) :
    s.play (steps.map (.step n)) =
      ⟨(r.steps n s.server steps).1, s.runs.set n (r.steps n s.server steps).2⟩ := by
  induction steps generalizing s r with
  | nil =>
    have hset : s.runs.set n r = s.runs := by
      obtain ⟨hn, hget⟩ := List.getElem?_eq_some_iff.1 hr
      rw [← hget, List.set_getElem_self]
    show s = ⟨s.server, s.runs.set n r⟩
    rw [hset]
  | cons a rest ih =>
    rw [List.map_cons, play_cons, move_step hr]
    have hn : n < s.runs.length := (List.getElem?_eq_some_iff.1 hr).1
    have hnext : (s.runs.set n (r.step n s.server a).2)[n]? = some (r.step n s.server a).2 :=
      List.getElem?_set_self hn
    rw [ih hnext, List.set_set]
    rfl

/-! ## Which run is which -/

/-- The run of a timeline is where the run of a schedule is. -/
structure Run.Follows (r : Run) (q : RunState) : Prop where
  call : match r.call with
    | .starting key _ => q.stage = .asked ∧ q.key = key
    | .working key => q.stage = .working ∧ q.key = key
    | .ending key outcome => q.stage = .ending outcome ∧ q.key = key
    | .over => q.stage = .over
  labour : match r.labour with
    | some l => q.task = some l.task ∧ q.key = l.key
    | none => q.task = none

theorem Run.Follows.of_labour {r : Run} {q : RunState} (h : r.Follows q) {l : Labour}
    (hlabour : r.labour = some l) : q.task = some l.task ∧ q.key = l.key := by
  have hqlabour := h.labour
  rw [hlabour] at hqlabour
  exact hqlabour

/-- What the work still has to do does not matter. -/
theorem Run.Follows.congr {r r' : Run} {q : RunState} (h : r.Follows q)
    (hcall : r'.call = r.call) {l l' : Labour} (hlabour : r.labour = some l)
    (hlabour' : r'.labour = some l') (htask : l'.task = l.task) (hkey : l'.key = l.key) :
    r'.Follows q := by
  obtain ⟨hqtask, hqkey⟩ := h.of_labour hlabour
  constructor
  · rw [hcall]
    exact h.call
  · rw [hlabour']
    exact ⟨hqtask.trans (congrArg some htask.symm), hqkey.trans hkey.symm⟩

namespace Timeline

/-- The timeline is where a schedule is. -/
structure Follows (t : Timeline) (s : Schedule) : Prop where
  server : t.server = s.server
  length : t.runs.length = s.runs.length
  runs : ∀ (n : RunId) (r : Run) (q : RunState),
    t.runs[n]? = some r → s.runs[n]? = some q → r.Follows q

/-- The timeline is where some schedule of a server leads to. -/
def Scheduled (server : Server) (t : Timeline) : Prop :=
  ∃ moves, t.Follows ((Schedule.ofServer server).play moves)

variable {server : Server} {t : Timeline}

/-- A timeline of which no run was asked for. -/
theorem scheduled_of_server (server : Server) : Scheduled server { server } :=
  ⟨[], rfl, rfl, fun n r q hr => by simp at hr⟩

/-! ## Moves -/

/-- What is no part of the server or of the runs does not matter. -/
theorem Scheduled.congr {t' : Timeline} (h : Scheduled server t) (hserver : t'.server = t.server)
    (hruns : t'.runs = t.runs) : Scheduled server t' := by
  obtain ⟨moves, hfollows⟩ := h
  refine ⟨moves, hserver.trans hfollows.server, ?_, ?_⟩
  · rw [hruns]
    exact hfollows.length
  · rw [hruns]
    exact hfollows.runs

/-- A caller does something that leaves the runs. -/
theorem Scheduled.move {t' : Timeline} (h : Scheduled server t) (m : Move)
    (hmove : ∀ s : Schedule, (s.move m).runs = s.runs)
    (hserver : ∀ s : Schedule, s.server = t.server → t'.server = (s.move m).server)
    (hruns : t'.runs = t.runs) : Scheduled server t' := by
  obtain ⟨moves, hfollows⟩ := h
  refine ⟨moves ++ [m], ?_⟩
  rw [Schedule.play_append]
  refine ⟨hserver _ hfollows.server.symm, ?_, ?_⟩
  · show t'.runs.length = (((Schedule.ofServer server).play moves).move m).runs.length
    rw [hmove, hruns]
    exact hfollows.length
  · intro n r q hr hq
    change (((Schedule.ofServer server).play moves).move m).runs[n]? = some q at hq
    rw [hmove] at hq
    rw [hruns] at hr
    exact hfollows.runs n r q hr hq

/-- A caller asks for something that is not about runs. -/
theorem Scheduled.operate (h : Scheduled server t) (o : Operation) :
    Scheduled server { t with server := t.server.perform o } :=
  h.move (.operate o) (fun _ => rfl) (fun s hs => by rw [← hs]; rfl) rfl

/-- A caller cancels the run of a task. -/
theorem Scheduled.cancel (h : Scheduled server t) (key : TaskKey) :
    Scheduled server { t with server := (t.server.cancelRun key).2 } :=
  h.move (.cancel key) (fun _ => rfl) (fun s hs => by rw [← hs]; rfl) rfl

/-- A caller cancels every run. -/
theorem Scheduled.cancelAll (h : Scheduled server t) :
    Scheduled server { t with server := t.server.cancelAll.2 } :=
  h.move .cancelAll (fun _ => rfl) (fun s hs => by rw [← hs]; rfl) rfl

/-- **One run goes on.**  It is enough that some steps of the run lead from every state that it
may be in to the one that it is in afterwards. -/
theorem Scheduled.run {t' : Timeline} (h : Scheduled server t) {n : RunId} {r r' : Run}
    (hr : t.runs[n]? = some r) (hruns : t'.runs = t.runs.set n r')
    (hsteps : ∀ q : RunState, r.Follows q → ∃ steps, t'.server = (q.steps n t.server steps).1 ∧
      r'.Follows (q.steps n t.server steps).2) : Scheduled server t' := by
  obtain ⟨moves, hfollows⟩ := h
  obtain ⟨hn, -⟩ := List.getElem?_eq_some_iff.1 hr
  have hq := List.getElem?_eq_getElem (hfollows.length ▸ hn)
  obtain ⟨steps, hserver, hrun⟩ := hsteps _ (hfollows.runs n r _ hr hq)
  rw [hfollows.server] at hserver hrun
  refine ⟨moves ++ steps.map (.step n), ?_⟩
  rw [Schedule.play_append, Schedule.play_steps hq]
  refine ⟨hserver, ?_, ?_⟩
  · rw [hruns, List.length_set, List.length_set]
    exact hfollows.length
  · -- the run itself is where its steps lead; every other is where it was
    intro m a b ha hb
    rw [hruns] at ha
    change (List.set _ n _)[m]? = some b at hb
    by_cases hnm : n = m
    · subst hnm
      rw [List.getElem?_set_self hn] at ha
      rw [List.getElem?_set_self (hfollows.length ▸ hn)] at hb
      cases ha
      cases hb
      exact hrun
    · rw [List.getElem?_set_ne hnm] at ha hb
      exact hfollows.runs m a b ha hb

/-! ## What a timeline does -/

/-- A run is asked for. -/
theorem Scheduled.spawn (h : Scheduled server t) (key : TaskKey) (work : Work) :
    Scheduled server (t.spawn key work).2 := by
  obtain ⟨moves, hfollows⟩ := h
  refine ⟨moves ++ [.ask key], ?_⟩
  rw [Schedule.play_append]
  refine ⟨hfollows.server, ?_, ?_⟩
  · show (t.runs ++ [_]).length = (_ ++ [_]).length
    rw [List.length_append, List.length_append, hfollows.length]
    rfl
  · intro n r q hr hq
    change (t.runs ++ [_])[n]? = some r at hr
    rcases getElem?_concat_eq_some_iff.1 hr with hr | ⟨hn, rfl⟩
    · rcases getElem?_concat_eq_some_iff.1 hq with hq | ⟨hm, -⟩
      · exact hfollows.runs n r q hr hq
      · have hlt := (List.getElem?_eq_some_iff.1 hr).1
        have hlength := hfollows.length
        omega
    · rcases getElem?_concat_eq_some_iff.1 hq with hq | ⟨-, rfl⟩
      · have hlt := (List.getElem?_eq_some_iff.1 hq).1
        have hlength := hfollows.length
        omega
      · exact ⟨⟨rfl, rfl⟩, rfl⟩

/-- A run starts, unless another run holds its task. -/
theorem Scheduled.startCall (h : Scheduled server t) {n : RunId} {r : Run} {key : TaskKey}
    {work : Work} (hr : t.runs[n]? = some r) (hcall : r.call = .starting key work) :
    Scheduled server (t.startCall n r key work) := by
  have hasked : ∀ q : RunState, r.Follows q → q.stage = .asked ∧ q.key = key := by
    intro q hq
    have hqcall := hq.call
    rw [hcall] at hqcall
    exact hqcall
  unfold Timeline.startCall
  cases haccept : t.server.accept? key n with
  | none =>
    refine h.run hr rfl fun q hq => ⟨[.accept], ?_⟩
    obtain ⟨hstage, rfl⟩ := hasked q hq
    simp only [RunState.steps, RunState.step, hstage, haccept]
    exact ⟨rfl, rfl, hq.labour⟩
  | some accepted =>
    dsimp only
    rcases hbegin : accepted.begin key n with ⟨(f | _ | task), begun⟩
    · refine h.run hr rfl fun q hq => ⟨[.accept, .begin, .finish], ?_⟩
      obtain ⟨hstage, rfl⟩ := hasked q hq
      simp only [RunState.steps, RunState.step, hstage, haccept, hbegin]
      exact ⟨rfl, rfl, hq.labour⟩
    · refine h.run hr rfl fun q hq => ⟨[.accept, .begin, .finish], ?_⟩
      obtain ⟨hstage, rfl⟩ := hasked q hq
      simp only [RunState.steps, RunState.step, hstage, haccept, hbegin]
      exact ⟨rfl, rfl, hq.labour⟩
    · refine h.run hr rfl fun q hq => ⟨[.accept, .begin], ?_⟩
      obtain ⟨hstage, rfl⟩ := hasked q hq
      simp only [RunState.steps, RunState.step, hstage, haccept, hbegin]
      exact ⟨rfl, ⟨rfl, rfl⟩, ⟨rfl, rfl⟩⟩

/-- The call of a run goes on. -/
theorem Scheduled.stepCall (h : Scheduled server t) {n : RunId} {r : Run}
    (hr : t.runs[n]? = some r) : Scheduled server (t.stepCall n r) := by
  unfold Timeline.stepCall
  cases hcall : r.call with
  | starting key work => exact h.startCall hr hcall
  | ending key outcome =>
    refine h.run hr rfl fun q hq => ⟨[.finish], ?_⟩
    have hqcall := hq.call
    rw [hcall] at hqcall
    obtain ⟨hstage, rfl⟩ := hqcall
    simp only [RunState.steps, RunState.step, hstage]
    exact ⟨rfl, rfl, hq.labour⟩
  | _ => exact h

/-- Work that ends behind a call that does not wait for it just ends. -/
theorem step_endWork_of_ne {q : RunState} (h : q.stage ≠ .working) (n : RunId) (s : Server)
    (outcome : Except Failure Unit) :
    q.step n s (.endWork outcome) = (s, { q with task := none }) := by
  unfold RunState.step
  dsimp only
  split
  · rename_i hworking
    exact absurd hworking h
  · rfl

/-- The work of a run ends. -/
theorem Scheduled.endWork (h : Scheduled server t) {n : RunId} {r r' : Run} {l : Labour}
    (hr : t.runs[n]? = some r) (hlabour : r.labour = some l) (hcall : r'.call = r.call)
    (outcome : Except Failure Unit) : Scheduled server (t.endWork n r' outcome) := by
  unfold Timeline.endWork
  rw [hcall]
  cases hstage : r.call with
  | working key =>
    refine h.run hr rfl fun q hq => ⟨[.endWork outcome], ?_⟩
    have hqcall := hq.call
    rw [hstage] at hqcall
    simp only [RunState.steps, RunState.step, hqcall.1, (hq.of_labour hlabour).1]
    exact ⟨rfl, ⟨rfl, hqcall.2⟩, rfl⟩
  | _ =>
    refine h.run hr rfl fun q hq => ⟨[.endWork outcome], ?_⟩
    have hqcall := hq.call
    rw [hstage] at hqcall
    have hne : q.stage ≠ .working := by
      intro hworking
      rw [hworking] at hqcall
      simp at hqcall
    unfold RunState.steps RunState.steps
    rw [step_endWork_of_ne hne]
    exact ⟨rfl, hqcall, rfl⟩

/-- The call of a run is given up. -/
theorem Scheduled.abort (h : Scheduled server t) (n : RunId) : Scheduled server (t.abort n) := by
  unfold Timeline.abort
  cases hr : t.run? n with
  | none => exact h
  | some r =>
    obtain ⟨call, labour⟩ := r
    cases call with
    | starting key work =>
      refine h.run hr rfl fun q hq => ⟨[.giveUp], ?_⟩
      obtain ⟨⟨hstage, rfl⟩, hqlabour⟩ := hq
      simp only [RunState.steps, RunState.step, hstage]
      exact ⟨rfl, rfl, hqlabour⟩
    | working key =>
      refine h.run hr rfl fun q hq => ⟨[.giveUp], ?_⟩
      obtain ⟨⟨hstage, rfl⟩, hqlabour⟩ := hq
      simp only [RunState.steps, RunState.step, hstage]
      exact ⟨rfl, rfl, hqlabour⟩
    | ending key outcome =>
      refine h.run hr rfl fun q hq => ⟨[.giveUp], ?_⟩
      obtain ⟨⟨hstage, rfl⟩, hqlabour⟩ := hq
      simp only [RunState.steps, RunState.step, hstage]
      exact ⟨rfl, rfl, hqlabour⟩
    | _ => exact h.run hr rfl fun q hq => ⟨[], rfl, hq⟩

/-- The work at the front of the line takes an action. -/
theorem Scheduled.act (h : Scheduled server t) {n : RunId} {r r' : Run} {l l' : Labour}
    (hr : t.runs[n]? = some r) (hlabour : r.labour = some l) (hcall : r'.call = r.call)
    (hlabour' : r'.labour = some l') (htask : l'.task = l.task) (hkey : l'.key = l.key)
    (a : Action) : Scheduled server (t.act n r' l a) := by
  -- what the work does without the server leaves the run where it is
  have hsame : ∀ t' : Timeline, t'.server = t.server → t'.runs = t.runs.set n r' →
      Scheduled server t' := by
    intro t' hserver hruns
    exact h.run hr hruns fun q hq =>
      ⟨[], hserver, hq.congr hcall hlabour hlabour' htask hkey⟩
  have hyield : Scheduled server t.yieldTurn := h.congr rfl rfl
  have hend : ∀ outcome, Scheduled server (t.yieldTurn.endWork n r' outcome) := fun outcome =>
    hyield.endWork hr hlabour hcall outcome
  unfold Timeline.act
  cases a with
  | report progress step description =>
    refine h.run hr rfl fun q hq => ⟨[.report progress step description], ?_⟩
    obtain ⟨hqtask, hqkey⟩ := hq.of_labour hlabour
    have hworks : q.task.isSome = true := by
      rw [hqtask]
      rfl
    unfold RunState.steps RunState.steps RunState.step
    dsimp only
    rw [if_pos hworks, hqkey]
    exact ⟨rfl, hq.congr hcall hlabour hlabour' htask hkey⟩
  | stopIfCancelled work =>
    dsimp only
    split
    · exact hend _
    · exact hsame _ rfl rfl
  | pause nanoseconds =>
    cases nanoseconds with
    | zero => exact hsame _ rfl rfl
    | succ k => exact hsame _ rfl rfl
  | await name =>
    dsimp only
    split
    · exact hsame _ rfl rfl
    · exact hsame _ rfl rfl
  | check label => exact hsame _ rfl rfl
  | showTask => exact hsame _ rfl rfl
  | fail kind message => exact hend _
  | panic message => exact hend _

/-- The work at the front of the line goes on. -/
theorem Scheduled.stepWork (h : Scheduled server t) {n : RunId} {r : Run} {l : Labour}
    (hr : t.runs[n]? = some r) (hlabour : r.labour = some l) :
    Scheduled server (t.stepWork n r l) := by
  have hyield : Scheduled server t.yieldTurn := h.congr rfl rfl
  unfold Timeline.stepWork
  split
  · exact hyield.endWork hr hlabour rfl _
  · apply h.act hr hlabour
    · rfl
    · rfl
    · rfl
    · rfl

/-- **Step lemma.**  The job at the front of the line goes on. -/
theorem Scheduled.step (h : Scheduled server t) : Scheduled server t.step := by
  have hyield : Scheduled server t.yieldTurn := h.congr rfl rfl
  unfold Timeline.step
  split
  · exact h
  · split
    · rename_i hr
      exact hyield.stepCall hr
    · exact hyield
  · split
    · rename_i hr
      split
      · rename_i hlabour
        exact h.stepWork hr hlabour
      · exact hyield
    · exact hyield
  · exact (hyield.operate .tick).congr rfl rfl

/-- The line runs empty. -/
theorem Scheduled.drain (fuel : Nat) (h : Scheduled server t) :
    Scheduled server (t.drain fuel) := by
  induction fuel generalizing t with
  | zero => exact h
  | succ fuel ih =>
    unfold Timeline.drain
    split
    · exact h
    · exact ih h.step

theorem Scheduled.settle (h : Scheduled server t) : Scheduled server t.settle := h.drain _

/-- A gate is given permits. -/
theorem Scheduled.release (h : Scheduled server t) (name : String) (permits : Nat) :
    Scheduled server (t.release name permits) :=
  h.congr rfl rfl

/-- The timer of retention is set. -/
theorem Scheduled.startTimer (h : Scheduled server t) : Scheduled server t.startTimer.2 := by
  unfold Timeline.startTimer
  dsimp only
  split
  · exact (h.operate .startTimer).congr rfl rfl
  · exact h

/-- What has fallen due goes on. -/
theorem Scheduled.wake (h : Scheduled server t) (time : Nat) : Scheduled server (t.wake time) :=
  (h.operate (.setClock time)).congr rfl rfl

/-- Time moves from deadline to deadline. -/
theorem Scheduled.pass (last fuel : Nat) (h : Scheduled server t) :
    Scheduled server (Timeline.pass last fuel t) := by
  induction fuel generalizing t with
  | zero => exact h
  | succ fuel ih =>
    unfold Timeline.pass
    split
    · exact h
    · split
      · exact ih (h.wake _).settle
      · exact h

/-- **Time moves.** -/
theorem Scheduled.advance (h : Scheduled server t) (milliseconds : Nat) :
    Scheduled server (t.advance milliseconds) :=
  (h.pass _ _).operate (.setClock _)

/-- Time moves until a run is over. -/
theorem Scheduled.runUntilOver (n fuel : Nat) (h : Scheduled server t) :
    Scheduled server (Timeline.runUntilOver n fuel t) := by
  induction fuel generalizing t with
  | zero => exact h
  | succ fuel ih =>
    unfold Timeline.runUntilOver
    split
    · exact h
    · split
      · exact h
      · exact ih (h.wake _).settle

/-- **In every timeline of a fresh server the ledger is exact.** -/
theorem Scheduled.exact {c : Config} {epoch issued : Nat} {files : FileTree}
    (hs : Server.ofConfig c epoch files issued = .ok server) (h : Scheduled server t) :
    ∃ s : Schedule, t.Follows s ∧ t.server.ledger.Exact s.runs := by
  obtain ⟨moves, hfollows⟩ := h
  refine ⟨_, hfollows, ?_⟩
  rw [hfollows.server]
  exact Schedule.exact_of_ofConfig hs moves

end Timeline

/-! ## Commands -/

namespace Command

open Timeline

variable {server : Server} {t : Timeline}

/-- A sample task runs to its end. -/
theorem scheduled_runDemo (h : Scheduled server t) (session : Option String)
    (steps delay : Nat) : Scheduled server (runDemo t session steps delay).2 := by
  have htimer := h.startTimer
  have hopen := htimer.operate
    (.openSession (session.getD t.startTimer.2.server.resolver.settings.defaultSession))
  unfold runDemo sessionOr
  dsimp only [Server.perform] at hopen ⊢
  split
  · rename_i hresult
    rw [hresult] at hopen
    exact hopen
  · rename_i opened opening hresult
    rw [hresult] at hopen
    have hcreate := hopen.operate (.useStore opened.store (.createTask opened.key {
      name := "Sample Task"
      description := some (Rounds.numeral steps ++ " evenly spaced steps") }))
    dsimp only [Server.perform, Server.useStore] at hcreate
    split
    · rename_i hresult'
      rw [hresult'] at hcreate
      exact hcreate
    · rename_i task creating hresult'
      rw [hresult'] at hcreate
      have hover := (hcreate.spawn ⟨opened.key, task.id⟩ (.sample steps delay)).settle.runUntilOver
        ({ t.startTimer.2 with server := creating }.spawn ⟨opened.key, task.id⟩
          (.sample steps delay)).1 (delay + steps + 2)
      split
      · split
        · exact hover.operate (.useStore opened.store .save)
        · exact hover
      · exact hover
      · exact hover

/-- The counts of a session are shown. -/
theorem scheduled_runStats (h : Scheduled server t) (session : Option String) :
    Scheduled server (runStats t session).2 := by
  have hopen := h.operate
    (.openSession (session.getD t.server.resolver.settings.defaultSession))
  dsimp only [Server.perform] at hopen
  unfold runStats sessionOr
  split
  · rename_i hresult
    rw [hresult] at hopen
    exact hopen
  · rename_i hresult
    rw [hresult] at hopen
    exact hopen

/-- **Whatever a command does is one of the schedules of a fresh server.** -/
theorem scheduled_execute (server : Server) (command : Command) :
    Scheduled server (execute { server } command).2 := by
  have hfresh := scheduled_of_server server
  cases command with
  | demo session steps delay => exact scheduled_runDemo hfresh session steps delay
  | stats session => exact scheduled_runStats hfresh session
  | resolve options =>
    exact hfresh.operate (.resolve (requestOf server.resolver.settings options))
  | help => exact hfresh

end Command

end SessionTasks
