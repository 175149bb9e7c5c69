/-
# The timeline

A timeline drives the runs of a server through virtual time.  What can go on waits in a
line, first come first served; a run keeps its turn until it pauses, waits at a gate or
ends.  Time moves only when nothing can go on, from one deadline to the next; what falls due
at one time goes on in the order in which it was put off.
-/
import SessionTasks.Server.Runs
import SessionTasks.Server.Retention
import SessionTasks.Work
namespace SessionTasks

/-- Stops the timer of retention and cancels every run, and counts them. -/
def Server.shutdown (s : Server) : Nat × Server := s.stopTimer.2.cancelAll

/-! ## State -/

/-- The call that started a run, from its start to its end. -/
inductive Call where
  /-- The run has not started. -/
  | starting (key : TaskKey) (work : Work)
  /-- The work of the run goes on. -/
  | working (key : TaskKey)
  /-- The work has ended, and the run is about to. -/
  | ending (key : TaskKey) (outcome : Except Failure Unit)
  /-- The run has ended, or was given up. -/
  | over

/-- Work that goes on. -/
structure Labour where
  /-- The task it is for. -/
  key : TaskKey
  /-- The task as it was given to the work. -/
  task : Task
  /-- What is still to be done. -/
  work : Work

/-- A run: the call that started it and the work, which may outlast the call. -/
structure Run where
  /-- The call. -/
  call : Call
  /-- The work, while it goes on. -/
  labour : Option Labour := none

/-- What can go on. -/
inductive Job where
  /-- The call of a run. -/
  | call (run : RunId)
  /-- The work of a run. -/
  | work (run : RunId)
  /-- A cycle of retention. -/
  | cycle

/-- A gate that lets as many works pass as it has permits. -/
structure Gate where
  /-- The permits that are left. -/
  permits : Nat := 0
  /-- The runs whose works wait, first come first. -/
  waiting : List RunId := []

/-- Work that pauses. -/
structure Sleeper where
  /-- When it goes on. -/
  due : Nat
  /-- How many things were put off before. -/
  ticket : Nat
  /-- The run. -/
  run : RunId

/-- A server and its runs. -/
structure Timeline where
  /-- The server. -/
  server : Server
  /-- Every run, in the order they were asked for. -/
  runs : List Run := []
  /-- What can go on, first come first. -/
  ready : List Job := []
  /-- Works that pause. -/
  sleepers : List Sleeper := []
  /-- How many things were put off. -/
  tickets : Nat := 0
  /-- How many things had been put off when the timer of retention was last set. -/
  cycleTicket : Nat := 0
  /-- The gates by their names. -/
  gates : KeyMap Gate := .empty
  /-- What works noted, in order. -/
  log : List Json := []

namespace Timeline

/-! ## Runs -/

/-- The run with a number. -/
def run? (t : Timeline) (n : RunId) : Option Run := t.runs[n]?

/-- Puts another state of a run. -/
def setRun (t : Timeline) (n : RunId) (r : Run) : Timeline :=
  { t with runs := t.runs.set n r }

/-- Adds a job at the end of the line. -/
def enqueue (t : Timeline) (j : Job) : Timeline := { t with ready := t.ready ++ [j] }

/-- Asks for a run. -/
def spawn (t : Timeline) (key : TaskKey) (work : Work) : RunId × Timeline :=
  let n := t.runs.length
  let t := { t with runs := t.runs ++ [Run.mk (.starting key work) none] }
  (n, t.enqueue (.call n))

/-- The call of a run is over. -/
def isOver (t : Timeline) (n : RunId) : Bool :=
  match t.run? n with
  | some ⟨.over, _⟩ => true
  | _ => false

/-- Starts a run, unless another run holds its task. -/
def startCall (t : Timeline) (n : RunId) (r : Run) (key : TaskKey) (work : Work) : Timeline :=
  match t.server.accept? key n with
  | none => t.setRun n { r with call := .over }
  | some server =>
    match server.begin key n with
    | (.error f, server) =>
      { t with server := server.finish key n (.error f) }.setRun n { r with call := .over }
    | (.ok none, server) =>
      { t with server := server.finish key n (.ok ()) }.setRun n { r with call := .over }
    | (.ok (some task), server) =>
      ({ t with server }.setRun n { call := .working key, labour := some ⟨key, task, work⟩ })
        |>.enqueue (.work n)

/-- The call of a run goes on. -/
def stepCall (t : Timeline) (n : RunId) (r : Run) : Timeline :=
  match r.call with
  | .starting key work => t.startCall n r key work
  | .ending key outcome =>
    { t with server := t.server.finish key n outcome }.setRun n { r with call := .over }
  | .working _ | .over => t

/-- The work of a run has ended.  Its call goes on, if it was not given up. -/
def endWork (t : Timeline) (n : RunId) (r : Run) (outcome : Except Failure Unit) : Timeline :=
  match r.call with
  | .working key => (t.setRun n { call := .ending key outcome }).enqueue (.call n)
  | _ => t.setRun n { r with labour := none }

/-- Gives up the call of a run; its work goes on. -/
def abort (t : Timeline) (n : RunId) : Timeline :=
  match t.run? n with
  | some r =>
    match r.call with
    | .working key | .ending key _ =>
      { t with server := t.server.giveUp key n }.setRun n { r with call := .over }
    | .starting _ _ | .over => t.setRun n { r with call := .over }
  | none => t

/-! ## Actions -/

/-- Takes the first job out of the line. -/
def yieldTurn (t : Timeline) : Timeline := { t with ready := t.ready.drop 1 }

/-- Puts a work off until a time. -/
def sleep (t : Timeline) (n : RunId) (due : Nat) : Timeline :=
  { t with sleepers := t.sleepers ++ [⟨due, t.tickets, n⟩], tickets := t.tickets + 1 }

/-- The first whole millisecond at which a pause is over. -/
def wakeTime (now nanoseconds : Nat) : Nat := now + (nanoseconds + 999999) / 1000000

/-- A gate. -/
def gate (t : Timeline) (name : String) : Gate := (t.gates.get? name).getD {}

/-- Puts another state of a gate. -/
def setGate (t : Timeline) (name : String) (g : Gate) : Timeline :=
  { t with gates := t.gates.insert name g }

/-- Notes something. -/
def note (t : Timeline) (v : Json) : Timeline := { t with log := t.log ++ [v] }

/-- The work at the front of the line takes an action.  `r` is its run after the action. -/
def act (t : Timeline) (n : RunId) (r : Run) (l : Labour) : Action → Timeline
  | .report progress step description =>
    { t with server := t.server.report l.key n progress step description }.setRun n r
  | .stopIfCancelled work =>
    if t.server.ledger.isCancelled n then
      t.yieldTurn.endWork n r (.error (.runCancelled work l.task.id))
    else t.setRun n r
  | .pause 0 => t.setRun n r
  | .pause nanoseconds =>
    (t.yieldTurn.setRun n r).sleep n (wakeTime t.server.now nanoseconds)
  | .await name =>
    let g := t.gate name
    if 0 < g.permits then (t.setGate name { g with permits := g.permits - 1 }).setRun n r
    else (t.setGate name { g with waiting := g.waiting ++ [n] }).yieldTurn.setRun n r
  | .check label =>
    let cancelled := t.server.ledger.isCancelled n
    (t.note (.object [("check", label), ("cancelled", .bool cancelled)])).setRun n r
  | .showTask => (t.note (.object [("task", l.task.toJson)])).setRun n r
  | .fail kind message => t.yieldTurn.endWork n r (.error (.raised kind message none none))
  | .panic message => t.yieldTurn.endWork n r (.error (.executorPanicked n message))

/-- The work at the front of the line goes on by one action. -/
def stepWork (t : Timeline) (n : RunId) (r : Run) (l : Labour) : Timeline :=
  match l.work.next? with
  | none => t.yieldTurn.endWork n r (.ok ())
  | some (a, rest) => t.act n { r with labour := some { l with work := rest } } l a

/-- The timer of retention has gone off. -/
def cycle (t : Timeline) : Timeline :=
  { t with server := t.server.tick, tickets := t.tickets + 1, cycleTicket := t.tickets }

/-- The job at the front of the line goes on. -/
def step (t : Timeline) : Timeline :=
  match t.ready with
  | [] => t
  | .call n :: _ =>
    match t.run? n with
    | some r => t.yieldTurn.stepCall n r
    | none => t.yieldTurn
  | .work n :: _ =>
    match t.run? n with
    | some r =>
      match r.labour with
      | some l => t.stepWork n r l
      | none => t.yieldTurn
    | none => t.yieldTurn
  | .cycle :: _ => t.yieldTurn.cycle

/-! ## Until nothing can go on -/

/-- A bound on the steps that a run still takes before it is over. -/
def Run.size (r : Run) : Nat :=
  (match r.call with
    | .starting _ work => 2 * work.size + 8
    | _ => 4)
    + match r.labour with
      | some l => 2 * l.work.size + 4
      | none => 0

/-- A bound on the steps that can be taken before time has to move. -/
def size (t : Timeline) : Nat := t.runs.foldl (fun n r => n + Run.size r) t.ready.length

/-- Takes steps until the line is empty; at most `fuel` of them. -/
def drain : (fuel : Nat) → Timeline → Timeline
  | 0, t => t
  | fuel + 1, t => if t.ready.isEmpty then t else drain fuel t.step

/-- Takes steps until nothing can go on. -/
def settle (t : Timeline) : Timeline := t.drain (t.size + 1)

/-- Gives permits to a gate.  Works that wait pass first. -/
def release (t : Timeline) (name : String) (permits : Nat) : Timeline :=
  let g := t.gate name
  let all := g.permits + permits
  let served := g.waiting.take all
  let t := t.setGate name { permits := all - served.length, waiting := g.waiting.drop all }
  { t with ready := t.ready ++ served.map .work }

/-! ## Time -/

/-- Sets the timer of retention; tells whether it was not set before. -/
def startTimer (t : Timeline) : Bool × Timeline :=
  let (started, server) := t.server.startTimer
  if started then
    (true, { t with server, tickets := t.tickets + 1, cycleTicket := t.tickets })
  else (false, t)

/-- What was put off, with its time and its place in the order. -/
def deadlines (t : Timeline) : List (Nat × Nat × Job) :=
  t.sleepers.map (fun s => (s.due, s.ticket, .work s.run))
    ++ (t.server.sweeper.timer.map fun timer => (timer.due, t.cycleTicket, .cycle)).toList

/-- The next time at which something falls due. -/
def nextDue? (t : Timeline) : Option Nat := (t.deadlines.map (·.1)).min?

/-- Lets everything go on that has fallen due at a time. -/
def wake (t : Timeline) (time : Nat) : Timeline :=
  let due := (t.deadlines.filter (·.1 ≤ time)).mergeSort fun a b => a.2.1 ≤ b.2.1
  { t with
    server := { t.server with now := time }
    sleepers := t.sleepers.filter (time < ·.due)
    ready := t.ready ++ due.map (·.2.2) }

/-- Moves time from deadline to deadline, up to a last one; at most `fuel` of them. -/
def pass (last : Nat) : (fuel : Nat) → Timeline → Timeline
  | 0, t => t
  | fuel + 1, t =>
    match t.nextDue? with
    | none => t
    | some due => if due ≤ last then pass last fuel (t.wake due).settle else t

/-- Moves time by some milliseconds.  What falls due at the end still goes on. -/
def advance (t : Timeline) (milliseconds : Nat) : Timeline :=
  let last := t.server.now + milliseconds
  let t := pass last (milliseconds + 1) t
  { t with server := { t.server with now := last } }

/-- Moves time from deadline to deadline until a run is over; at most `fuel` of them. -/
def runUntilOver (n : RunId) : (fuel : Nat) → Timeline → Timeline
  | 0, t => t
  | fuel + 1, t =>
    if t.isOver n then t
    else match t.nextDue? with
      | none => t
      | some due => runUntilOver n fuel (t.wake due).settle

end Timeline

end SessionTasks
