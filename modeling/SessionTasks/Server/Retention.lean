/-
# Retention of finished tasks

A cycle drops the sessions that idled too long and trims the finished tasks of every live
session; looking at a session in a cycle does not count as using it.  While a timer is set
a cycle starts each time a period has passed; the period is settled when the timer is set.
-/
import SessionTasks.Server
namespace SessionTasks.Server

/-- Trims the finished tasks of some sessions, and counts the tasks that were dropped.  A
session whose store fails is passed over. -/
def trimSessions (s : Server) (limits : RetentionLimits) : List SessionKey → Nat × Server
  | [] => (0, s)
  | key :: rest =>
    match s.existing? key with
    | none => trimSessions s limits rest
    | some opened =>
      let (result, s) := s.onStore opened.store fun store => store.trimTasks key limits
      let (n, s) := trimSessions s limits rest
      match result with
      | .ok removed => (removed + n, s)
      | .error _ => (n, s)

/-- One cycle; counts the tasks that were dropped. -/
def sweep (s : Server) : Nat × Server :=
  let (expired, s) := s.expireSessions
  let keys := s.pool.keys
  let (removed, s) := s.trimSessions s.sweeper.options.limits keys
  let report : SweepReport := {
    finishedAt := s.clock
    sessionsScanned := keys.length
    sessionsExpired := expired
    tasksRemoved := removed }
  (removed, { s with sweeper := { s.sweeper with lastRun := some report } })

/-- The server with another timer, or none. -/
def withTimer (s : Server) (timer : Option SweepTimer) : Server :=
  { s with sweeper := { s.sweeper with timer } }

/-- Sets the timer; tells whether it was not set before. -/
def startTimer (s : Server) : Bool × Server :=
  match s.sweeper.timer with
  | some _ => (false, s)
  | none =>
    let period := s.sweeper.options.period
    (true, s.withTimer (some ⟨s.now + period, period⟩))

/-- Stops the timer; tells whether it was set. -/
def stopTimer (s : Server) : Bool × Server := (s.sweeper.timer.isSome, s.withTimer none)

/-- The timer has gone off: it is set for the next cycle, and a cycle runs. -/
def tick (s : Server) : Server :=
  match s.sweeper.timer with
  | none => s
  | some t => (s.withTimer (some { t with due := t.due + t.period })).sweep.2

/-- Changes the options, and gives back what they are now. -/
def updateOptions (s : Server) (u : RetentionOptionsUpdate) : RetentionOptions × Server :=
  let options := u.apply s.sweeper.options
  (options, { s with sweeper := { s.sweeper with options } })

end SessionTasks.Server
