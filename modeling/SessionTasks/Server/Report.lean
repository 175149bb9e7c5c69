/-
# What a server tells about itself

The counts of sessions, the state of retention and the sessions of addresses, as JSON.
-/
import SessionTasks.Server
namespace SessionTasks

/-- What came of a cycle, as an object. -/
def SweepReport.toJson (r : SweepReport) : Json :=
  .object [("finishedAt", .ofStamp r.finishedAt), ("sessionsScanned", .ofNat r.sessionsScanned),
    ("sessionsExpired", .ofNat r.sessionsExpired), ("tasksRemoved", .ofNat r.tasksRemoved)]

/-- The state of retention as an object.  A cycle is one step, so none is going on between
two operations. -/
def Sweeper.toJson (s : Sweeper) : Json :=
  .object [("isRunning", .bool false), ("isActive", .bool s.timer.isSome),
    ("options", s.options.toJson), ("lastRun", .ofOption SweepReport.toJson s.lastRun)]

/-- The counts of a pool as an object. -/
def SessionPool.stats (p : SessionPool) : Json :=
  .object [("activeSessions", .ofNat p.sessions.size),
    ("maxSessions", .ofCount p.settings.maxSessions),
    ("sessionTimeout", .ofCount p.settings.timeout)]

/-- The sessions of addresses, in the order of the addresses. -/
def Resolver.mappingsJson (v : Resolver) : Json :=
  .arr (v.mappings.entries.map fun e => .object [("ip", .str e.1), ("sessionKey", .str e.2)])

end SessionTasks
