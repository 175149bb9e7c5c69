import SessionTasks.Main
import SessionTasks.Proofs.Schedule
import SessionTasks.Proofs.Schedule.Writers
import SessionTasks.Proofs.Schedule.Cancellation
import SessionTasks.Proofs.Recency
import SessionTasks.Proofs.Recency.Ranking
import SessionTasks.Proofs.Recency.Simulation
import SessionTasks.Proofs.Schedule.Loading
import SessionTasks.Proofs.Traffic
import SessionTasks.Proofs.Traffic.Loading
import SessionTasks.Proofs.Schedule.Frame
import SessionTasks.Proofs.Schedule.Timeline
import SessionTasks.Proofs.Task.Ownership
import SessionTasks.Proofs.Store.Saving
import SessionTasks.Proofs.Unwinding
import SessionTasks.Proofs.FileTree.Siblings
import SessionTasks.Proofs.Sessions.Owners
import SessionTasks.Proofs.Sessions.Twins
import SessionTasks.Proofs.Schedule.Twins
import SessionTasks.Proofs.Script
import SessionTasks.Proofs.Script.Isolation
import SessionTasks.Proofs.Schedule.InFlight
import SessionTasks.Proofs.Task.Progression
import SessionTasks.Proofs.Schedule.Overwriting
import SessionTasks.Proofs.Store.Decoding
import SessionTasks.Proofs.Store.Identity
import SessionTasks.Proofs.Schedule.Removed
import SessionTasks.Proofs.Task.WellFormed
import SessionTasks.Proofs.Schedule.Stores
import SessionTasks.Proofs.Schedule.WellFormed
import SessionTasks.Proofs.Schedule.Execution
import SessionTasks.Proofs.Task.Retention
import SessionTasks.Proofs.Sessions.Survivors
import SessionTasks.Proofs.Schedule.Pools
import SessionTasks.Proofs.Schedule.Sweep
import SessionTasks.Proofs.Task.Newest
import SessionTasks.Proofs.Task.Rewriting
import SessionTasks.Proofs.Task.Merging
import SessionTasks.Proofs.Task.Lifetime
import SessionTasks.Proofs.Schedule.Sparing
import SessionTasks.Proofs.Schedule.Writing
import SessionTasks.Proofs.Schedule.History
import SessionTasks.Proofs.Example
import SessionTasks.Proofs.Task.Codec
import SessionTasks.Proofs.Task.Listing
import SessionTasks.Proofs.Schedule.Listing
import SessionTasks.Proofs.Schedule.Sealed
import SessionTasks.Proofs.Request
import SessionTasks.Proofs.Resolver
import SessionTasks.Proofs.Task.Percent
import SessionTasks.Proofs.Schedule.Percent
import SessionTasks.Proofs.Timeline.Cadence
import SessionTasks.Proofs.Timeline.Places
import SessionTasks.Proofs.Timeline.Turns
import SessionTasks.Proofs.Timeline.Plan
import SessionTasks.Proofs.Config.Environment
import SessionTasks.Proofs.Command.Grammar
