/-
# Listings in a schedule

While nobody writes to the table of tasks past the requests about tasks, and no file is read, every
row of the table holds a task as it is written.  So callers may look at the rows through examples
and still be told about tasks, whatever was created, changed, dropped and run before.

* `Schedule.tellsTasks_of_ofConfig` : what every session is told about its tasks, in every schedule
  of a fresh server.
-/
import SessionTasks.Proofs.Schedule.WellFormed
import SessionTasks.Proofs.Task.Listing
namespace SessionTasks.Schedule

/-- **Every session is told about its tasks as they are.** -/
theorem tellsTasks_of_ofConfig {c : Config} {epoch issued : Nat} {files : FileTree}
    {server : Server} (hs : Server.ofConfig c epoch files issued = .ok server) {moves : List Move}
    (hmoves : ¬ (ofServer server).Happens Tampers moves) (id : StoreId) (session : SessionKey) :
    (((ofServer server).play moves).server.store id).TellsTasks session := by
  have hfiled : ∀ other, ((ofServer server).server.store other).Filed := by
    intro other table name r hr
    change (server.store other).tables.find? table name = some r at hr
    rw [Server.store_of_ofConfig hs] at hr
    cases hr
  refine Store.tellsTasks_of_written (filed_play hfiled moves id) ?_ session
  exact taskRows_play Record.kept_isWritten hmoves (taskRows_of_ofConfig hs) id

/-- A task with a note and a user is created beside the one that failed and was made pending. -/
def sampleNoted : List Move :=
  sampleLife ++ [.operate (.useStore 0 (.createTask (.sanitize "a")
    { name := "t", userId := some "u", metadata := some (.ofList [("size", .int 3)]) }))]

theorem not_tampers_sampleNoted : ¬ (ofServer sampleServer).Happens Tampers sampleNoted := by
  unfold sampleNoted
  rw [happens_concat_iff, not_or]
  refine ⟨not_tampers_sampleLife, fun h => ?_⟩
  cases h with
  | read ho =>
    obtain ⟨id, -, -, hread, -⟩ := ho
    cases hread

/-- Both tasks are pending, and one of them has a note that agrees. -/
theorem tellsTasks_of_ofConfig_noted :
    Server.ofConfig {} 0 .empty 0 = .ok sampleServer ∧
      ¬ (ofServer sampleServer).Happens Tampers sampleNoted ∧
      ((((ofServer sampleServer).play sampleNoted).server.store 0).findAll Task.table
        (({ status := some .pending } : TaskFilter).toExample (.sanitize "a"))).toOption.map
          (·.map Record.id) = some [identifier 1, identifier 2] ∧
      ((((ofServer sampleServer).play sampleNoted).server.store 0).findAll Task.table
        (({ metadata := some (.ofList [("size", .double (.ofInt 3))]) } : TaskFilter).toExample
          (.sanitize "a"))).toOption.map (·.map Record.id) = some [identifier 2] ∧
      (((ofServer sampleServer).play sampleNoted).server.store 0).TellsTasks (.sanitize "a") :=
  ⟨ofConfig_sampleServer, not_tampers_sampleNoted, by decide +kernel, by decide +kernel,
    tellsTasks_of_ofConfig ofConfig_sampleServer not_tampers_sampleNoted 0 (.sanitize "a")⟩

end SessionTasks.Schedule
