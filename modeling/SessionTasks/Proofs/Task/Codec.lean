/-
# Tasks and the records they are read from

A task is read back from its record, and the store may have set the time of the record before.  A
record that is read as a task need not be the record of the task, as it may have other columns,
a whole number as its progress, or `null` where the task has nothing; but the record of the task is
read as the same task again.

* `Store.ofRecord_of_put` : a task that was stored is read back;
* `Task.ofRecord_toRecord_of_ofRecord` : what was read once is read again;
* `Task.codecLaws` : reading undoes writing, for records and for tasks.
-/
import SessionTasks.Proofs.Record.Codec
import SessionTasks.Proofs.Store.Identity
namespace SessionTasks

variable {t : Task} {r : Record}

/-- A record is read back from its object. -/
theorem Record.ofJson_toJson (r : Record) : Record.ofJson r.toJson = .ok r := by
  obtain ⟨members, hmembers⟩ : ∃ members, r.toJson = .obj members := ⟨_, rfl⟩
  exact Record.ofJson_eq_ok_iff.2 ⟨members, hmembers, Record.ofMembers?_toJson hmembers⟩

namespace Task

/-- A task is read back from its record, whatever time the record has. -/
theorem ofRecord_dated (hfinite : t.progress.isFinite = true) (date : Option Int64) :
    ofRecord (t.toRecord.dated date) = .ok t :=
  (ofRecord_of_fields (Record.fields_dated t.toRecord date)).2
    ⟨hfinite, by rw [Record.id_dated, id_toRecord]⟩

/-- **What was read once is read again.** -/
theorem ofRecord_toRecord_of_ofRecord (hr : r.Canonical) (h : ofRecord r = .ok t) :
    ofRecord t.toRecord = .ok t :=
  (ofRecord_of_fields rfl).2 ⟨hr.isFinite h, by rw [id_toRecord]⟩

end Task

/-- **A task that was stored is read back**, under the identifier that it was given if it had
none. -/
theorem Store.ofRecord_of_put {s s' : Store} {now : Int64} {fresh table : String} {stored : Record}
    (hfinite : t.progress.isFinite = true)
    (h : s.put now fresh table t.toRecord = (.ok stored, s')) :
    stored.createdDate.isSome = true ∧
      Task.ofRecord stored = .ok { t with id := if t.id.isEmpty then fresh else t.id } := by
  obtain ⟨-, hstored, -⟩ := put_eq_ok_iff.1 h
  rw [hstored]
  refine ⟨createdDate_stamped _, (Task.ofRecord_of_fields ?_).2 ⟨hfinite, ?_⟩⟩
  · unfold stamped
    split <;> rfl
  · rw [stamped_id, Task.id_toRecord]

namespace Task

/-- How reading and writing go together. -/
structure CodecLaws : Prop where
  /-- A record is read back from its object. -/
  record : ∀ r : Record, Record.ofJson r.toJson = .ok r
  /-- An object that is read as a record comes back with an identifier, and without a time that is
  `null`. -/
  object : ∀ (members : List (String × Json)) (r : Record), Entries.Sorted members →
    Record.ofJson (.obj members) = .ok r → r.toJson = .obj (Record.completed members)
  /-- A task is read back from its record, whatever time the record has. -/
  task : ∀ (t : Task) (date : Option Int64), t.progress.isFinite = true →
    ofRecord (t.toRecord.dated date) = .ok t
  /-- A task is read back from the record that the store has made of its record. -/
  stored : ∀ (t : Task) (s s' : Store) (now : Int64) (fresh : String) (stored : Record),
    t.progress.isFinite = true → s.put now fresh table t.toRecord = (.ok stored, s') →
    stored.createdDate.isSome = true ∧
      ofRecord stored = .ok { t with id := if t.id.isEmpty then fresh else t.id }
  /-- The record of a task that was read is read as the same task. -/
  again : ∀ (r : Record) (t : Task), r.Canonical → ofRecord r = .ok t → ofRecord t.toRecord = .ok t

/-- **Reading undoes writing**, for records and for tasks. -/
theorem codecLaws : CodecLaws where
  record := Record.ofJson_toJson
  object _ _ hsorted h := Record.toJson_of_ofJson hsorted h
  task _ date hfinite := ofRecord_dated hfinite date
  stored _ _ _ _ _ _ hfinite h := Store.ofRecord_of_put hfinite h
  again _ _ hr h := ofRecord_toRecord_of_ofRecord hr h

/-- A task with every field set. -/
def fullTask : Task where
  id := "t"
  name := "build"
  description := some "all of it"
  status := .failed
  progress := .hundred
  currentStep := some "link"
  currentStepDescription := some ""
  createdAt := 1
  updatedAt := 4
  startedAt := some 2
  completedAt := some 3
  error := some "no space"
  metadata := some (.ofList [("b", .null), ("a", .arr [.obj [("x", .int 1)], .double .zero])])
  sessionKey := "a"
  userId := some "u"
  ipAddress := some "::1"

/-- The record of the task with a column more, and with a whole number as its progress. -/
def foreignRecord : Record :=
  (fullTask.toRecord.set "note" (.str "kept?")).set "progress" (.int 100)

theorem codecLaws_full :
    Record.ofJson (.obj [("createdDate", .null), ("name", .str "n")]) =
        .ok (Record.empty.set "name" (.str "n")) ∧
      (Record.empty.set "name" (.str "n")).toJson = .obj [("id", .str ""), ("name", .str "n")] ∧
      fullTask.progress.isFinite = true ∧
      ofRecord (fullTask.toRecord.dated (some 7)) = .ok fullTask ∧
      ofRecord foreignRecord = .ok fullTask ∧ foreignRecord ≠ fullTask.toRecord := by
  have hread : Record.ofJson (.obj [("createdDate", .null), ("name", .str "n")]) =
      .ok (Record.empty.set "name" (.str "n")) := by decide +kernel
  have hfinite : fullTask.progress.isFinite = true := by decide +kernel
  refine ⟨hread, ?_, hfinite, codecLaws.task fullTask (some 7) hfinite, by decide +kernel,
    by decide +kernel⟩
  exact codecLaws.object _ _ (by decide) hread

end Task

end SessionTasks
