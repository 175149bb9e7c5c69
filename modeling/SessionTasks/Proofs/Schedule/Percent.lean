/-
# Stored progress is a percentage

Whatever progress callers and runs give, what is stored is a finite number from 0 to 100: one that
is below, above or no number at all could not be read back.  What is given in this range is stored
as it is.

* `Schedule.grades_of_ofConfig` : the progress of the tasks in every schedule of a fresh server.
-/
import SessionTasks.Proofs.Schedule.Overwriting
import SessionTasks.Proofs.Schedule.WellFormed
import SessionTasks.Proofs.Task.Percent
namespace SessionTasks

/-- The task is found in the store, with a progress that was given: the value itself, if it was a
percentage, and otherwise the nearest one. -/
def Server.StoresProgress (s : Server) (id : StoreId) (key : TaskKey) (given : Binary64) : Prop :=
  ∃ t, (s.store id).task key.session key.task = .ok t ∧ t.progress = given.clampPercent ∧
    (given.IsPercent → t.progress = given)

theorem Server.storesProgress_of_task {s : Server} {id : StoreId} {key : TaskKey} {u : TaskUpdate}
    {given : Binary64} {t : Task} (now : Int64) (hu : u.progress = some given)
    (ht : (s.store id).task key.session key.task = .ok (u.apply t now)) :
    s.StoresProgress id key given := by
  have hprogress : (u.apply t now).progress = given.clampPercent := by
    rw [TaskUpdate.progress_apply, hu]
    rfl
  refine ⟨_, ht, hprogress, fun hpercent => ?_⟩
  rw [hprogress, Binary64.clampPercent_of_isPercent hpercent]

namespace Schedule

variable {s : Schedule} {id : StoreId} {key : TaskKey} {t : Task} {given : Binary64}

theorem made_of_task (ht : (s.server.store id).task key.session key.task = .ok t) :
    id < s.server.stores.length :=
  made_of_statusAt (statusAt_eq_some_iff.2 ⟨t, ht, rfl⟩)

/-- An update of a caller stores the progress that it gives. -/
theorem storesProgress_updateTask (ht : (s.server.store id).task key.session key.task = .ok t)
    (hfinite : t.progress.isFinite = true) {u : TaskUpdate} (hu : u.progress = some given) :
    (s.move (.operate (.useStore id
      (.updateTask key.session key.task u)))).server.StoresProgress id key given := by
  refine Server.storesProgress_of_task (t := t) s.server.clock hu ?_
  have hstore : (s.move (.operate (.useStore id
      (.updateTask key.session key.task u)))).server.store id =
        ((s.server.store id).modifyTask key.session key.task
          fun t => u.apply t s.server.clock).2 := by
    refine (Server.store_setStore s.server id id _).trans ?_
    rw [if_pos ⟨rfl, made_of_task ht⟩]
    rfl
  rw [hstore]
  exact Store.task_modifyTask_self (u.preserves_apply _) ht (u.isFinite_apply hfinite _)

/-- A report of a run that was not cancelled stores the progress that it gives. -/
theorem storesProgress_report {n : RunId} {r : RunState} (hr : s.runs[n]? = some r)
    (hwork : r.task.isSome = true) (hlive : n ∉ s.server.ledger.cancelled)
    (hleads : (s.server.lookup r.key.session).1.store = id)
    (ht : (s.server.store id).task r.key.session r.key.task = .ok t)
    (hfinite : t.progress.isFinite = true) (step description : Option String) :
    (s.move (.step n (.report given step description))).server.StoresProgress id r.key given := by
  have hserver : (s.move (.step n (.report given step description))).server =
      (s.server.writeUpdate r.key (Server.reportUpdate given step description)).2 := by
    rw [move_step hr]
    show (if r.task.isSome then _ else _ : Server × RunState).1 = _
    rw [if_pos hwork]
    show s.server.report r.key n given step description = _
    unfold Server.report
    rw [if_neg (by rwa [RunLedger.isCancelled_iff])]
    rfl
  rw [hserver]
  exact Server.storesProgress_of_task (u := Server.reportUpdate given step description) _ rfl
    (Server.task_writeUpdate_self (made_of_task ht) hleads ht hfinite)

/-- What is stored of the progress of tasks. -/
structure Grades (s : Schedule) : Prop where
  /-- Every row is read as a task whose progress is a finite number from 0 to 100. -/
  row : ∀ id name r, (s.server.store id).tables.find? Task.table name = some r → r.Graded
  /-- What an update gives is stored. -/
  update : ∀ (id : StoreId) (key : TaskKey) (t : Task) (u : TaskUpdate) (given : Binary64),
    (s.server.store id).task key.session key.task = .ok t → u.progress = some given →
      (s.move (.operate (.useStore id
        (.updateTask key.session key.task u)))).server.StoresProgress id key given
  /-- What a run reports that is at work and was not cancelled is stored. -/
  report : ∀ (n : RunId) (r : RunState) (t : Task) (given : Binary64)
    (step description : Option String), s.runs[n]? = some r → r.task.isSome = true →
      n ∉ s.server.ledger.cancelled →
      (s.server.store (s.server.lookup r.key.session).1.store).task r.key.session r.key.task =
        .ok t →
      (s.move (.step n (.report given step description))).server.StoresProgress
        (s.server.lookup r.key.session).1.store r.key given

/-- **Stored progress is always a percentage.**  Whatever callers and runs give, every row of the
table of tasks is read as a task with a progress from 0 to 100, and what is given in this range is
stored as it is. -/
theorem grades_of_ofConfig {c : Config} {epoch issued : Nat} {files : FileTree} {server : Server}
    (hs : Server.ofConfig c epoch files issued = .ok server) {moves : List Move}
    (hmoves : ¬ (ofServer server).Happens Tampers moves) :
    ((ofServer server).play moves).Grades := by
  have hrows := taskRows_play Record.kept_percent hmoves (taskRows_of_ofConfig hs)
  generalize (ofServer server).play moves = s at hrows
  have hfinite : ∀ {id : StoreId} {key : TaskKey} {t : Task},
      (s.server.store id).task key.session key.task = .ok t →
      t.progress.isFinite = true := by
    intro id key t ht
    obtain ⟨-, r, hr, hread, -⟩ := Store.task_eq_ok_iff.1 ht
    obtain ⟨t', ht', hpercent, -⟩ := (hrows id _ r hr).graded
    rw [hread] at ht'
    cases ht'
    exact hpercent
  refine ⟨fun id name r hr => (hrows id name r hr).graded, ?_, ?_⟩
  · intro id key t u given ht hu
    exact storesProgress_updateTask ht (hfinite ht) hu
  · intro n r t given step description hr hwork hlive ht
    exact storesProgress_report hr hwork hlive rfl ht (hfinite ht) step description

/-- The task of the first run is given progress that is no percentage. -/
def sampleGrades : List Move :=
  sampleLife ++ [Binary64.negInfinity, .nan, .infinity].map fun given =>
    .operate (.useStore 0 (.updateTask (.sanitize "a") (identifier 1) { progress := some given }))

theorem not_tampers_sampleGrades : ¬ (ofServer sampleServer).Happens Tampers sampleGrades := by
  unfold sampleGrades
  rw [happens_append, not_or]
  refine ⟨not_tampers_sampleLife, ?_⟩
  have hupdate : ∀ t id session name u,
      ¬ Tampers t (.operate (.useStore id (.updateTask session name u))) := by
    intro t id session name u h
    cases h with
    | read ho =>
      obtain ⟨id, -, -, hread, -⟩ := ho
      cases hread
  simp [Happens, hupdate]

/-- What was given last is stored as one hundred. -/
theorem grades_of_ofConfig_infinite :
    Server.ofConfig {} 0 .empty 0 = .ok sampleServer ∧
      ¬ (ofServer sampleServer).Happens Tampers sampleGrades ∧
      ((((ofServer sampleServer).play sampleGrades).server.store 0).task (.sanitize "a")
        (identifier 1)).toOption.map Task.progress = some .hundred ∧
      ((ofServer sampleServer).play sampleGrades).Grades :=
  ⟨ofConfig_sampleServer, not_tampers_sampleGrades, by decide +kernel,
    grades_of_ofConfig ofConfig_sampleServer not_tampers_sampleGrades⟩

end Schedule

end SessionTasks
