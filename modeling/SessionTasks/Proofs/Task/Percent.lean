/-
# Progress is a percentage

* `Binary64.isPercent_clampPercent`, `Binary64.clampPercent_of_isPercent` : every value is clamped
  to a percentage, and a percentage to itself;
* `TaskEdit.isPercent` : changes to tasks keep a percentage;
* `Record.kept_percent` : so the rows of tasks do.
-/
import SessionTasks.Proofs.Task.Listing
namespace SessionTasks

namespace Binary64

variable {x y : Binary64}

theorem lt_eq_false_iff (hx : x.isNaN = false) (hy : y.isNaN = false) :
    x.lt y = false ↔ y.scaled ≤ x.scaled := by
  simp [lt, hx, hy]

theorem isPercent_zero : zero.IsPercent :=
  ⟨by decide +kernel, by decide +kernel, by decide +kernel⟩

theorem isPercent_hundred : hundred.IsPercent :=
  ⟨by decide +kernel, by decide +kernel, by decide +kernel⟩

/-- A number is a percentage if it is neither below zero nor above one hundred. -/
theorem isPercent_iff : x.IsPercent ↔
    x.isNaN = false ∧ x.lt zero = false ∧ hundred.lt x = false := by
  refine and_congr_right fun hx => ?_
  rw [lt_eq_false_iff hx isPercent_zero.1, lt_eq_false_iff isPercent_hundred.1 hx]

theorem IsPercent.isFinite (h : x.IsPercent) : x.isFinite = true := by
  obtain ⟨hnan, hlow, hhigh⟩ := isPercent_iff.1 h
  exact isFinite_of_le hnan hlow hhigh

/-- **Every value is clamped to a percentage**, infinities and what is not a number among them. -/
theorem isPercent_clampPercent (x : Binary64) : x.clampPercent.IsPercent := by
  unfold clampPercent
  split
  · exact isPercent_zero
  · rename_i hnan
    split
    · exact isPercent_zero
    · rename_i hlow
      split
      · exact isPercent_hundred
      · rename_i hhigh
        exact isPercent_iff.2 ⟨Bool.eq_false_of_not_eq_true hnan,
          Bool.eq_false_of_not_eq_true hlow, Bool.eq_false_of_not_eq_true hhigh⟩

/-- **A percentage is clamped to itself**, to the very bits. -/
theorem clampPercent_of_isPercent (h : x.IsPercent) : x.clampPercent = x := by
  obtain ⟨hnan, hlow, hhigh⟩ := isPercent_iff.1 h
  unfold clampPercent
  rw [hnan, hlow, hhigh]
  rfl

end Binary64

/-- A change to a task keeps a percentage. -/
theorem TaskEdit.isPercent {now : Int64} {f : Task → Task} (hf : TaskEdit now f) {t : Task}
    (ht : t.progress.IsPercent) : (f t).progress.IsPercent := by
  cases hf with
  | update u =>
    show (u.apply t now).progress.IsPercent
    rw [TaskUpdate.progress_apply]
    cases u.progress with
    | none => exact ht
    | some progress => exact progress.isPercent_clampPercent
  | cancel =>
    show (t.cancel now).progress.IsPercent
    unfold Task.cancel
    split <;> exact ht
  | retry =>
    show (t.retry now).progress.IsPercent
    unfold Task.retry
    split
    · exact Binary64.isPercent_zero
    · exact ht

/-- The record is read as a task whose progress is a finite number from 0 to 100. -/
def Record.Graded (r : Record) : Prop :=
  ∃ t, Task.ofRecord r = .ok t ∧ t.progress.isFinite = true ∧ t.progress.IsPercent

theorem Record.Writes.graded {r : Record} (h : r.Writes fun t => t.progress.IsPercent) :
    r.Graded := by
  obtain ⟨t, ht, -, hpercent⟩ := h
  exact ⟨t, ht, hpercent.isFinite, hpercent⟩

/-- **Rows of tasks keep percentages.** -/
theorem Record.kept_percent (now : Int64) :
    Record.Kept now (Record.Writes fun t => t.progress.IsPercent) :=
  kept_writes (fun _ _ _ => Binary64.isPercent_zero) fun _ _ hf ht => hf.isPercent ht

end SessionTasks
