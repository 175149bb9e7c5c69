/-
# The life of a task

A task is changed, cancelled and made pending again.  What it was created as stays; when it first
ran and when it was first completed is noted once, and only cleared when it is made pending again.

* `TaskWrite` : what is written to a task;
* `TaskWrite.createdAs_apply` : every write leaves what the task was created as;
* `TaskWrite.time?_apply_of_some`, `TaskWrite.time?_apply_of_none` : what becomes of the times that
  are noted once.
-/
import SessionTasks.Proofs.Task.Merging
namespace SessionTasks

/-- What is written to a task. -/
inductive TaskWrite where
  /-- A change is merged into the task. -/
  | update (u : TaskUpdate)
  /-- The task is cancelled, unless it is finished. -/
  | cancel
  /-- The task is made pending again, if it has failed or was cancelled. -/
  | retry

/-- A time of a task that is noted once. -/
inductive Milestone where
  /-- The task ran for the first time. -/
  | started
  /-- The task was completed for the first time. -/
  | completed

namespace Milestone

/-- The status that is written when the time is noted. -/
def status : Milestone → TaskStatus
  | .started => .running
  | .completed => .completed

/-- The time, if it was noted. -/
def time? : Milestone → Task → Option Int64
  | .started, t => t.startedAt
  | .completed, t => t.completedAt

end Milestone

/-- The time is noted when a change gives its status, if it was not noted before. -/
theorem TaskUpdate.time?_apply (u : TaskUpdate) (x : Milestone) (t : Task) (now : Int64) :
    x.time? (u.apply t now) =
      if u.status = some x.status then some ((x.time? t).getD now) else x.time? t := by
  cases x with
  | started => exact u.startedAt_apply t now
  | completed => exact u.completedAt_apply t now

namespace Task

/-- The tasks were created as the same task of the same session. -/
structure CreatedAs (first t : Task) : Prop where
  id : t.id = first.id
  name : t.name = first.name
  description : t.description = first.description
  createdAt : t.createdAt = first.createdAt
  sessionKey : t.sessionKey = first.sessionKey
  userId : t.userId = first.userId
  ipAddress : t.ipAddress = first.ipAddress

theorem CreatedAs.refl (t : Task) : t.CreatedAs t := ⟨rfl, rfl, rfl, rfl, rfl, rfl, rfl⟩

theorem CreatedAs.trans {a b c : Task} (h : a.CreatedAs b) (h' : b.CreatedAs c) : a.CreatedAs c :=
  ⟨h'.id.trans h.id, h'.name.trans h.name, h'.description.trans h.description,
    h'.createdAt.trans h.createdAt, h'.sessionKey.trans h.sessionKey, h'.userId.trans h.userId,
    h'.ipAddress.trans h.ipAddress⟩

theorem time?_cancel (x : Milestone) (t : Task) (now : Int64) :
    x.time? (t.cancel now) = x.time? t := by
  unfold cancel
  split
  · cases x <;> rfl
  · rfl

/-- A task that is made pending again has no such times. -/
theorem time?_retry (x : Milestone) (t : Task) (now : Int64) :
    x.time? (t.retry now) = if t.status.isRetryable then none else x.time? t := by
  unfold retry
  split
  · cases x <;> rfl
  · rfl

end Task

namespace TaskWrite

variable {w : TaskWrite} {t : Task} {now : Int64}

/-- The task after the write. -/
def apply : TaskWrite → Task → Int64 → Task
  | .update u, t, now => u.apply t now
  | .cancel, t, now => t.cancel now
  | .retry, t, now => t.retry now

theorem edit (w : TaskWrite) (now : Int64) : TaskEdit now fun t => w.apply t now := by
  cases w with
  | update u => exact .update u
  | cancel => exact .cancel
  | retry => exact .retry

/-- The write makes a task pending that has failed or was cancelled. -/
def Restarts (w : TaskWrite) (t : Task) : Prop := w = .retry ∧ t.status.isRetryable = true

/-- The write gives the task a status. -/
def Gives (w : TaskWrite) (status : TaskStatus) : Prop :=
  ∃ u, w = .update u ∧ u.status = some status

/-- **Every write leaves what the task was created as.** -/
theorem createdAs_apply (w : TaskWrite) (t : Task) (now : Int64) :
    t.CreatedAs (w.apply t now) := by
  cases w with
  | update u =>
    show t.CreatedAs (u.apply t now)
    rw [TaskUpdate.apply_eq]
    exact ⟨rfl, rfl, rfl, rfl, rfl, rfl, rfl⟩
  | cancel =>
    show t.CreatedAs (t.cancel now)
    unfold Task.cancel
    split <;> exact ⟨rfl, rfl, rfl, rfl, rfl, rfl, rfl⟩
  | retry =>
    show t.CreatedAs (t.retry now)
    unfold Task.retry
    split <;> exact ⟨rfl, rfl, rfl, rfl, rfl, rfl, rfl⟩

/-- A time that was noted stays, unless the write makes the task pending again. -/
theorem time?_apply_of_some {x : Milestone} {time : Int64} (h : x.time? t = some time)
    (w : TaskWrite) (now : Int64) : x.time? (w.apply t now) = some time ∨ w.Restarts t := by
  cases w with
  | update u =>
    refine Or.inl ((u.time?_apply x t now).trans ?_)
    rw [h]
    exact ite_self _
  | cancel => exact Or.inl ((t.time?_cancel x now).trans h)
  | retry =>
    by_cases hstatus : t.status.isRetryable = true
    · exact Or.inr ⟨rfl, hstatus⟩
    · refine Or.inl ((t.time?_retry x now).trans ?_)
      rw [if_neg hstatus]
      exact h

/-- A time that was not noted is noted exactly when the write gives its status. -/
theorem time?_apply_of_none {x : Milestone} (h : x.time? t = none) (w : TaskWrite) (now : Int64)
    {time : Int64} : x.time? (w.apply t now) = some time ↔ time = now ∧ w.Gives x.status := by
  have hnone : ∀ w : TaskWrite, x.time? (w.apply t now) = none → ¬ w.Gives x.status →
      (x.time? (w.apply t now) = some time ↔ time = now ∧ w.Gives x.status) := by
    intro w hw hgives
    rw [hw]
    constructor
    · intro hsome
      cases hsome
    · exact fun hsome => absurd hsome.2 hgives
  cases w with
  | update u =>
    have hupdate := u.time?_apply x t now
    rw [h, Option.getD_none] at hupdate
    by_cases hu : u.status = some x.status
    · rw [if_pos hu] at hupdate
      show x.time? (u.apply t now) = some time ↔ _
      rw [hupdate, Option.some.injEq]
      exact ⟨fun heq => ⟨heq.symm, u, rfl, hu⟩, fun hsome => hsome.1.symm⟩
    · rw [if_neg hu] at hupdate
      refine hnone (.update u) hupdate ?_
      rintro ⟨_, ⟨⟩, hgives⟩
      exact hu hgives
  | cancel =>
    refine hnone .cancel ((t.time?_cancel x now).trans h) ?_
    rintro ⟨_, ⟨⟩, -⟩
  | retry =>
    refine hnone .retry ((t.time?_retry x now).trans ?_) ?_
    · rw [h]
      exact ite_self _
    · rintro ⟨_, ⟨⟩, -⟩

end TaskWrite

end SessionTasks
