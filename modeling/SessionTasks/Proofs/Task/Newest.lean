/-
# The newest finished tasks

Of the finished tasks of a session those are kept that were finished last.  Completed tasks are
ranked by the time of completion and then of the last change, failed ones by the last change; of
tasks of one rank the older ones are kept.

* `rank_le_of_ranked`, `age_lt_of_ranked` : how the first members of a list, ranked by a stable
  sort, compare with the others;
* `Store.KeepsNewest` : which tasks of one status are kept;
* `Store.newest_kept` : what trimming keeps, what it drops, and what it leaves alone.
-/
import SessionTasks.Proofs.Task.Retention
namespace SessionTasks

/-! ## The first ones by rank -/

section Ranked

variable {α β γ : Type} [LinearOrder β] [Preorder γ] {rank : α → β} {age : α → γ} {listed : List α}
  {n : Nat} {kept gone : α}

/-- The rank of `a` is not below that of `b`. -/
def outranks (rank : α → β) (a b : α) : Bool := decide (rank b ≤ rank a)

theorem outranks_trans (rank : α → β) (a b c : α) (hab : outranks rank a b = true)
    (hbc : outranks rank b c = true) : outranks rank a c = true :=
  decide_eq_true ((of_decide_eq_true hbc).trans (of_decide_eq_true hab))

theorem outranks_total (rank : α → β) (a b : α) :
    (outranks rank a b || outranks rank b a) = true := by
  unfold outranks
  rw [Bool.or_eq_true, decide_eq_true_iff, decide_eq_true_iff]
  exact le_total (rank b) (rank a)

/-- The members of a list, those of the highest ranks first. -/
def ranked (rank : α → β) (listed : List α) : List α := listed.mergeSort (outranks rank)

/-- Of two members of a list one stands before the other. -/
theorem pair_sublist_or {a b : α} (ha : a ∈ listed) (hb : b ∈ listed) (hne : a ≠ b) :
    [a, b].Sublist listed ∨ [b, a].Sublist listed := by
  induction listed with
  | nil => cases ha
  | cons x rest ih =>
    rcases List.mem_cons.1 ha with rfl | ha'
    · have hb' := (List.mem_cons.1 hb).resolve_left (Ne.symm hne)
      exact Or.inl (List.cons_sublist_cons.2 (List.singleton_sublist.2 hb'))
    · rcases List.mem_cons.1 hb with rfl | hb'
      · exact Or.inr (List.cons_sublist_cons.2 (List.singleton_sublist.2 ha'))
      · exact (ih ha' hb').imp (·.cons x) (·.cons x)

/-- Among the first members there is none that stands behind another one. -/
theorem not_sublist_of_take_drop (h : listed.Nodup) (hkept : kept ∈ listed.take n)
    (hgone : gone ∈ listed.drop n) : ¬ [gone, kept].Sublist listed := by
  intro hsub
  have hdisjoint := List.disjoint_take_drop h (Nat.le_refl n)
  rw [← List.take_append_drop n listed, List.sublist_append_iff] at hsub
  obtain ⟨front, back, hsplit, hfront, hback⟩ := hsub
  cases front with
  | nil =>
    rw [List.nil_append] at hsplit
    exact hdisjoint hkept (hback.subset (hsplit ▸ List.mem_cons_of_mem gone List.mem_cons_self))
  | cons x rest =>
    rw [List.cons_append, List.cons.injEq] at hsplit
    exact hdisjoint (hfront.subset (hsplit.1 ▸ List.mem_cons_self)) hgone

/-- The first members have the highest ranks. -/
theorem rank_le_of_ranked (hkept : kept ∈ (ranked rank listed).take n)
    (hgone : gone ∈ (ranked rank listed).drop n) : rank gone ≤ rank kept := by
  have hsorted := List.pairwise_mergeSort (outranks_trans rank) (outranks_total rank) listed
  change (ranked rank listed).Pairwise _ at hsorted
  rw [← List.take_append_drop n (ranked rank listed), List.pairwise_append] at hsorted
  exact of_decide_eq_true (hsorted.2.2 kept hkept gone hgone)

/-- Of the members of one rank, the first ones are the oldest, where the list goes by age. -/
theorem age_lt_of_ranked (h : listed.Pairwise fun a b => age a < age b)
    (hkept : kept ∈ (ranked rank listed).take n) (hgone : gone ∈ (ranked rank listed).drop n)
    (hrank : rank gone = rank kept) : age kept < age gone := by
  have hlisted : listed.Nodup := h.imp fun hlt heq => (heq ▸ hlt).ne rfl
  have hnodup : (ranked rank listed).Nodup := (listed.mergeSort_perm _).nodup_iff.2 hlisted
  have hmem : ∀ a, a ∈ ranked rank listed → a ∈ listed := fun a => List.mem_mergeSort.1
  have hne : kept ≠ gone := by
    rintro rfl
    exact List.disjoint_take_drop hnodup (Nat.le_refl n) hkept hgone
  rcases pair_sublist_or (hmem kept (List.mem_of_mem_take hkept))
    (hmem gone (List.mem_of_mem_drop hgone)) hne with hbefore | hbehind
  · exact List.pairwise_iff_forall_sublist.1 h hbefore
  · -- the sort is stable, so the one that is left out would stand before the one that is kept
    have hstable := List.pair_sublist_mergeSort (outranks_trans rank) (outranks_total rank)
      (decide_eq_true hrank.ge) hbehind
    exact absurd hstable (not_sublist_of_take_drop hnodup hkept hgone)

end Ranked

/-! ## Ranks -/

namespace Task

/-- When a task was created, and its identifier: by these an older task comes before a younger
one. -/
def age (t : Task) : ℤ ×ₗ String := toLex (t.createdAt.toInt, t.id)

/-- When a task was completed and when it last changed.  A task without a time of completion has a
lower rank than any other. -/
def completionRank (t : Task) : WithBot ℤ ×ₗ ℤ :=
  toLex (t.completedAt.elim ⊥ fun time => (time.toInt : WithBot ℤ), t.updatedAt.toInt)

/-- When a task last changed. -/
def changeRank (t : Task) : ℤ := t.updatedAt.toInt

end Task

namespace Store

/-- Tasks are listed by their ages. -/
theorem isOlder_eq_true_iff {a b : Task} : isOlder a b = true ↔ a.age ≤ b.age := by
  unfold isOlder Task.age
  rw [Prod.Lex.toLex_le_toLex, Bool.or_eq_true, Bool.and_eq_true, decide_eq_true_iff,
    decide_eq_true_iff, decide_eq_true_iff, Int64.lt_iff_toInt_lt, Int64.toInt_inj]

theorem pairwise_mergeSort_isOlder (tasks : List Task) :
    (tasks.mergeSort isOlder).Pairwise fun a b => a.age ≤ b.age := by
  have hsorted : (tasks.mergeSort isOlder).Pairwise fun a b => isOlder a b = true := by
    refine List.pairwise_mergeSort ?_ ?_ tasks
    · intro a b c hab hbc
      rw [isOlder_eq_true_iff] at hab hbc ⊢
      exact hab.trans hbc
    · intro a b
      rw [Bool.or_eq_true, isOlder_eq_true_iff, isOlder_eq_true_iff]
      exact le_total a.age b.age
  exact hsorted.imp isOlder_eq_true_iff.1

/-- Completed tasks are kept by their ranks. -/
theorem keptBefore_eq : keptBefore = outranks Task.completionRank := by
  funext a b
  unfold outranks
  rw [Bool.eq_iff_iff, decide_eq_true_iff]
  unfold keptBefore Task.completionRank
  rw [Prod.Lex.toLex_le_toLex]
  cases ha : a.completedAt with
  | none =>
    cases hb : b.completedAt with
    | none => simp [Int64.le_iff_toInt_le]
    | some y => simp [isLater]
  | some x =>
    cases hb : b.completedAt with
    | none => simp [isLater]
    | some y =>
      by_cases hxy : x = y
      · simp [hxy, Int64.le_iff_toInt_le]
      · have hne : y.toInt ≠ x.toInt := fun h => hxy (Int64.toInt_inj.1 h).symm
        have hlt : y.toInt ≤ x.toInt ↔ y.toInt < x.toInt :=
          ⟨fun h => lt_of_le_of_ne h hne, le_of_lt⟩
        simp [hxy, isLater, Int64.le_iff_toInt_le, hlt, hne]

/-- Failed tasks are kept by the time of their last change. -/
theorem changedLater_eq :
    (fun a b : Task => decide (b.updatedAt ≤ a.updatedAt)) = outranks Task.changeRank := by
  funext a b
  unfold outranks Task.changeRank
  rw [decide_eq_decide, Int64.le_iff_toInt_le]

/-! ## What is kept -/

/-- Of the tasks of one status as many are left as may be, those of the highest ranks, and of one
rank the oldest. -/
structure KeepsNewest {β : Type} [LinearOrder β] (status : TaskStatus) (rank : Task → β)
    (limit : Nat) (before after : List Task) : Prop where
  count : after.countP (·.status = status) = min (before.countP (·.status = status)) limit
  newest : ∀ kept ∈ after, ∀ gone ∈ before, gone ∉ after → kept.status = status →
    gone.status = status → rank gone ≤ rank kept
  ties : ∀ kept ∈ after, ∀ gone ∈ before, gone ∉ after → kept.status = status →
    gone.status = status → rank gone = rank kept → kept.age < gone.age

variable {s s' : Store} {session : SessionKey} {limits : RetentionLimits} {n : Nat}

/-- Tasks of different identifiers are of different ages. -/
theorem pairwise_age_lt_of_nodup {tasks : List Task} (h : (tasks.map Task.id).Nodup) :
    (tasks.mergeSort isOlder).Pairwise fun a b => a.age < b.age := by
  have hids : ((tasks.mergeSort isOlder).map Task.id).Nodup :=
    ((tasks.mergeSort_perm isOlder).map Task.id).nodup_iff.2 h
  refine ((List.pairwise_map.1 hids).and (pairwise_mergeSort_isOlder tasks)).imp ?_
  rintro a b ⟨hid, hle⟩
  refine lt_of_le_of_ne hle fun heq => hid ?_
  exact congrArg (fun age => (ofLex age).2) heq

/-- No two tasks of a session are of one age. -/
theorem pairwise_age_lt (h : s.Filed) (session : SessionKey) :
    ((s.ownTasks session).mergeSort isOlder).Pairwise fun a b => a.age < b.age :=
  pairwise_age_lt_of_nodup (nodup_ownTasks h session)

/-- Of the tasks of one status the newest ones are left, if those are dropped that come after the
first ones by their ranks. -/
theorem keepsNewest_dropTasks {β : Type} [LinearOrder β] (h : s.Filed) {status : TaskStatus}
    {rank : Task → β} {limit : Nat} {gone : List Task}
    (hgone : ∀ t ∈ (s.ownTasks session).mergeSort isOlder, t.status = status →
      (t.id ∈ gone.map Task.id ↔
        t ∈ (ranked rank (((s.ownTasks session).mergeSort isOlder).filter
          (·.status = status))).drop limit)) :
    KeepsNewest status rank limit (s.ownTasks session)
      ((s.dropTasks gone).ownTasks session) := by
  have hages := (pairwise_age_lt h session).filter (·.status = status)
  have hafter := ownTasks_dropTasks h session gone
  -- a task that is left is among the first ones, and one that is not is behind them
  have htake : ∀ t ∈ (s.dropTasks gone).ownTasks session, t.status = status →
      t ∈ (ranked rank (((s.ownTasks session).mergeSort isOlder).filter
        (·.status = status))).take limit := by
    intro t ht hstatus
    rw [hafter, List.mem_filter, decide_eq_true_iff] at ht
    have hlisted : t ∈ (s.ownTasks session).mergeSort isOlder := List.mem_mergeSort.2 ht.1
    have hranked : t ∈ ranked rank (((s.ownTasks session).mergeSort isOlder).filter
        (·.status = status)) :=
      List.mem_mergeSort.2 (List.mem_filter.2 ⟨hlisted, decide_eq_true hstatus⟩)
    rw [← List.take_append_drop limit (ranked rank _), List.mem_append] at hranked
    exact hranked.resolve_right fun hdrop => ht.2 ((hgone t hlisted hstatus).2 hdrop)
  have hdrop : ∀ t ∈ s.ownTasks session, t ∉ (s.dropTasks gone).ownTasks session →
      t.status = status → t ∈ (ranked rank (((s.ownTasks session).mergeSort isOlder).filter
        (·.status = status))).drop limit := by
    intro t ht hnot hstatus
    refine (hgone t (List.mem_mergeSort.2 ht) hstatus).1 (by_contra fun hkept => hnot ?_)
    rw [hafter]
    exact List.mem_filter.2 ⟨ht, decide_eq_true hkept⟩
  constructor
  · rw [countP_dropTasks h hgone, Nat.min_comm]
  · intro kept hkept other hother hnot hstatus hstatus'
    exact rank_le_of_ranked (htake kept hkept hstatus) (hdrop other hother hnot hstatus')
  · intro kept hkept other hother hnot hstatus hstatus' hrank
    exact age_lt_of_ranked hages (htake kept hkept hstatus) (hdrop other hother hnot hstatus') hrank

/-- What trimming a session makes of the store `s`, where it counts `n` tasks. -/
structure NewestKept (session : SessionKey) (limits : RetentionLimits) (s : Store) (n : Nat)
    (s' : Store) : Prop where
  /-- The completed tasks that were finished last are left. -/
  completed : KeepsNewest .completed Task.completionRank limits.maxCompletedTasks.toNat
    (s.ownTasks session) (s'.ownTasks session)
  /-- The failed tasks that changed last are left. -/
  failed : KeepsNewest .failed Task.changeRank limits.maxFailedTasks.toNat (s.ownTasks session)
    (s'.ownTasks session)
  /-- A row is as it was, or it is gone and held a finished task of the session. -/
  rows : ∀ id, s'.taskRows.get? id = s.taskRows.get? id ∨ s'.taskRows.get? id = none ∧
    ∃ t ∈ s.ownTasks session, t.id = id ∧ (t.status = .completed ∨ t.status = .failed)
  /-- Other tables are as they were. -/
  tables : ∀ name, name ≠ Task.table → s'.tables.get? name = s.tables.get? name
  settings : s'.settings = s.settings
  poisoned : s'.poisoned = s.poisoned
  /-- As many rows are gone as were counted. -/
  counted : s'.taskRows.size + n = s.taskRows.size
  /-- Trimmed once more, the store stays as it is. -/
  again : s'.trimTasks session limits = (.ok 0, s')

/-- A session that has no more finished tasks than may be has no surplus. -/
theorem surplus_eq_nil {tasks : List Task}
    (hcompleted : tasks.countP (·.status = .completed) ≤ limits.maxCompletedTasks.toNat)
    (hfailed : tasks.countP (·.status = .failed) ≤ limits.maxFailedTasks.toNat) :
    surplus limits tasks = [] := by
  unfold surplus
  rw [List.append_eq_nil_iff, List.drop_eq_nil_iff, List.drop_eq_nil_iff, List.length_mergeSort,
    List.length_mergeSort, ← List.countP_eq_length_filter, ← List.countP_eq_length_filter]
  exact ⟨hcompleted, hfailed⟩

/-- **Trimming keeps the newest finished tasks.**  Whenever it succeeds, the completed tasks that
were finished last are left, and the failed ones that changed last; nothing else is gone but the
other finished tasks of the session, and these are counted. -/
theorem newest_kept (hs : s.Reached) (h : s.trimTasks session limits = (.ok n, s')) :
    s.NewestKept session limits n s' := by
  have hfiled := filed_of_reachedBy hs
  have hnodup := nodup_listed hfiled session
  have hpoisoned : s.poisoned = false := by
    rw [trimTasks_eq hfiled] at h
    cases hp : s.poisoned with
    | true =>
      rw [hp] at h
      cases h
    | false => rfl
  have hafter : s' = s.dropTasks (s.surplusTasks session limits) := by
    rw [trimTasks_eq hfiled, if_neg (by rw [hpoisoned]; exact Bool.false_ne_true)] at h
    exact (congrArg Prod.snd h).symm
  have htrimmed := trimmed_trimTasks hfiled hpoisoned session limits
  have hsize := size_trimTasks hfiled session limits
  rw [h] at htrimmed hsize
  -- both kinds of finished tasks lose their surplus, each by its own rank
  have hcompleted : KeepsNewest .completed Task.completionRank limits.maxCompletedTasks.toNat
      (s.ownTasks session) (s'.ownTasks session) := by
    rw [hafter]
    refine keepsNewest_dropTasks hfiled fun t ht hstatus => ?_
    unfold ranked
    rw [← keptBefore_eq]
    exact id_mem_surplus_of_completed hnodup ht hstatus
  have hfailed : KeepsNewest .failed Task.changeRank limits.maxFailedTasks.toNat
      (s.ownTasks session) (s'.ownTasks session) := by
    rw [hafter]
    refine keepsNewest_dropTasks hfiled fun t ht hstatus => ?_
    unfold ranked
    rw [← changedLater_eq]
    exact id_mem_surplus_of_failed hnodup ht hstatus
  refine ⟨hcompleted, hfailed, fun id => ?_, htrimmed.tables, htrimmed.settings, htrimmed.poisoned,
    hsize, ?_⟩
  · rw [htrimmed.rows id]
    split
    · rename_i hmem
      obtain ⟨t, ht, hid⟩ := List.mem_map.1 hmem
      refine Or.inr ⟨rfl, t, List.mem_mergeSort.1 (mem_of_mem_surplus ht), hid, ?_⟩
      exact (mem_surplus_iff.1 ht).imp status_of_mem_drop status_of_mem_drop
    · exact Or.inl rfl
  · have hfiled' : s'.Filed := hafter ▸ hfiled.dropTasks _
    -- what is left is within the limits, so that a second trim finds nothing
    have hnone : s'.surplusTasks session limits = [] := by
      refine surplus_eq_nil ?_ ?_
      · rw [(List.mergeSort_perm _ _).countP_eq, hcompleted.count]
        exact Nat.min_le_right _ _
      · rw [(List.mergeSort_perm _ _).countP_eq, hfailed.count]
        exact Nat.min_le_right _ _
    rw [trimTasks_eq hfiled', htrimmed.poisoned, hpoisoned, hnone]
    rfl

/-- A task that was completed at the time 5. -/
def completedTask (id : String) : Task :=
  { TaskDraft.start { name := "t" } id (.sanitize "a") 0 with
    status := .completed, completedAt := some 5, updatedAt := 5 }

/-- A store with two tasks that were completed at one time. -/
def tiedStore : Store :=
  [StoreCall.put 0 1 Task.table (completedTask "t2").toRecord,
    .put 0 2 Task.table (completedTask "t1").toRecord].foldl call {}

/-- One of them is beyond the limit. -/
theorem surplusTasks_tiedStore :
    tiedStore.surplusTasks (.sanitize "a") ⟨1, 0⟩ = [completedTask "t2"] := by
  have hown : tiedStore.ownTasks (.sanitize "a") = [completedTask "t1", completedTask "t2"] := by
    decide +kernel
  have hcompleted : [completedTask "t1", completedTask "t2"].filter (·.status = .completed) =
      [completedTask "t1", completedTask "t2"] := by decide +kernel
  have hfailed : [completedTask "t1", completedTask "t2"].filter (·.status = .failed) = [] := by
    decide +kernel
  have hlisted : [completedTask "t1", completedTask "t2"].mergeSort isOlder =
      [completedTask "t1", completedTask "t2"] := List.mergeSort_of_pairwise (by decide +kernel)
  have hranked : [completedTask "t1", completedTask "t2"].mergeSort keptBefore =
      [completedTask "t1", completedTask "t2"] := List.mergeSort_of_pairwise (by decide +kernel)
  unfold surplusTasks surplus
  rw [hown, hlisted, hcompleted, hfailed, hranked, List.mergeSort_nil]
  rfl

theorem newest_kept_tied :
    tiedStore.Reached ∧
      tiedStore.trimTasks (.sanitize "a") ⟨1, 0⟩ =
        (.ok 1, tiedStore.dropTasks [completedTask "t2"]) ∧
      tiedStore.NewestKept (.sanitize "a") ⟨1, 0⟩ 1 (tiedStore.dropTasks [completedTask "t2"]) := by
  have hreached : tiedStore.Reached := ⟨{}, _, fun _ _ => trivial, rfl⟩
  have htrim : tiedStore.trimTasks (.sanitize "a") ⟨1, 0⟩ =
      (.ok 1, tiedStore.dropTasks [completedTask "t2"]) := by
    rw [trimTasks_eq (filed_of_reachedBy hreached), surplusTasks_tiedStore]
    rfl
  exact ⟨hreached, htrim, newest_kept hreached htrim⟩

end Store

end SessionTasks
