/-
# Runs that one session cannot tell apart

In servers that are twins for a session, a run of this session goes on alike in both, and a run of
another session goes on in one of them without being noticed.

* `RunState.step_left`, `RunState.step_twin` : one step of a run of another session, or of the
  session;
* `Server.Twin.cancelAll` : every run is cancelled.
-/
import SessionTasks.Proofs.Sessions.Twins
namespace SessionTasks

variable {A : SessionKey} {keys own own' asked asked' : List SessionKey}

namespace RunLedger

variable {l l' : RunLedger} {key : TaskKey} {n n' : RunId}

/-! ## Owners of runs -/

/-- The run that holds a task is owned by the session of the task. -/
theorem Owned.owner_of_holder? (h : l.Owned asked) (hn : l.holder? key = some n) :
    asked[n]? = some key.session :=
  h.holder _ (mem_of_holder? hn)

/-- No task is held twice. -/
theorem Owned.nodup_keys (h : l.Owned asked) : l.keys.Nodup :=
  (List.mergeSort_perm _ _).nodup_iff.2 h.single

/-- A run of the session of a free task may take it. -/
theorem Owned.accept (h : l.Owned asked) (hfree : l.holder? key = none)
    (hn : asked[n]? = some key.session) :
    RunLedger.Owned asked { l with holders := (key, n) :: l.holders } where
  single := by
    refine List.nodup_cons.2 ⟨fun hmem => ?_, h.single⟩
    obtain ⟨e, he, heq⟩ := List.mem_map.1 hmem
    have hne := List.lookup_eq_none_iff.1 hfree e he
    simp [heq] at hne
  holder := by
    intro e he
    rcases List.mem_cons.1 he with rfl | he
    · exact hn
    · exact h.holder e he
  cancelled := h.cancelled

/-- A task that is let go leaves the others with their runs. -/
theorem Owned.drop (h : l.Owned asked) (key : TaskKey) : (l.drop key).Owned asked where
  single := h.single.sublist (List.filter_sublist.map Prod.fst)
  holder := fun e he => h.holder e (List.mem_of_mem_filter he)
  cancelled := h.cancelled

/-- A run that releases its task leaves the others with their runs. -/
theorem Owned.release (h : l.Owned asked) (key : TaskKey) (n : RunId) :
    (l.release key n).Owned asked := by
  unfold RunLedger.release
  split
  · exact h.drop key
  · exact h

/-- A run that is cancelled is one that was asked for. -/
theorem Owned.cancel (h : l.Owned asked) (hn : l.holder? key = some n) :
    RunLedger.Owned asked { l.drop key with cancelled := n :: l.cancelled } where
  single := (h.drop key).single
  holder := (h.drop key).holder
  cancelled := by
    intro m hm
    rcases List.mem_cons.1 hm with rfl | hm
    · exact lt_of_getElem?_eq_some (h.owner_of_holder? hn)
    · exact h.cancelled m hm

/-! ## Ledgers that are alike for a session -/

/-- Both ledgers take a task of the session. -/
theorem Alike.accept (h : l.Alike A asked asked' l') (hn : Mates A asked asked' n n') :
    RunLedger.Alike A asked asked' { l with holders := (key, n) :: l.holders }
      { l' with holders := (key, n') :: l'.holders } where
  holder := by
    intro other hother
    rw [holder?_cons, holder?_cons]
    split
    · exact .some hn
    · exact h.holder other hother
  cancelled := h.cancelled
  count := h.count

/-- A session does not notice that a task of another one is taken. -/
theorem Alike.accept_left (h : l.Alike A asked asked' l') (hB : key.session ≠ A) (n : RunId) :
    RunLedger.Alike A asked asked' { l with holders := (key, n) :: l.holders } l' where
  holder := by
    intro other hother
    rw [holder?_cons, if_neg fun heq : other = key => hB (heq ▸ hother)]
    exact h.holder other hother
  cancelled := h.cancelled
  count := h.count

/-- Both ledgers let go of a task. -/
theorem Alike.drop (h : l.Alike A asked asked' l') (key : TaskKey) :
    (l.drop key).Alike A asked asked' (l'.drop key) where
  holder := by
    intro other hother
    rw [holder?_drop, holder?_drop]
    split
    · exact .none
    · exact h.holder other hother
  cancelled := h.cancelled
  count := h.count

/-- A session does not notice that a task of another one is let go. -/
theorem Alike.drop_left (h : l.Alike A asked asked' l') (hB : key.session ≠ A) :
    (l.drop key).Alike A asked asked' l' where
  holder := by
    intro other hother
    rw [holder?_drop, if_neg fun heq : other = key => hB (heq ▸ hother)]
    exact h.holder other hother
  cancelled := h.cancelled
  count := h.count

/-- A run holds a task of the session in both ledgers or in neither. -/
theorem Alike.holder?_iff (h : l.Alike A asked asked' l') (hA : key.session = A)
    (hn : Mates A asked asked' n n') : l.holder? key = some n ↔ l'.holder? key = some n' := by
  rcases rel_cases (h.holder key hA) with ⟨hm, hm'⟩ | ⟨m, m', hm, hm', hmates⟩
  · rw [hm, hm']
    exact ⟨fun hc => (Option.some_ne_none n hc.symm).elim,
      fun hc => (Option.some_ne_none n' hc.symm).elim⟩
  · rw [hm, hm', Option.some.injEq, Option.some.injEq]
    exact hmates.eq_iff hn

/-- Runs that correspond release the same task of the session. -/
theorem Alike.release (h : l.Alike A asked asked' l') (hA : key.session = A)
    (hn : Mates A asked asked' n n') :
    (l.release key n).Alike A asked asked' (l'.release key n') := by
  unfold RunLedger.release
  by_cases hholds : l.holder? key = some n
  · rw [if_pos hholds, if_pos ((h.holder?_iff hA hn).1 hholds)]
    exact h.drop key
  · rw [if_neg hholds, if_neg (mt (h.holder?_iff hA hn).2 hholds)]
    exact h

theorem Alike.release_left (h : l.Alike A asked asked' l') (hB : key.session ≠ A) (n : RunId) :
    (l.release key n).Alike A asked asked' l' := by
  unfold RunLedger.release
  split
  · exact h.drop_left hB
  · exact h

/-- Both ledgers cancel a run of the session. -/
theorem Alike.cancel (h : l.Alike A asked asked' l') (key : TaskKey)
    (hn : Mates A asked asked' n n') :
    RunLedger.Alike A asked asked' { l.drop key with cancelled := n :: l.cancelled }
      { l'.drop key with cancelled := n' :: l'.cancelled } where
  holder := (h.drop key).holder
  cancelled := by
    intro m m' hm
    rw [List.mem_cons, List.mem_cons, hm.eq_iff hn, h.cancelled m m' hm]
  count := h.count

/-- A session does not notice that a run of another one is cancelled. -/
theorem Alike.cancel_left (h : l.Alike A asked asked' l') (hB : key.session ≠ A)
    (hn : asked[n]? = some key.session) :
    RunLedger.Alike A asked asked' { l.drop key with cancelled := n :: l.cancelled } l' where
  holder := (h.drop_left hB).holder
  cancelled := by
    intro m m' hm
    rw [List.mem_cons, or_iff_right (hm.ne_of_other hn hB), h.cancelled m m' hm]
  count := h.count

/-- Runs that correspond are both cancelled, or neither is. -/
theorem Alike.isCancelled (h : l.Alike A asked asked' l') (hn : Mates A asked asked' n n') :
    l.isCancelled n = l'.isCancelled n' := by
  rw [Bool.eq_iff_iff, isCancelled_iff, isCancelled_iff]
  exact h.cancelled n n' hn

/-! ## Held tasks in order -/

/-- Keys are ordered by session, and within a session by task. -/
theorem isBefore_iff (a b : TaskKey) :
    isBefore a b = true ↔
      a.session.text < b.session.text ∨ a.session = b.session ∧ a.task ≤ b.task := by
  unfold isBefore
  simp

theorem isBefore_trans {a b c : TaskKey} (hab : isBefore a b = true) (hbc : isBefore b c = true) :
    isBefore a c = true := by
  rw [isBefore_iff] at hab hbc ⊢
  rcases hab with hab | ⟨hab, htask⟩
  · rcases hbc with hbc | ⟨hbc, -⟩
    · exact Or.inl (String.lt_trans hab hbc)
    · exact Or.inl (hbc ▸ hab)
  · rcases hbc with hbc | ⟨hbc, htask'⟩
    · exact Or.inl (hab ▸ hbc)
    · exact Or.inr ⟨hab.trans hbc, String.le_trans htask htask'⟩

theorem isBefore_total (a b : TaskKey) : (isBefore a b || isBefore b a) = true := by
  rw [Bool.or_eq_true, isBefore_iff, isBefore_iff]
  rcases lt_trichotomy a.session.text b.session.text with hlt | heq | hlt
  · exact Or.inl (Or.inl hlt)
  · have hsession := SessionKey.text_injective heq
    rcases String.le_total a.task b.task with hle | hle
    · exact Or.inl (Or.inr ⟨hsession, hle⟩)
    · exact Or.inr (Or.inr ⟨hsession.symm, hle⟩)
  · exact Or.inr (Or.inl hlt)

/-- Keys that are each before the other are the same. -/
theorem isBefore_antisymm {a b : TaskKey} (hab : isBefore a b = true)
    (hba : isBefore b a = true) : a = b := by
  rw [isBefore_iff] at hab hba
  rcases hab with hab | ⟨hsession, hle⟩
  · rcases hba with hba | ⟨hsession, -⟩
    · exact absurd hba (String.lt_asymm hab)
    · rw [hsession] at hab
      exact absurd hab (String.lt_irrefl _)
  · rcases hba with hba | ⟨-, hle'⟩
    · rw [hsession] at hba
      exact absurd hba (String.lt_irrefl _)
    · cases a
      cases b
      cases hsession
      cases String.le_antisymm hle hle'
      rfl

/-- The keys of the ledger are listed in order. -/
theorem sorted_keys (l : RunLedger) : l.keys.Pairwise fun a b => isBefore a b = true := by
  have htrans : ∀ a b c : TaskKey, isBefore a b = true → isBefore b c = true →
      isBefore a c = true :=
    fun _ _ _ => isBefore_trans
  unfold RunLedger.keys
  exact List.pairwise_mergeSort htrans isBefore_total (l.holders.map Prod.fst)

/-- Both ledgers list the tasks of the session in one order. -/
theorem Alike.filter_keys (h : l.Alike A asked asked' l') (howned : l.Owned asked)
    (howned' : l'.Owned asked') :
    l.keys.filter (fun key => decide (key.session = A)) =
      l'.keys.filter fun key => decide (key.session = A) := by
  refine List.Perm.eq_of_pairwise (fun _ _ _ _ => isBefore_antisymm) (l.sorted_keys.filter _)
    (l'.sorted_keys.filter _) ?_
  rw [List.perm_ext_iff_of_nodup (howned.nodup_keys.filter _) (howned'.nodup_keys.filter _)]
  intro key
  rw [List.mem_filter, List.mem_filter, decide_eq_true_eq, mem_keys_iff, mem_keys_iff]
  refine and_congr_left fun hA => ?_
  rw [rel_isSome (h.holder key hA)]

end RunLedger

/-! ## Steps of runs -/

namespace Server

variable {s s' t t' : Server} {key : TaskKey} {n n' : RunId}

/-- A run of the session tries to take its task in both servers. -/
theorem Twin.accept (h : Twin A keys own own' asked asked' s s') (hA : key.session = A)
    (hn : Mates A asked asked' n n') :
    (s.accept? key n = none ∧ s'.accept? key n' = none) ∨
      ∃ t t', s.accept? key n = some t ∧ s'.accept? key n' = some t' ∧
        Twin A keys own own' asked asked' t t' := by
  unfold Server.accept?
  rcases rel_cases (h.ledger.holder key hA) with ⟨hm, hm'⟩ | ⟨m, m', hm, hm', -⟩
  · rw [hm, hm']
    refine Or.inr ⟨_, _, rfl, rfl, ?_⟩
    refine h.setLedgers (h.owned.ledger.accept hm ?_) (h.owned'.ledger.accept hm' ?_)
      (h.ledger.accept hn)
    · rw [hA]
      exact hn.left
    · rw [hA]
      exact hn.right
  · rw [hm, hm']
    exact Or.inl ⟨rfl, rfl⟩

/-- A session does not notice that a run of another one takes its task. -/
theorem Twin.accept_left (h : Twin A keys own own' asked asked' s s') (hB : key.session ≠ A)
    (hn : asked[n]? = some key.session) (ht : s.accept? key n = some t) :
    Twin A keys own own' asked asked' t s' := by
  unfold Server.accept? at ht
  split at ht
  · cases ht
  · rename_i hfree
    cases ht
    exact h.setLedgers (h.owned.ledger.accept hfree hn) h.owned'.ledger (h.ledger.accept_left hB n)

/-- A run of the session starts in both servers. -/
theorem Twin.begin (h : Twin A keys own own' asked asked' s s') (hA : key.session = A)
    (hn : Mates A asked asked' n n') :
    (s.begin key n).1 = (s'.begin key n').1 ∧
      TwinFrom A keys own own' asked asked' (s.begin key n).2 (s'.begin key n').2 := by
  have hkey := h.owned.mem_of_asked hn.left
  unfold Server.begin
  rw [← h.ledger.isCancelled hn]
  split
  · exact ⟨rfl, h.from⟩
  · obtain ⟨hresult, htwin⟩ := h.writeUpdate hA hkey startUpdate
    exact ⟨congrArg (Except.map some) hresult, htwin⟩

/-- A session does not notice that a run of another one begins. -/
theorem Twin.begin_left (h : Twin A keys own own' asked asked' s s') (hB : key.session ≠ A)
    (hn : asked[n]? = some key.session) :
    TwinFrom A keys own own' asked asked' (s.begin key n).2 s' := by
  unfold Server.begin
  split
  · exact h.from
  · exact h.writeUpdate_left hB (h.owned.mem_of_asked hn) startUpdate

/-- A run of the session reports in both servers. -/
theorem Twin.report (h : Twin A keys own own' asked asked' s s') (hA : key.session = A)
    (hn : Mates A asked asked' n n') (progress : Binary64) (step description : Option String) :
    TwinFrom A keys own own' asked asked' (s.report key n progress step description)
      (s'.report key n' progress step description) := by
  have hkey := h.owned.mem_of_asked hn.left
  unfold Server.report
  rw [← h.ledger.isCancelled hn]
  split
  · exact h.from
  · exact (h.writeUpdate hA hkey _).2

theorem Twin.report_left (h : Twin A keys own own' asked asked' s s') (hB : key.session ≠ A)
    (hn : asked[n]? = some key.session) (progress : Binary64) (step description : Option String) :
    TwinFrom A keys own own' asked asked' (s.report key n progress step description) s' := by
  unfold Server.report
  split
  · exact h.from
  · exact h.writeUpdate_left hB (h.owned.mem_of_asked hn) _

/-- A run of the session is given up in both servers. -/
theorem Twin.giveUp (h : Twin A keys own own' asked asked' s s') (hA : key.session = A)
    (hn : Mates A asked asked' n n') :
    Twin A keys own own' asked asked' (s.giveUp key n) (s'.giveUp key n') :=
  h.setLedgers (h.owned.ledger.release key n) (h.owned'.ledger.release key n')
    (h.ledger.release hA hn)

/-- A session does not notice that a run of another one is given up. -/
theorem Twin.giveUp_left (h : Twin A keys own own' asked asked' s s') (hB : key.session ≠ A)
    (n : RunId) : Twin A keys own own' asked asked' (s.giveUp key n) s' :=
  h.setLedgers (h.owned.ledger.release key n) h.owned'.ledger (h.ledger.release_left hB n)

/-- A run that finishes lets its task go, and writes its outcome unless it was cancelled. -/
theorem finish_eq (s : Server) (key : TaskKey) (n : RunId) (outcome : Except Failure Unit) :
    s.finish key n outcome =
      if (s.giveUp key n).ledger.isCancelled n then s.giveUp key n
      else ((s.giveUp key n).writeUpdate key (endUpdate outcome)).2 :=
  rfl

/-- A run of the session ends in both servers. -/
theorem Twin.finish (h : Twin A keys own own' asked asked' s s') (hA : key.session = A)
    (hn : Mates A asked asked' n n') (outcome : Except Failure Unit) :
    TwinFrom A keys own own' asked asked' (s.finish key n outcome) (s'.finish key n' outcome) := by
  have hkey := h.owned.mem_of_asked hn.left
  have hrelease := h.giveUp hA hn
  rw [finish_eq, finish_eq, ← hrelease.ledger.isCancelled hn]
  split
  · exact hrelease.from
  · exact (hrelease.writeUpdate hA hkey _).2

theorem Twin.finish_left (h : Twin A keys own own' asked asked' s s') (hB : key.session ≠ A)
    (hn : asked[n]? = some key.session) (outcome : Except Failure Unit) :
    TwinFrom A keys own own' asked asked' (s.finish key n outcome) s' := by
  have hrelease := h.giveUp_left hB n
  rw [finish_eq]
  split
  · exact hrelease.from
  · exact hrelease.writeUpdate_left hB (h.owned.mem_of_asked hn) _

/-! ## Asking for runs -/

/-- One more run of the session is asked for in both servers. -/
theorem Twin.ask (h : Twin A keys own own' asked asked' s s') (hkey : A ∈ keys) :
    Twin A keys own own' (asked ++ [A]) (asked' ++ [A]) s s' :=
  { h with
    owned := h.owned.ask hkey
    owned' := h.owned'.ask hkey
    ledger := by
      constructor
      · intro key hA
        refine rel_mono (fun m m' hm => ?_) (h.ledger.holder key hA)
        exact hm.mono (List.prefix_append asked [A]) (List.prefix_append asked' [A])
      · intro m m' hm
        rcases hm.of_concat h.ledger.count with hm | ⟨rfl, rfl⟩
        · exact h.ledger.cancelled m m' hm
        · exact iff_of_false (fun hc => (h.owned.ledger.cancelled _ hc).false)
            fun hc => (h.owned'.ledger.cancelled _ hc).false
      · rw [List.count_append, List.count_append, h.ledger.count] }

/-- A session does not notice that a run is asked for by another one. -/
theorem Twin.ask_left (h : Twin A keys own own' asked asked' s s') {B : SessionKey} (hB : B ≠ A)
    (hkey : B ∈ keys) : Twin A keys own own' (asked ++ [B]) asked' s s' :=
  { h with
    owned := h.owned.ask hkey
    ledger := by
      constructor
      · intro key hA
        refine rel_mono (fun m m' hm => ?_) (h.ledger.holder key hA)
        exact hm.mono (List.prefix_append asked [B]) (List.prefix_refl asked')
      · intro m m' hm
        rw [mates_concat_iff_of_ne hB] at hm
        exact h.ledger.cancelled m m' hm
      · rw [List.count_append, List.count_singleton, if_neg (by simpa using hB), Nat.add_zero,
          h.ledger.count] }

/-! ## Cancelling -/

/-- The run that holds a task of the session is cancelled in both servers. -/
theorem Twin.cancelRun (h : Twin A keys own own' asked asked' s s') (hA : key.session = A) :
    (s.cancelRun key).1 = (s'.cancelRun key).1 ∧
      TwinFrom A keys own own' asked asked' (s.cancelRun key).2 (s'.cancelRun key).2 := by
  unfold Server.cancelRun
  rcases rel_cases (h.ledger.holder key hA) with ⟨hm, hm'⟩ | ⟨m, m', hm, hm', hmates⟩
  · rw [hm, hm']
    exact ⟨rfl, h.from⟩
  · rw [hm, hm']
    have hmark := h.setLedgers (h.owned.ledger.cancel hm) (h.owned'.ledger.cancel hm')
      (h.ledger.cancel key hmates)
    exact ⟨rfl, (hmark.writeUpdate hA (h.owned.mem_of_asked hmates.left) _).2⟩

/-- A session does not notice that another one cancels a run. -/
theorem Twin.cancelRun_left (h : Twin A keys own own' asked asked' s s') (hB : key.session ≠ A) :
    TwinFrom A keys own own' asked asked' (s.cancelRun key).2 s' := by
  unfold Server.cancelRun
  cases hm : s.ledger.holder? key with
  | none => exact h.from
  | some m =>
    have hn := h.owned.ledger.owner_of_holder? hm
    have hmark := h.setLedgers (h.owned.ledger.cancel hm) h.owned'.ledger
      (h.ledger.cancel_left hB hn)
    exact hmark.writeUpdate_left hB (h.owned.mem_of_asked hn) _

/-- Cancelling some runs is cancelling one after the other. -/
theorem cancelRuns_snd (tasks : List TaskKey) (s : Server) :
    (s.cancelRuns tasks).2 = tasks.foldl (fun s key => (s.cancelRun key).2) s := by
  induction tasks generalizing s with
  | nil => rfl
  | cons key rest ih => exact ih _

/-- **Every run is cancelled**, in both servers. -/
theorem Twin.cancelAll (h : Twin A keys own own' asked asked' s s') :
    TwinFrom A keys own own' asked asked' s.cancelAll.2 s'.cancelAll.2 := by
  unfold Server.cancelAll
  rw [cancelRuns_snd, cancelRuns_snd]
  refine unwind (T := TwinFrom A keys own own' asked asked') ?_ ?_ ?_
    (h.ledger.filter_keys h.owned.ledger h.owned'.ledger) h.from
  · intro s s' key _ hB h
    exact h.bind fun _ _ _ _ h => h.cancelRun_left (of_decide_eq_false hB)
  · intro s s' key _ hB h
    exact h.bind fun _ _ _ _ h => (h.symm.cancelRun_left (of_decide_eq_false hB)).symm
  · intro s s' key _ hA h
    exact h.bind fun _ _ _ _ h => (h.cancelRun (of_decide_eq_true hA)).2

end Server

namespace RunState

variable {s s' : Server} {r : RunState} {n n' : RunId}

/-- **A run of another session goes on.** -/
theorem step_left (h : Server.Twin A keys own own' asked asked' s s') (hB : r.key.session ≠ A)
    (hn : asked[n]? = some r.key.session) (a : RunStep) :
    Server.TwinFrom A keys own own' asked asked' (r.step n s a).1 s' := by
  have htakes := r.takes_step n s a
  generalize r.step n s a = after at htakes ⊢
  cases htakes with
  | accepted hstage haccept => exact (h.accept_left hB hn haccept).from
  | begun hstage hbegin =>
    have htwin := h.begin_left hB hn
    rw [hbegin] at htwin
    exact htwin
  | unbegun outcome hstage hbegin =>
    have htwin := h.begin_left hB hn
    rw [hbegin] at htwin
    exact htwin
  | reported progress step description htask => exact h.report_left hB hn progress step description
  | finished hstage => exact h.finish_left hB hn _
  | givenUp hstage => exact (h.giveUp_left hB n).from
  | _ => exact h.from

/-- **A run of the session goes on** alike in both servers. -/
theorem step_twin (h : Server.Twin A keys own own' asked asked' s s') (hA : r.key.session = A)
    (hn : Mates A asked asked' n n') (a : RunStep) :
    (r.step n s a).2 = (r.step n' s' a).2 ∧
      Server.TwinFrom A keys own own' asked asked' (r.step n s a).1 (r.step n' s' a).1 := by
  unfold step
  cases a with
  | accept =>
    dsimp only
    split
    · rcases h.accept hA hn with ⟨hnone, hnone'⟩ | ⟨t, t', ht, ht', htwin⟩
      · rw [hnone, hnone']
        exact ⟨rfl, h.from⟩
      · rw [ht, ht']
        exact ⟨rfl, htwin.from⟩
    · exact ⟨rfl, h.from⟩
  | begin =>
    dsimp only
    split
    · obtain ⟨hresult, htwin⟩ := h.begin hA hn
      -- both runs are told the same, and that decides at which stage they go on
      generalize s.begin r.key n = x at hresult htwin ⊢
      generalize s'.begin r.key n' = x' at hresult htwin ⊢
      obtain ⟨result, t⟩ := x
      obtain ⟨result', t'⟩ := x'
      dsimp only at hresult
      subst hresult
      rcases result with f | _ | task
      · exact ⟨rfl, htwin⟩
      · exact ⟨rfl, htwin⟩
      · exact ⟨rfl, htwin⟩
    · exact ⟨rfl, h.from⟩
  | report progress step description =>
    dsimp only
    split
    · exact ⟨rfl, h.report hA hn progress step description⟩
    · exact ⟨rfl, h.from⟩
  | endWork outcome =>
    dsimp only
    split
    · exact ⟨rfl, h.from⟩
    · exact ⟨rfl, h.from⟩
  | finish =>
    dsimp only
    split
    · exact ⟨rfl, h.finish hA hn _⟩
    · exact ⟨rfl, h.from⟩
  | giveUp =>
    dsimp only
    split
    · exact ⟨rfl, h.from⟩
    · exact ⟨rfl, (h.giveUp hA hn).from⟩
    · exact ⟨rfl, (h.giveUp hA hn).from⟩
    · exact ⟨rfl, h.from⟩
    · exact ⟨rfl, h.from⟩

end RunState

end SessionTasks
