/-
# Sealed stores in a schedule

A store that was sealed stays as it was, whatever happens later: callers and runs are refused, and
no file brings it back.  A run of one of its tasks still comes to its end, since none of its steps
waits for the store, and lets go of its task.

* `Schedule.store_play` : a sealed store stays as it is;
* `Schedule.isOver_of_fair` : a call that gets its turns comes to its end;
* `Schedule.sealed_of_panicked` : what becomes of a store after an edit broke off.
-/
import SessionTasks.Proofs.Schedule.Execution
import SessionTasks.Proofs.Schedule.InFlight
import SessionTasks.Proofs.Schedule.Stores
import SessionTasks.Proofs.Store.Sealed
namespace SessionTasks

/-! ## A sealed store stays as it is -/

/-- No step changes a sealed store, and it is not made anew. -/
theorem Store.Becomes.eq_of_poisoned {admits : StoreCall → Prop} {s s' : Store}
    (h : s.Becomes admits s') (hs : s.poisoned = true) : s' = s := by
  induction h with
  | refl => rfl
  | tail _ hstep ih =>
    subst ih
    cases hstep with
    | made settings => cases hs
    | called t hc => exact call_of_poisoned hs _

namespace Schedule

variable {s : Schedule} {id : StoreId} {n : RunId}

theorem store_move (h : (s.server.store id).poisoned = true) (m : Move) :
    (s.move m).server.store id = s.server.store id :=
  (s.becomes_move m id).eq_of_poisoned h

/-- **A sealed store stays as it is**, whatever happens. -/
theorem store_play (h : (s.server.store id).poisoned = true) (moves : List Move) :
    (s.play moves).server.store id = s.server.store id := by
  induction moves generalizing s with
  | nil => rfl
  | cons m rest ih =>
    have hmove := store_move h m
    rw [play_cons, ih (by rw [hmove]; exact h), hmove]

/-- The store after an edit of one of its records broke off. -/
theorem store_move_of_broken {table name text : String} {change : Record → Change}
    (h : s.server.reply id (.modify table name change) = .changed (.broken text)) :
    (s.move (.operate (.useStore id (.modify table name change)))).server.store id =
      (s.server.store id).sealed := by
  have hbroken : ((s.server.store id).modify table name change).1 = .broken text :=
    StoreReply.changed.inj h
  obtain ⟨⟨old, hold⟩, hafter⟩ := Store.modify_of_broken hbroken
  -- the store was made, for one that was not has no records
  have hid : id < s.server.stores.length := by
    by_contra hid
    unfold Server.store at hold
    rw [List.getElem?_eq_none (Nat.le_of_not_lt hid)] at hold
    cases hold
  show (s.server.setStore id ((s.server.store id).modify table name change).2).store id = _
  rw [Server.store_setStore_self hid, hafter]

end Schedule

/-! ## The way of a call to its end -/

namespace Stage

/-- How many steps a call still has to take, at most. -/
def left : Stage → Nat
  | .asked => 4
  | .holding => 3
  | .working => 2
  | .ending _ => 1
  | .over => 0

/-- The step takes the call on from this stage. -/
def awaits : Stage → RunStep → Bool
  | .asked, .accept | .holding, .begin | .working, .endWork _ | .ending _, .finish => true
  | _, _ => false

end Stage

namespace RunState

variable {r : RunState} {n : RunId} {s : Server} {a : RunStep}

/-- No step takes a call back. -/
theorem left_step_le (r : RunState) (n : RunId) (s : Server) (a : RunStep) :
    (r.step n s a).2.stage.left ≤ r.stage.left := by
  have htakes := r.takes_step n s a
  generalize r.step n s a = after at htakes ⊢
  cases htakes with
  | accepted hstage | begun hstage | unbegun outcome hstage | ended outcome hstage =>
    simp [Stage.left, hstage]
  | refused | finished | dropped | givenUp => exact Nat.zero_le _
  | stay | reported | endedAlone => exact le_rfl

/-- A call waits for its work only while that goes on. -/
def Busy (r : RunState) : Prop := r.stage = .working → r.task.isSome = true

/-- **A step that is awaited takes the call on.** -/
theorem left_step_lt (hbusy : r.Busy) (ha : r.stage.awaits a = true) :
    (r.step n s a).2.stage.left < r.stage.left := by
  obtain ⟨key, stage, task⟩ := r
  cases stage with
  | asked =>
    cases a with
    | accept =>
      unfold step
      dsimp only
      split <;> simp [Stage.left]
    | _ => cases ha
  | holding =>
    cases a with
    | begin =>
      unfold step
      dsimp only
      split <;> simp [Stage.left]
    | _ => cases ha
  | working =>
    cases a with
    | endWork outcome =>
      obtain ⟨given, rfl⟩ := Option.isSome_iff_exists.1 (hbusy rfl)
      exact Nat.one_lt_two
    | _ => cases ha
  | ending outcome =>
    cases a with
    | finish => exact Nat.one_pos
    | _ => cases ha
  | _ => cases ha

theorem Busy.step (h : r.Busy) (n : RunId) (s : Server) (a : RunStep) : (r.step n s a).2.Busy := by
  have hother : ∀ stage, stage ≠ .working → ∀ task, ({ r with stage, task } : RunState).Busy :=
    fun stage hne task hstage => absurd hstage hne
  by_cases hend : ∃ outcome, a = .endWork outcome
  · -- work that ends while the call waits for it takes the call on
    obtain ⟨outcome, rfl⟩ := hend
    obtain ⟨key, stage, task⟩ := r
    cases stage with
    | working =>
      obtain ⟨given, rfl⟩ := Option.isSome_iff_exists.1 (h rfl)
      exact hother (.ending outcome) (by simp) none
    | _ => cases task <;> exact hother _ (by simp) none
  · have htakes := r.takes_step n s a
    generalize r.step n s a = after at htakes ⊢
    cases htakes with
    | stay | reported => exact h
    | begun hstage hbegin => exact fun _ => rfl
    | ended outcome hstage => exact absurd ⟨outcome, rfl⟩ hend
    | endedAlone outcome => exact absurd ⟨outcome, rfl⟩ hend
    | _ => exact hother _ (by simp) _

end RunState

namespace Schedule

variable {s : Schedule} {id : StoreId} {n : RunId} {r : RunState}

/-- Every call that waits for its work has work that goes on. -/
def Busy (s : Schedule) : Prop :=
  ∀ (n : RunId) (r : RunState), s.runs[n]? = some r → r.Busy

theorem Busy.move (h : s.Busy) (m : Move) : (s.move m).Busy := by
  intro n r' hr'
  rcases run_of_move hr' with hr | ⟨-, heq⟩ | ⟨r, a, -, hr, rfl⟩
  · exact h n r' hr
  · rw [heq]
    intro hstage
    cases hstage
  · exact (h n r hr).step n s.server a

theorem Busy.play (h : s.Busy) (moves : List Move) : (s.play moves).Busy := by
  induction moves generalizing s with
  | nil => exact h
  | cons m rest ih => exact ih (h.move m)

/-- The move is the step that the call of the run awaits. -/
def advances (s : Schedule) (n : RunId) : Move → Bool
  | .step k a => k = n && (s.runs[n]?).any (·.stage.awaits a)
  | _ => false

/-- The schedule after the first `k` of some moves that never end. -/
def after (s : Schedule) (moves : ℕ → Move) (k : ℕ) : Schedule :=
  s.play ((List.range k).map moves)

/-- As long as the call of the run is not over, the step that it awaits is taken some time. -/
def Fair (s : Schedule) (n : RunId) (moves : ℕ → Move) : Prop :=
  ∀ k, (s.after moves k).IsOver n ∨ ∃ j ≥ k, (s.after moves j).advances n (moves j) = true

theorem after_succ (s : Schedule) (moves : ℕ → Move) (k : ℕ) :
    s.after moves (k + 1) = (s.after moves k).move (moves k) := by
  unfold after
  rw [List.range_succ, List.map_append, List.map_singleton, play_concat]

/-- **Step lemma.**  A move that takes a call on brings it nearer to its end, and no move takes it
back. -/
theorem left_move (h : s.Busy) (hr : s.runs[n]? = some r) (m : Move) :
    ∃ r', (s.move m).runs[n]? = some r' ∧
      (s.advances n m).toNat + r'.stage.left ≤ r.stage.left := by
  by_cases hm : ∃ a, m = .step n a
  · obtain ⟨a, rfl⟩ := hm
    refine ⟨(r.step n s.server a).2, ?_, ?_⟩
    · rw [move_step hr]
      exact List.getElem?_set_self (List.getElem?_eq_some_iff.1 hr).1
    · have hadvances : s.advances n (.step n a) = r.stage.awaits a := by
        simp [advances, hr]
      rw [hadvances]
      cases ha : r.stage.awaits a with
      | false => simpa using r.left_step_le n s.server a
      | true =>
        have hlt := RunState.left_step_lt (n := n) (s := s.server) (h n r hr) ha
        show 1 + _ ≤ _
        omega
  · have hother : s.advances n m = false := by
      cases m with
      | step k a =>
        have hkn : k ≠ n := fun hkn => hm ⟨a, by rw [hkn]⟩
        simp [advances, hkn]
      | _ => rfl
    refine ⟨r, runs_move_of_ne (fun a ha => hm ⟨a, ha⟩) hr, ?_⟩
    rw [hother]
    simp

theorem Busy.after (h : s.Busy) (moves : ℕ → Move) (k : ℕ) : (s.after moves k).Busy := h.play _

/-- Later on the call of a run is no further from its end. -/
theorem left_after (h : s.Busy) {moves : ℕ → Move} {k j : ℕ} (hkj : k ≤ j)
    (hr : (s.after moves k).runs[n]? = some r) :
    ∃ r', (s.after moves j).runs[n]? = some r' ∧ r'.stage.left ≤ r.stage.left := by
  induction j, hkj using Nat.le_induction with
  | base => exact ⟨r, hr, le_rfl⟩
  | succ j _ ih =>
    obtain ⟨r', hr', hle⟩ := ih
    obtain ⟨r'', hr'', hleft⟩ := left_move (h.after moves j) hr' (moves j)
    rw [after_succ]
    exact ⟨r'', hr'', by omega⟩

theorem isOver_after {moves : ℕ → Move} {k j : ℕ} (hkj : k ≤ j)
    (h : (s.after moves k).IsOver n) : (s.after moves j).IsOver n := by
  induction j, hkj using Nat.le_induction with
  | base => exact h
  | succ j _ ih =>
    rw [after_succ]
    exact ih.move (moves j)

/-- **Run lemma.**  A call that gets its turns comes to its end, whatever happens in between. -/
theorem isOver_of_fair (h : s.Busy) {moves : ℕ → Move} (hfair : s.Fair n moves) {k : ℕ}
    (hr : (s.after moves k).runs[n]? = some r) : ∃ j ≥ k, (s.after moves j).IsOver n := by
  -- each turn that the call gets takes it nearer to its end
  induction hleft : r.stage.left using Nat.strong_induction_on generalizing k r with
  | _ left ih =>
    rcases hfair k with hover | ⟨j, hkj, hadvances⟩
    · exact ⟨k, le_rfl, hover⟩
    · obtain ⟨r', hr', hle⟩ := left_after h hkj hr
      obtain ⟨r'', hr'', hlt⟩ := left_move (h.after moves j) hr' (moves j)
      rw [hadvances, Bool.toNat_true] at hlt
      rw [← after_succ] at hr''
      obtain ⟨i, hi, hover⟩ := ih r''.stage.left (by omega) hr'' rfl
      exact ⟨i, by omega, hover⟩

/-- A call that is over holds no task. -/
theorem not_holder_of_isOver (h : s.server.ledger.Exact s.runs) (hover : s.IsOver n)
    (key : TaskKey) : s.server.ledger.holder? key ≠ some n := by
  intro hholder
  obtain ⟨r, hr, -, hholds, -⟩ := (h.holder_iff key n).1 hholder
  obtain ⟨r', hr', hstage⟩ := hover
  rw [hr] at hr'
  cases hr'
  rw [hstage] at hholds
  cases hholds

/-! ## Runs of the tasks of a sealed store -/

/-- A write for a task of a sealed store fails. -/
theorem writeUpdate_of_poisoned (h : (s.server.store id).poisoned = true) {key : TaskKey}
    (hlive : s.LiveIn key.session id) (u : TaskUpdate) :
    (s.server.writeUpdate key u).1 = .error .storePoisoned := by
  obtain ⟨x, hx, hidle, rfl⟩ := hlive
  obtain ⟨hfst, hsnd⟩ := Server.lookup_of_live (s := s.server) ⟨hx, hidle⟩
  show (((s.server.lookup key.session).2.store (s.server.lookup key.session).1.store).modifyTask
    (s.server.lookup key.session).1.key key.task
      fun task => u.apply task (s.server.lookup key.session).2.clock).1 = _
  rw [hfst, hsnd]
  exact congrArg Prod.fst (Store.modifyTask_of_poisoned h _ _ _)

/-- A run of a task of a sealed store does not begin: the call hears of the store, and is about to
end. -/
theorem begin_of_poisoned (h : (s.server.store id).poisoned = true) (hr : s.runs[n]? = some r)
    (hstage : r.stage = .holding) (hn : n ∉ s.server.ledger.cancelled)
    (hlive : s.LiveIn r.key.session id) :
    (s.move (.step n .begin)).runs[n]? =
      some { r with stage := .ending (.error .storePoisoned) } := by
  have hbegin : (s.server.begin r.key n).1 = .error .storePoisoned := by
    have hcancelled : s.server.ledger.isCancelled n = false := by
      rw [← Bool.not_eq_true, RunLedger.isCancelled_iff]
      exact hn
    unfold Server.begin
    rw [hcancelled, if_neg Bool.false_ne_true]
    exact congrArg (Except.map some) (writeUpdate_of_poisoned h hlive Server.startUpdate)
  have hstep : (r.step n s.server .begin).2 =
      { r with stage := .ending (.error .storePoisoned) } := by
    unfold RunState.step
    rw [hstage]
    dsimp only
    split <;> rename_i heq <;> rw [heq] at hbegin <;> cases hbegin
    rfl
  rw [move_step hr, hstep]
  exact List.getElem?_set_self (List.getElem?_eq_some_iff.1 hr).1

/-! ## After an edit broke off -/

/-- What can be done with a sealed store, and with the runs of its tasks. -/
structure Sealed (s : Schedule) (id : StoreId) : Prop where
  /-- No question about the tables is answered. -/
  silent : ∀ q, ((s.server.store id).reply q).failure? = some .storePoisoned
  /-- An operation that comes to take the lock is refused. -/
  locked : ∀ o, s.server.Locks id o → (s.server.reply id o).failure? = some .storePoisoned
  /-- The others fail too, or do nothing. -/
  idle : ∀ o, (∃ f, (s.server.reply id o).failure? = some f) ∨
    s.server.reply id o = .loaded (.ok false)
  unsaved : ∀ o, (s.server.useStore id o).files = s.server.files
  /-- What is written for a task of a session that has the store is refused. -/
  unwritten : ∀ key, s.LiveIn key.session id → ∀ u,
    (s.server.writeUpdate key u).1 = .error .storePoisoned
  /-- No work begins on such a task. -/
  unbegun : ∀ n r, s.runs[n]? = some r → r.stage = .holding → n ∉ s.server.ledger.cancelled →
    s.LiveIn r.key.session id →
      (s.move (.step n .begin)).runs[n]? =
        some { r with stage := .ending (.error .storePoisoned) }
  /-- A call that gets its turns comes to its end, and then holds no task. -/
  ends : ∀ n r, s.runs[n]? = some r → ∀ moves, s.Fair n moves → ∃ k, ∀ j ≥ k,
    (s.after moves j).IsOver n ∧ ∀ key, (s.after moves j).server.ledger.holder? key ≠ some n

theorem sealed_of_poisoned (h : (s.server.store id).poisoned = true)
    (hexact : s.server.ledger.Exact s.runs) (hbusy : s.Busy) : s.Sealed id where
  silent := Store.failure?_reply h
  locked := fun _ => Server.failure?_reply h
  idle := Server.failure?_reply_or h
  unsaved := Server.files_useStore h
  unwritten := fun _ => writeUpdate_of_poisoned h
  unbegun := fun _ _ => begin_of_poisoned h
  ends := by
    intro n r hr moves hfair
    obtain ⟨k, -, hover⟩ := isOver_of_fair (k := 0) hbusy hfair hr
    refine ⟨k, fun j hj => ?_⟩
    have hlater := isOver_after hj hover
    exact ⟨hlater, not_holder_of_isOver (exact_play hexact _) hlater⟩

/-- **Failing edits leave a store as it is, and a breaking one seals it for good.**  An edit of a
record that fails changes nothing, and one of a record that is not there is not tried.  After an
edit broke off, whatever happens, the store holds what it held before, and is sealed. -/
theorem sealed_of_panicked {c : Config} {epoch issued : Nat} {files : FileTree} {server : Server}
    (hs : Server.ofConfig c epoch files issued = .ok server) :
    (∀ store : Store, store.EditLaws) ∧
      ∀ before id table name (e : Edit) text,
        ((ofServer server).play before).server.reply id (.modify table name e.change) =
            .changed (.broken text) →
          ∀ later,
            ((((ofServer server).play before).move
                (.operate (.useStore id (.modify table name e.change)))).play later).server.store id =
              (((ofServer server).play before).server.store id).sealed ∧
            ((((ofServer server).play before).move
                (.operate (.useStore id (.modify table name e.change)))).play later).Sealed id := by
  refine ⟨Store.editLaws, fun before id table name e text hbroken later => ?_⟩
  have hexact := exact_of_ofConfig hs before
  have hbusy : ((ofServer server).play before).Busy := by
    refine Busy.play (fun n r hr => ?_) before
    cases hr
  have hstore := store_move_of_broken hbroken
  generalize (ofServer server).play before = s at hexact hbusy hstore ⊢
  have hpoisoned : ((s.move (.operate (.useStore id
      (.modify table name e.change)))).server.store id).poisoned = true := by
    rw [hstore]
    rfl
  -- from here on it only counts that the store is poisoned
  have hlater := store_play hpoisoned later
  refine ⟨hlater.trans hstore, sealed_of_poisoned ?_ ?_ ?_⟩
  · rw [hlater]
    exact hpoisoned
  · exact exact_play (exact_move hexact _) later
  · exact (hbusy.move _).play later

/-- An edit that breaks off with an empty copy. -/
def sampleEdit : Edit := fun _ => (.empty, .panicked "p")

/-- A run has taken its task, and then the edit breaks off on the row of the task. -/
def sampleHeld : List Move := sampleAsked ++ [.step 0 .accept]

/-- The edit of the row. -/
def sampleModify : StoreOperation := .modify Task.table (identifier 1) sampleEdit.change

/-- The run tries to begin, and then to end. -/
def sampleTurns : ℕ → Move
  | 0 => .step 0 .begin
  | _ + 1 => .step 0 .finish

/-- The edit breaks off while a run holds the task.  The run does not begin, and lets go of it. -/
theorem sealed_of_panicked_held :
    Server.ofConfig {} 0 .empty 0 = .ok sampleServer ∧
      ((ofServer sampleServer).play sampleHeld).server.reply 0 sampleModify =
        .changed (.broken "p") ∧
      (((ofServer sampleServer).play sampleHeld).move
        (.operate (.useStore 0 sampleModify))).Sealed 0 ∧
      (((ofServer sampleServer).play sampleHeld).move
        (.operate (.useStore 0 sampleModify))).Fair 0 sampleTurns ∧
      ∃ k, ∀ j ≥ k, ((((ofServer sampleServer).play sampleHeld).move
        (.operate (.useStore 0 sampleModify))).after sampleTurns j).IsOver 0 := by
  obtain ⟨hedits, hsealed⟩ := sealed_of_panicked ofConfig_sampleServer
  have hstands := stands_sampleAsked.accept
  rw [← play_concat] at hstands
  have hbroken : ((ofServer sampleServer).play sampleHeld).server.reply 0 sampleModify =
      .changed (.broken "p") := by
    obtain ⟨hpoisoned, old, hold, -⟩ := Store.task_eq_ok_iff.1 hstands.stored
    have hfound := Store.find?_eq_ok_iff.2 ⟨hpoisoned, hold⟩
    exact congrArg StoreReply.changed
      (congrArg Prod.fst ((hedits _).panicked _ _ old hfound sampleEdit .empty "p" rfl))
  obtain ⟨-, hnow⟩ := hsealed sampleHeld 0 _ _ sampleEdit "p" hbroken []
  have hbegin := hnow.unbegun 0 _ hstands.run rfl (by decide +kernel) (by decide +kernel)
  have hfair : (((ofServer sampleServer).play sampleHeld).move
      (.operate (.useStore 0 sampleModify))).Fair 0 sampleTurns := by
    intro k
    match k with
    | 0 => exact Or.inr ⟨0, le_rfl, by decide +kernel⟩
    | 1 => exact Or.inr ⟨1, le_rfl, by decide +kernel⟩
    | k + 2 =>
      refine Or.inl (isOver_after (k := 2) (by omega) ?_)
      exact isOver_of_ends ⟨rfl, _, _, hbegin, rfl⟩
  obtain ⟨k, hk⟩ := hnow.ends 0 _ hstands.run sampleTurns hfair
  exact ⟨ofConfig_sampleServer, hbroken, hnow, hfair, k, fun j hj => (hk j hj).1⟩

end Schedule

end SessionTasks
