/-
# Sessions do not interfere

While no more sessions are used than there may be, what is asked for other sessions changes nothing
for a session.

* `World.Twin` : worlds that a session cannot tell apart;
* `World.same_without_others` : a script, and what is left of it without the events of other sessions,
  give the session the same answers and the same content, and leave it idle for as long.
-/
import SessionTasks.Proofs.Schedule.Twins
import SessionTasks.Proofs.Script
namespace SessionTasks

/-- The sessions of the runs that were asked for. -/
def Schedule.owners (s : Schedule) : List SessionKey := s.runs.map fun r => r.key.session

namespace World

/-- What is held for a session is owned by it. -/
structure Held (own : List SessionKey) (w : World) : Prop where
  stores : ∀ key name id, w.stores key name = some id → own[id]? = some key
  runs : ∀ key name n, w.runs key name = some n → w.schedule.owners[n]? = some key

/-- The session `A` cannot tell the worlds apart. -/
structure Twin (A : SessionKey) (keys own own' : List SessionKey) (w w' : World) : Prop where
  server : Server.Twin A keys own own' w.schedule.owners w'.schedule.owners w.server w'.server
  held : w.Held own
  held' : w'.Held own'
  /-- The runs of the session are at the same stages. -/
  states : ∀ n n', Mates A w.schedule.owners w'.schedule.owners n n' →
    w.schedule.runs[n]? = w'.schedule.runs[n']?
  stores : ∀ name, Option.Rel (Mates A own own') (w.stores A name) (w'.stores A name)
  runs : ∀ name, Option.Rel (Mates A w.schedule.owners w'.schedule.owners) (w.runs A name)
    (w'.runs A name)
  log : w.answersTo A = w'.answersTo A

/-- The session `A` cannot tell the worlds apart, whoever owns the stores. -/
def Twins (A : SessionKey) (keys : List SessionKey) (w w' : World) : Prop :=
  ∃ own own', Twin A keys own own' w w'

variable {A B : SessionKey} {keys own own' own₁ own₁' : List SessionKey} {w w' : World}

theorem Twin.symm (h : Twin A keys own own' w w') : Twin A keys own' own w' w where
  server := h.server.symm
  held := h.held'
  held' := h.held
  states := fun n n' hn => (h.states n' n hn.symm).symm
  stores := fun name => rel_symm (fun _ _ => Mates.symm) (h.stores name)
  runs := fun name => rel_symm (fun _ _ => Mates.symm) (h.runs name)
  log := h.log.symm

theorem Twin.twins (h : Twin A keys own own' w w') : Twins A keys w w' := ⟨own, own', h⟩

theorem Twins.symm (h : Twins A keys w w') : Twins A keys w' w := by
  obtain ⟨own, own', h⟩ := h
  exact ⟨own', own, h.symm⟩

/-! ## Parts of twins -/

/-- What is held stays so when more stores are made. -/
theorem Held.mono (h : w.Held own) (hown : own <+: own₁) : w.Held own₁ :=
  ⟨fun key name id hid => getElem?_of_grown hown (h.stores key name id hid), h.runs⟩

/-- Other servers, for which stores may have been made. -/
theorem Twin.setServers (h : Twin A keys own own' w w') {s s' : Server} (hown : own <+: own₁)
    (hown' : own' <+: own₁')
    (hs : Server.Twin A keys own₁ own₁' w.schedule.owners w'.schedule.owners s s') :
    Twin A keys own₁ own₁' (w.withServer s) (w'.withServer s') where
  server := hs
  held := ⟨(h.held.mono hown).stores, h.held.runs⟩
  held' := ⟨(h.held'.mono hown').stores, h.held'.runs⟩
  states := h.states
  stores := fun name => rel_mono (fun _ _ hi => hi.mono hown hown') (h.stores name)
  runs := h.runs
  log := h.log

/-- The servers may change as long as they stay twins. -/
theorem Twin.setServersFrom (h : Twin A keys own own' w w') {s s' : Server}
    (hs : Server.TwinFrom A keys own own' w.schedule.owners w'.schedule.owners s s') :
    Twins A keys (w.withServer s) (w'.withServer s') := by
  obtain ⟨own₁, own₁', hown, hown', hs⟩ := hs
  exact (h.setServers hown hown' hs).twins

/-- A store may be held for its owner. -/
theorem Held.holdStore (h : w.Held own) {key : SessionKey} {id : StoreId}
    (hid : own[id]? = some key) (name : String) : (w.holdStore key name id).Held own := by
  refine ⟨fun other m i hi => ?_, h.runs⟩
  unfold World.holdStore at hi
  dsimp only at hi
  split at hi
  · rename_i heq
    cases hi
    rw [heq.1]
    exact hid
  · exact h.stores other m i hi

/-- A run may be held for its owner. -/
theorem Held.holdRun (h : w.Held own) {key : SessionKey} {n : RunId}
    (hn : w.schedule.owners[n]? = some key) (name : String) : (w.holdRun key name n).Held own := by
  refine ⟨h.stores, fun other m i hi => ?_⟩
  unfold World.holdRun at hi
  dsimp only at hi
  split at hi
  · rename_i heq
    cases hi
    rw [heq.1]
    exact hn
  · exact h.runs other m i hi

/-- The session holds a store in both worlds. -/
theorem Twin.holdStores (h : Twin A keys own own' w w') {i i' : StoreId}
    (hi : Mates A own own' i i') (name : String) :
    Twin A keys own own' (w.holdStore A name i) (w'.holdStore A name i') :=
  { h with
    held := h.held.holdStore hi.left name
    held' := h.held'.holdStore hi.right name
    stores := by
      intro other
      unfold World.holdStore
      dsimp only
      split
      · exact .some hi
      · exact h.stores other }

/-- A session does not notice what stores are held for another one. -/
theorem Twin.holdStore_left (h : Twin A keys own own' w w') (hB : B ≠ A) {i : StoreId}
    (hi : own[i]? = some B) (name : String) : Twin A keys own own' (w.holdStore B name i) w' :=
  { h with
    held := h.held.holdStore hi name
    stores := by
      intro other
      unfold World.holdStore
      dsimp only
      rw [if_neg fun hc : A = B ∧ other = name => hB hc.1.symm]
      exact h.stores other }

/-- The session is told the same in both worlds. -/
theorem Twin.tell (h : Twin A keys own own' w w') (r : SessionReply) :
    Twin A keys own own' { w with log := w.log ++ [(A, r)] }
      { w' with log := w'.log ++ [(A, r)] } :=
  { h with
    held := ⟨h.held.stores, h.held.runs⟩
    held' := ⟨h.held'.stores, h.held'.runs⟩
    log := by
      have hlog : ∀ w : World, answersTo { w with log := w.log ++ [(A, r)] } A =
          w.answersTo A ++ [r] := by
        intro w
        unfold answersTo
        rw [List.filter_append, List.map_append]
        simp
      rw [hlog, hlog, h.log] }

/-- A session does not notice what another one is told. -/
theorem Twin.tell_left (h : Twin A keys own own' w w') (hB : B ≠ A) (r : SessionReply) :
    Twin A keys own own' { w with log := w.log ++ [(B, r)] } w' :=
  { h with
    held := ⟨h.held.stores, h.held.runs⟩
    log := by
      rw [← h.log]
      unfold answersTo
      rw [List.filter_append, List.map_append]
      simp [hB] }

/-! ## Runs -/

/-- A run that is asked for belongs to the session of its task. -/
theorem owners_ask (s : Schedule) (key : TaskKey) :
    (s.move (.ask key)).owners = s.owners ++ [key.session] := by
  show List.map _ (s.runs ++ [_]) = _
  rw [List.map_append]
  rfl

/-- The runs keep their owners while they go on. -/
theorem owners_step (s : Schedule) (n : RunId) (a : RunStep) :
    (s.move (.step n a)).owners = s.owners := by
  cases hr : s.runs[n]? with
  | none => simp only [Schedule.move, hr]
  | some r =>
    rw [Schedule.move_step hr]
    unfold Schedule.owners
    dsimp only
    obtain ⟨hn, rfl⟩ := List.getElem?_eq_some_iff.1 hr
    rw [List.map_set, RunState.step_key, ← List.getElem_map fun r : RunState => r.key.session]
    · exact List.set_getElem_self _
    · rw [List.length_map]
      exact hn

/-- A run that has an owner was asked for by that session. -/
theorem owner_of_run {s : Schedule} {n : RunId} {key : SessionKey}
    (hn : s.owners[n]? = some key) : ∃ r, s.runs[n]? = some r ∧ r.key.session = key := by
  unfold Schedule.owners at hn
  rw [List.getElem?_map] at hn
  exact Option.map_eq_some_iff.1 hn

/-- There is an owner for each run. -/
theorem length_owners (s : Schedule) : s.owners.length = s.runs.length := List.length_map ..

/-- The session holds a run in both worlds. -/
theorem Twin.holdRuns (h : Twin A keys own own' w w') {n n' : RunId}
    (hn : Mates A w.schedule.owners w'.schedule.owners n n') (name : String) :
    Twin A keys own own' (w.holdRun A name n) (w'.holdRun A name n') :=
  { h with
    held := h.held.holdRun hn.left name
    held' := h.held'.holdRun hn.right name
    runs := by
      intro other
      unfold World.holdRun
      dsimp only
      split
      · exact .some hn
      · exact h.runs other }

/-- A session does not notice what runs are held for another one. -/
theorem Twin.holdRun_left (h : Twin A keys own own' w w') (hB : B ≠ A) {n : RunId}
    (hn : w.schedule.owners[n]? = some B) (name : String) :
    Twin A keys own own' (w.holdRun B name n) w' :=
  { h with
    held := h.held.holdRun hn name
    runs := by
      intro other
      unfold World.holdRun
      dsimp only
      rw [if_neg fun hc : A = B ∧ other = name => hB hc.1.symm]
      exact h.runs other }

/-- What is held is held still when one more run was asked for. -/
theorem Held.ask (h : w.Held own) (key : TaskKey) :
    Held own { w with schedule := w.schedule.move (.ask key) } := by
  refine ⟨h.stores, fun other name n hn => ?_⟩
  rw [owners_ask]
  exact getElem?_of_grown (List.prefix_append _ _) (h.runs other name n hn)

/-- The session asks for a run in both worlds. -/
theorem Twin.ask (h : Twin A keys own own' w w') (hkey : A ∈ keys) (name task : String) :
    (w.serve A (.ask name task)).1 = (w'.serve A (.ask name task)).1 ∧
      Twin A keys own own' (w.serve A (.ask name task)).2 (w'.serve A (.ask name task)).2 := by
  have hrun : ∀ w : World,
      (w.schedule.move (.ask ⟨A, task⟩)).runs[w.schedule.runs.length]? =
        some { key := ⟨A, task⟩ } :=
    fun _ => List.getElem?_concat_length
  have hnew := mates_concat h.server.ledger.count
  have hask : Twin A keys own own' { w with schedule := w.schedule.move (.ask ⟨A, task⟩) }
      { w' with schedule := w'.schedule.move (.ask ⟨A, task⟩) } := by
    refine ⟨?_, h.held.ask _, h.held'.ask _, ?_, h.stores, ?_, h.log⟩
    · rw [owners_ask, owners_ask]
      exact h.server.ask hkey
    · intro n n' hn
      rw [owners_ask, owners_ask] at hn
      rcases hn.of_concat h.server.ledger.count with hold | ⟨rfl, rfl⟩
      · have hlt := lt_of_getElem?_eq_some hold.left
        have hlt' := lt_of_getElem?_eq_some hold.right
        rw [length_owners] at hlt hlt'
        show (w.schedule.runs ++ [_])[n]? = (w'.schedule.runs ++ [_])[n']?
        rw [List.getElem?_append_left hlt, List.getElem?_append_left hlt', h.states n n' hold]
      · rw [length_owners, length_owners, hrun, hrun]
    · intro other
      rw [owners_ask, owners_ask]
      exact rel_mono (fun _ _ hn => hn.mono (List.prefix_append _ _) (List.prefix_append _ _))
        (h.runs other)
  rw [length_owners, length_owners] at hnew
  refine ⟨?_, hask.holdRuns ?_ name⟩
  · dsimp only [serve]
    rw [hrun, hrun]
  · rw [owners_ask, owners_ask]
    exact hnew

/-- Another session asks for a run. -/
theorem Twin.ask_left (h : Twin A keys own own' w w') (hB : B ≠ A) (hkey : B ∈ keys)
    (name task : String) : Twin A keys own own' (w.serve B (.ask name task)).2 w' := by
  have hask : Twin A keys own own' { w with schedule := w.schedule.move (.ask ⟨B, task⟩) } w' := by
    refine ⟨?_, h.held.ask _, h.held', ?_, h.stores, ?_, h.log⟩
    · rw [owners_ask]
      exact h.server.ask_left hB hkey
    · intro n n' hn
      rw [owners_ask] at hn
      have hold := (mates_concat_iff_of_ne hB).1 hn
      have hlt := lt_of_getElem?_eq_some hold.left
      rw [length_owners] at hlt
      show (w.schedule.runs ++ [_])[n]? = w'.schedule.runs[n']?
      rw [List.getElem?_append_left hlt, h.states n n' hold]
    · intro other
      rw [owners_ask]
      exact rel_mono (fun _ _ hn => hn.mono (List.prefix_append _ _) (List.prefix_refl _))
        (h.runs other)
  refine hask.holdRun_left hB ?_ name
  rw [owners_ask, ← length_owners]
  exact List.getElem?_concat_length

/-- Other states of the runs. -/
theorem Twin.setRuns (h : Twin A keys own own' w w') {runs runs' : List RunState}
    (howners : Schedule.owners { w.schedule with runs } = w.schedule.owners)
    (howners' : Schedule.owners { w'.schedule with runs := runs' } = w'.schedule.owners)
    (hstates : ∀ n n', Mates A w.schedule.owners w'.schedule.owners n n' → runs[n]? = runs'[n']?) :
    Twin A keys own own' { w with schedule := { w.schedule with runs } }
      { w' with schedule := { w'.schedule with runs := runs' } } where
  server := by
    rw [howners, howners']
    exact h.server
  held := by
    refine ⟨h.held.stores, fun key name n hn => ?_⟩
    rw [howners]
    exact h.held.runs key name n hn
  held' := by
    refine ⟨h.held'.stores, fun key name n hn => ?_⟩
    rw [howners']
    exact h.held'.runs key name n hn
  states := by
    rw [howners, howners']
    exact hstates
  stores := h.stores
  runs := by
    rw [howners, howners']
    exact h.runs
  log := h.log

/-- A run of the session goes on in both worlds. -/
theorem Twin.stepRun (h : Twin A keys own own' w w') (name : String) (a : RunStep) :
    (w.serve A (.step name a)).1 = (w'.serve A (.step name a)).1 ∧
      Twins A keys (w.serve A (.step name a)).2 (w'.serve A (.step name a)).2 := by
  dsimp only [serve]
  rcases rel_cases (h.runs name) with ⟨hn, hn'⟩ | ⟨n, n', hn, hn', hmates⟩
  · rw [hn, hn']
    exact ⟨rfl, h.twins⟩
  · rw [hn, hn']
    obtain ⟨r, hr, hA⟩ := owner_of_run hmates.left
    have hr' := (h.states n n' hmates).symm.trans hr
    obtain ⟨hstate, own₁, own₁', hown, hown', hs⟩ := RunState.step_twin h.server hA hmates a
    have howners := owners_step w.schedule n a
    have howners' := owners_step w'.schedule n' a
    rw [Schedule.move_step hr] at howners
    rw [Schedule.move_step hr'] at howners'
    have hlt := (List.getElem?_eq_some_iff.1 hr).1
    have hlt' := (List.getElem?_eq_some_iff.1 hr').1
    dsimp only
    rw [Schedule.move_step hr, Schedule.move_step hr']
    refine ⟨?_, own₁, own₁', (h.setServers hown hown' hs).setRuns howners howners' ?_⟩
    · dsimp only
      rw [List.getElem?_set_self hlt, List.getElem?_set_self hlt']
      exact congrArg (fun r => SessionReply.run (some r)) hstate
    · intro m m' hm
      by_cases heq : m = n
      · rw [heq, (hm.eq_iff hmates).1 heq, List.getElem?_set_self hlt, List.getElem?_set_self hlt']
        exact congrArg some hstate
      · rw [List.getElem?_set_ne (Ne.symm heq),
          List.getElem?_set_ne (Ne.symm (mt (hm.eq_iff hmates).2 heq))]
        exact h.states m m' hm

/-- A run of another session goes on. -/
theorem Twin.stepRun_left (h : Twin A keys own own' w w') (hB : B ≠ A) (name : String)
    (a : RunStep) : Twins A keys (w.serve B (.step name a)).2 w' := by
  dsimp only [serve]
  cases hn : w.runs B name with
  | none => exact h.twins
  | some n =>
    have howner := h.held.runs B name n hn
    obtain ⟨r, hr, hkey⟩ := owner_of_run howner
    obtain ⟨own₁, own₁', hown, hown', hs⟩ := RunState.step_left h.server (hkey ▸ hB)
      (hkey ▸ howner) a
    have howners := owners_step w.schedule n a
    rw [Schedule.move_step hr] at howners
    dsimp only
    rw [Schedule.move_step hr]
    refine ⟨own₁, own₁', (h.setServers hown hown' hs).setRuns howners rfl ?_⟩
    intro m m' hm
    rw [List.getElem?_set_ne (hm.ne_of_other howner hB).symm]
    exact h.states m m' hm

/-! ## Stores -/

/-- The session finds a store in both worlds. -/
theorem Twin.found (h : Twin A keys own own' w w') {s s' : Server} {o o' : Opened}
    (hown : own <+: own₁) (hown' : own' <+: own₁')
    (hs : Server.Twin A keys own₁ own₁' w.schedule.owners w'.schedule.owners s s')
    (hmates : Mates A own₁ own₁' o.store o'.store) (hcreated : o.created = o'.created)
    (name : String) :
    (w.found A name o s).1 = (w'.found A name o' s').1 ∧
      Twins A keys (w.found A name o s).2 (w'.found A name o' s').2 := by
  have hservers := h.setServers hown hown' hs
  refine ⟨?_, (hservers.holdStores hmates name).twins⟩
  -- the store is held under the same names
  have hheld : ∀ n, w.stores A n = some o.store ↔ w'.stores A n = some o'.store := by
    intro n
    rcases rel_cases (hservers.stores n) with ⟨hi, hi'⟩ | ⟨i, i', hi, hi', hmates'⟩
    · change w.stores A n = none at hi
      change w'.stores A n = none at hi'
      rw [hi, hi']
      exact iff_of_false (Option.some_ne_none _).symm (Option.some_ne_none _).symm
    · change w.stores A n = some i at hi
      change w'.stores A n = some i' at hi'
      rw [hi, hi', Option.some.injEq, Option.some.injEq]
      exact hmates'.eq_iff hmates
  unfold World.found
  dsimp only
  rw [hcreated, hs.stores _ _ hmates]
  simp only [hheld]

/-- A session does not notice that another one finds a store. -/
theorem Twin.found_left (h : Twin A keys own own' w w') (hB : B ≠ A) {s : Server} {o : Opened}
    (hown : own <+: own₁)
    (hs : Server.Twin A keys own₁ own' w.schedule.owners w'.schedule.owners s w'.server)
    (hstore : own₁[o.store]? = some B) (name : String) :
    Twins A keys (w.found B name o s).2 w' :=
  ((h.setServers hown (List.prefix_refl own') hs).holdStore_left hB hstore name).twins

end World

namespace Server

variable {A B : SessionKey} {keys own own' asked asked' : List SessionKey} {s s' : Server}
  {id id' : StoreId}

/-- To put a record is to change one store, apart from the identifier that is given out. -/
theorem put_eq (s : Server) (id : StoreId) (table : String) (r : Record) :
    s.put id table r =
      Server.onStore
        { s with
          issued := if r.id.isEmpty && !(s.store id).poisoned then s.issued + 1 else s.issued }
        id fun store => store.put s.clock (identifier (s.issued + 1)) table r := by
  unfold Server.put Server.issue
  dsimp only
  split <;> rfl

/-- To create a task is to change one store, apart from the identifier that is given out. -/
theorem createTask_eq (s : Server) (id : StoreId) (session : SessionKey) (d : TaskDraft) :
    s.createTask id session d =
      Server.onStore { s with issued := s.issued + 1 } id fun store =>
        store.createTask session (identifier (s.issued + 1)) s.clock d :=
  rfl

/-- A change of a task at the time that the clocks show. -/
theorem Twin.modifyTask (h : Twin A keys own own' asked asked' s s') (hid : Mates A own own' id id')
    (session : SessionKey) (task : String) (change : Int64 → Task → Task) :
    (s.onStore id fun store => store.modifyTask session task (change s.clock)).1 =
        (s'.onStore id' fun store => store.modifyTask session task (change s'.clock)).1 ∧
      Twin A keys own own' asked asked'
        (s.onStore id fun store => store.modifyTask session task (change s.clock)).2
        (s'.onStore id' fun store => store.modifyTask session task (change s'.clock)).2 := by
  rw [← h.clock]
  exact h.onStore hid fun store => store.settings_modifyTask session task (change s.clock)

/-- What is done with a store of the session, and the answer to it. -/
theorem Twin.useStore (h : Twin A keys own own' asked asked' s s') (hid : Mates A own own' id id')
    (hissued : s.issued = s'.issued) (o : StoreOperation) :
    s.reply id o = s'.reply id' o ∧
      Twin A keys own own' asked asked' (s.useStore id o) (s'.useStore id' o) := by
  have hclock := h.clock
  cases o with
  | put table r =>
    dsimp only [reply, Server.useStore]
    rw [put_eq, put_eq, ← hclock, ← hissued]
    obtain ⟨hresult, htwin⟩ := (h.setIssued _ _).onStore hid fun store =>
      store.settings_put s.clock (identifier (s.issued + 1)) table r
    exact ⟨congrArg StoreReply.record hresult, htwin⟩
  | createTask session d =>
    dsimp only [reply, Server.useStore]
    rw [createTask_eq, createTask_eq, ← hclock, ← hissued]
    obtain ⟨hresult, htwin⟩ := (h.setIssued _ _).onStore hid fun store =>
      store.settings_createTask session (identifier (s.issued + 1)) s.clock d
    exact ⟨congrArg StoreReply.task hresult, htwin⟩
  | modify table name change =>
    obtain ⟨hresult, htwin⟩ := h.onStore hid fun store => store.settings_modify table name change
    exact ⟨congrArg StoreReply.changed hresult, htwin⟩
  | delete table name =>
    obtain ⟨hresult, htwin⟩ := h.onStore hid fun store => store.settings_delete table name
    exact ⟨congrArg StoreReply.row hresult, htwin⟩
  | deleteTable table =>
    obtain ⟨hresult, htwin⟩ := h.onStore hid fun store => store.settings_deleteTable table
    exact ⟨congrArg StoreReply.count hresult, htwin⟩
  | clear =>
    obtain ⟨hresult, htwin⟩ := h.onStore hid fun store => store.settings_clear
    exact ⟨congrArg StoreReply.done hresult, htwin⟩
  | updateTask session task u =>
    obtain ⟨hresult, htwin⟩ := h.modifyTask hid session task fun now t => u.apply t now
    exact ⟨congrArg StoreReply.task hresult, htwin⟩
  | cancelTask session task =>
    obtain ⟨hresult, htwin⟩ := h.modifyTask hid session task fun now t => t.cancel now
    exact ⟨congrArg StoreReply.task hresult, htwin⟩
  | retryTask session task =>
    obtain ⟨hresult, htwin⟩ := h.modifyTask hid session task fun now t => t.retry now
    exact ⟨congrArg StoreReply.task hresult, htwin⟩
  | deleteTask session task =>
    obtain ⟨hresult, htwin⟩ := h.onStore hid fun store => store.settings_deleteTask session task
    exact ⟨congrArg StoreReply.task hresult, htwin⟩
  | trimTasks session limits =>
    obtain ⟨hresult, htwin⟩ := h.onStore hid fun store => store.settings_trimTasks session limits
    exact ⟨congrArg StoreReply.count hresult, htwin⟩
  | save =>
    obtain ⟨hresult, htwin⟩ := h.save hid
    exact ⟨congrArg StoreReply.done hresult, htwin⟩
  | load =>
    obtain ⟨hresult, htwin⟩ := h.load hid
    exact ⟨congrArg StoreReply.done hresult, htwin⟩
  | start =>
    obtain ⟨hresult, htwin⟩ := h.start hid
    exact ⟨congrArg StoreReply.loaded hresult, htwin⟩

/-- What is done with a store of another session. -/
theorem Twin.useStore_left (h : Twin A keys own own' asked asked' s s') (hB : B ≠ A)
    (hid : own[id]? = some B) (o : StoreOperation) :
    Twin A keys own own' asked asked' (s.useStore id o) s' := by
  cases o with
  | put table r =>
    dsimp only [Server.useStore]
    rw [put_eq]
    exact (h.setIssued _ s'.issued).onStore_left hB hid fun store => store.settings_put _ _ table r
  | createTask session d =>
    exact (h.setIssued _ s'.issued).onStore_left hB hid fun store =>
      store.settings_createTask session _ _ d
  | modify table name change =>
    exact h.onStore_left hB hid fun store => store.settings_modify table name change
  | delete table name => exact h.onStore_left hB hid fun store => store.settings_delete table name
  | deleteTable table => exact h.onStore_left hB hid fun store => store.settings_deleteTable table
  | clear => exact h.onStore_left hB hid fun store => store.settings_clear
  | updateTask session task u =>
    exact h.onStore_left hB hid fun store => store.settings_modifyTask session task _
  | cancelTask session task =>
    exact h.onStore_left hB hid fun store => store.settings_modifyTask session task _
  | retryTask session task =>
    exact h.onStore_left hB hid fun store => store.settings_modifyTask session task _
  | deleteTask session task =>
    exact h.onStore_left hB hid fun store => store.settings_deleteTask session task
  | trimTasks session limits =>
    exact h.onStore_left hB hid fun store => store.settings_trimTasks session limits
  | save => exact h.save_left hB hid
  | load => exact h.load_left hB hid
  | start => exact h.start_left hB hid

end Server

namespace World

variable {A B : SessionKey} {keys own own' : List SessionKey} {w w' : World}

/-! ## Events -/

/-- **What is asked for the session is answered alike in both worlds.** -/
theorem Twin.serve (h : Twin A keys own own' w w') (hkey : A ∈ keys) (e : SessionEvent) :
    (w.serve A e).1 = (w'.serve A e).1 ∧ Twins A keys (w.serve A e).2 (w'.serve A e).2 := by
  cases e with
  | lookup name =>
    obtain ⟨own₁, own₁', hown, hown', hs, hmates, hcreated, -⟩ := h.server.lookup hkey
    exact h.found hown hown' hs hmates hcreated name
  -- a lookup may have made a store in each world, so the owners grow with it
  | openSession name =>
    obtain ⟨own₁, own₁', hown, hown', hs, hresult⟩ := h.server.openSession hkey
    dsimp only [World.serve]
    generalize w.server.openSession A = x at hs hresult ⊢
    generalize w'.server.openSession A = x' at hs hresult ⊢
    obtain ⟨result, s⟩ := x
    obtain ⟨result', s'⟩ := x'
    rcases hresult with ⟨f, rfl, rfl⟩ | ⟨o, o', rfl, rfl, hmates, hcreated⟩
    · exact ⟨rfl, (h.setServers hown hown' hs).twins⟩
    · exact h.found hown hown' hs hmates hcreated name
  | existing name =>
    dsimp only [World.serve, Server.existing?]
    rcases rel_cases h.server.session with ⟨hx, hx'⟩ | ⟨x, x', hx, hx', -, hmates⟩
    · rw [hx, hx']
      exact ⟨rfl, h.twins⟩
    · rw [hx, hx']
      have hopened : Mates A own own' (Opened.mk A x.store false).store
          (Opened.mk A x'.store false).store :=
        hmates
      exact h.found (List.prefix_refl own) (List.prefix_refl own') h.server hopened rfl name
  | remove =>
    obtain ⟨hresult, hs⟩ := h.server.removeSession
    exact ⟨congrArg SessionReply.flag hresult, h.setServersFrom hs.from⟩
  | query name q =>
    dsimp only [World.serve]
    rcases rel_cases (h.stores name) with ⟨hi, hi'⟩ | ⟨i, i', hi, hi', hmates⟩
    · rw [hi, hi']
      exact ⟨rfl, h.twins⟩
    · rw [hi, hi']
      refine ⟨?_, h.twins⟩
      dsimp only
      rw [h.server.stores i i' hmates]
  | change name issued o =>
    dsimp only [World.serve]
    rcases rel_cases (h.stores name) with ⟨hi, hi'⟩ | ⟨i, i', hi, hi', hmates⟩
    · rw [hi, hi']
      exact ⟨rfl, h.twins⟩
    · rw [hi, hi']
      obtain ⟨hresult, hs⟩ := (h.server.setIssued issued issued).useStore hmates rfl o
      exact ⟨congrArg SessionReply.store hresult, h.setServersFrom hs.from⟩
  | ask name task =>
    obtain ⟨hresult, htwin⟩ := h.ask hkey name task
    exact ⟨hresult, htwin.twins⟩
  | step name a => exact h.stepRun name a
  | isCancelled name =>
    dsimp only [World.serve]
    rcases rel_cases (h.runs name) with ⟨hn, hn'⟩ | ⟨n, n', hn, hn', hmates⟩
    · rw [hn, hn']
      exact ⟨rfl, h.twins⟩
    · rw [hn, hn']
      exact ⟨congrArg SessionReply.flag (h.server.ledger.isCancelled hmates), h.twins⟩
  | isRunning task =>
    exact ⟨congrArg SessionReply.flag (rel_isSome (h.server.ledger.holder ⟨A, task⟩ rfl)), h.twins⟩
  | cancel task =>
    have hA : (TaskKey.mk A task).session = A := rfl
    obtain ⟨hresult, hs⟩ := h.server.cancelRun hA
    exact ⟨congrArg SessionReply.flag hresult, h.setServersFrom hs⟩

/-- **What is asked for another session is not noticed.** -/
theorem Twin.serve_left (h : Twin A keys own own' w w') (hB : B ≠ A) (hkey : B ∈ keys)
    (e : SessionEvent) : Twins A keys (w.serve B e).2 w' := by
  cases e with
  | lookup name =>
    obtain ⟨own₁, hown, hs, hstore, -⟩ := h.server.lookup_left hB hkey
    exact h.found_left hB hown hs hstore name
  | openSession name =>
    obtain ⟨own₁, hown, hs, hstore⟩ := h.server.openSession_left hB hkey
    dsimp only [World.serve]
    generalize w.server.openSession B = x at hs hstore ⊢
    obtain ⟨f | o, s⟩ := x
    · exact (h.setServers hown (List.prefix_refl own') hs).twins
    · exact h.found_left hB hown hs (hstore o rfl) name
  | existing name =>
    dsimp only [World.serve, Server.existing?]
    cases hx : w.server.pool.find? B with
    | none => exact h.twins
    | some x =>
      exact h.found_left hB (List.prefix_refl own) h.server (h.server.owned.live B x hx).2 name
  | remove => exact h.setServersFrom (h.server.removeSession_left hB).from
  | query name q =>
    dsimp only [World.serve]
    split
    · exact h.twins
    · exact h.twins
  | change name issued o =>
    dsimp only [World.serve]
    cases hi : w.stores B name with
    | none => exact h.twins
    | some i =>
      have hs := (h.server.setIssued issued w'.server.issued).useStore_left hB
        (h.held.stores B name i hi) o
      exact h.setServersFrom hs.from
  | ask name task => exact (h.ask_left hB hkey name task).twins
  | step name a => exact h.stepRun_left hB name a
  | isCancelled name =>
    dsimp only [World.serve]
    split
    · exact h.twins
    · exact h.twins
  | isRunning task => exact h.twins
  | cancel task =>
    have hkey : (TaskKey.mk B task).session ≠ A := hB
    exact h.setServersFrom (h.server.cancelRun_left hkey)

/-- **What is asked for all sessions leaves the worlds alike.** -/
theorem Twin.service (h : Twin A keys own own' w w') (e : ServiceEvent) :
    Twins A keys { w with schedule := w.schedule.move e.move }
      { w' with schedule := w'.schedule.move e.move } := by
  cases e with
  | setClock now => exact h.setServersFrom (h.server.setClock now).from
  | expireSessions => exact h.setServersFrom h.server.expireSessions.from
  | sweep => exact h.setServersFrom h.server.sweep.from
  | startTimer => exact h.setServersFrom h.server.startTimer.from
  | stopTimer => exact h.setServersFrom (h.server.withTimer none).from
  | tick => exact h.setServersFrom h.server.tick.from
  | updateOptions u => exact h.setServersFrom (h.server.updateOptions u).from
  | cancelAll => exact h.setServersFrom h.server.cancelAll

/-- An event that does not concern the session happens in one world. -/
theorem Twins.step_left (h : Twins A keys w w') {e : Event} (hkeys : ∀ key ∈ e.key?, key ∈ keys)
    (he : e.concerns A = false) : Twins A keys (w.step e) w' := by
  obtain ⟨own, own', h⟩ := h
  cases e with
  | service e => cases he
  | session raw e =>
    have hB : SessionKey.sanitize raw ≠ A := of_decide_eq_false he
    obtain ⟨own₁, own₁', hserve⟩ := h.serve_left hB (hkeys _ rfl) e
    exact (hserve.tell_left hB _).twins

/-- An event that concerns the session happens in both worlds. -/
theorem Twins.step (h : Twins A keys w w') {e : Event} (hkeys : ∀ key ∈ e.key?, key ∈ keys)
    (he : e.concerns A = true) : Twins A keys (w.step e) (w'.step e) := by
  obtain ⟨own, own', h⟩ := h
  cases e with
  | service e => exact h.service e
  | session raw e =>
    have hA : SessionKey.sanitize raw = A := of_decide_eq_true he
    obtain ⟨hreply, own₁, own₁', hserve⟩ := h.serve (hA ▸ hkeys _ rfl) e
    have htell := hserve.tell (w.serve A e).1
    dsimp only [World.step]
    rw [hA]
    refine ⟨own₁, own₁', ?_⟩
    rw [← hreply]
    exact htell

/-! ## Scripts -/

/-- In a fresh server nobody owns anything. -/
theorem owned_of_ofConfig {c : Config} {epoch issued : Nat} {files : FileTree} {server : Server}
    (hs : Server.ofConfig c epoch files issued = .ok server)
    (hroom : keys.length ≤ c.session.maxSessions.toNat) : server.Owned keys [] [] := by
  unfold Server.ofConfig at hs
  split at hs
  · cases hs
  · split at hs
    · cases hs
    · cases hs
      refine ⟨hroom, SessionPool.keyed_empty _, ?_, rfl, ?_, ?_, List.nodup_nil, ?_, ?_⟩
      · intro key session hfind
        cases hfind
      · intro id key hid
        cases hid
      · intro key hkey
        cases hkey
      · intro e he
        cases he
      · intro n hn
        cases hn

/-- Before a script starts there is nothing to tell apart. -/
theorem twins_ofServer {c : Config} {epoch issued : Nat} {files : FileTree} {server : Server}
    (hs : Server.ofConfig c epoch files issued = .ok server)
    (hroom : keys.length ≤ c.session.maxSessions.toNat) (A : SessionKey) :
    Twins A keys (ofServer server) (ofServer server) := by
  have howned := owned_of_ofConfig hs hroom
  have hmates : ∀ {i j : Nat}, ¬ Mates A ([] : List SessionKey) [] i j := by
    intro i j hm
    cases hm.left
  have hfind : server.pool.find? A = none := by
    rw [Server.ofConfig_pool hs]
    rfl
  refine ⟨[], [], ?_⟩
  constructor
  · refine ⟨howned, howned, rfl, rfl, rfl, rfl, rfl, ?_, ?_, rfl, ?_, ?_⟩
    · show Option.Rel _ (server.pool.find? A) (server.pool.find? A)
      rw [hfind]
      exact .none
    · exact fun _ _ hm => (hmates hm).elim
    · exact fun path _ => FileTree.SameAt.refl path _
    · refine ⟨fun key hkey => ?_, fun _ _ hm => (hmates hm).elim, rfl⟩
      show Option.Rel _ (server.ledger.holder? key) (server.ledger.holder? key)
      rw [Server.ofConfig_ledger hs]
      exact .none
  · exact ⟨fun _ _ _ hid => (Option.some_ne_none _ hid.symm).elim,
      fun _ _ _ hn => (Option.some_ne_none _ hn.symm).elim⟩
  · exact ⟨fun _ _ _ hid => (Option.some_ne_none _ hid.symm).elim,
      fun _ _ _ hn => (Option.some_ne_none _ hn.symm).elim⟩
  · exact fun _ _ hm => (hmates hm).elim
  · exact fun _ => .none
  · exact fun _ => .none
  · rfl

/-- The content of the session, and for how long it has idled, are the same. -/
theorem Twin.view_eq (h : Twin A keys own own' w w') : w.view A = w'.view A := by
  unfold World.view
  rcases rel_cases h.server.session with ⟨hx, hx'⟩ | ⟨x, x', hx, hx', hidle, hmates⟩
  · rw [hx, hx']
    rfl
  · rw [hx, hx', Option.map_some, Option.map_some, h.server.stores _ _ hmates, h.server.now, hidle]

/-- **Sessions do not interfere.**  In a script that addresses no more sessions than there may be,
leave out what is addressed to other sessions than `A`.  At every point the answers for `A` are the
same, and so are the content of `A` and the time for which it has idled. -/
theorem same_without_others {c : Config} {epoch issued : Nat} {files : FileTree} {server : Server}
    (hs : Server.ofConfig c epoch files issued = .ok server) (script : List Event)
    (hroom : (script.filterMap Event.key?).dedup.length ≤ c.session.maxSessions.toNat)
    (A : SessionKey) (sofar : List Event) (hsofar : sofar <+: script) :
    ((ofServer server).play (sofar.filter (Event.concerns A))).answersTo A =
        ((ofServer server).play sofar).answersTo A ∧
      ((ofServer server).play (sofar.filter (Event.concerns A))).view A =
        ((ofServer server).play sofar).view A := by
  have hkeys : ∀ e ∈ sofar, ∀ key ∈ e.key?, key ∈ (script.filterMap Event.key?).dedup := by
    intro e he key hkey
    rw [List.mem_dedup, List.mem_filterMap]
    exact ⟨e, hsofar.subset he, hkey⟩
  have hfilter : (sofar.filter (Event.concerns A)).filter (Event.concerns A) =
      sofar.filter (Event.concerns A) := by
    rw [List.filter_filter]
    simp
  have htwins : Twins A (script.filterMap Event.key?).dedup
      ((ofServer server).play (sofar.filter (Event.concerns A)))
      ((ofServer server).play sofar) := by
    unfold World.play
    refine unwind (T := Twins A _) ?_ ?_ ?_ hfilter (twins_ofServer hs hroom A)
    · intro w w' e he hother h
      exact h.step_left (hkeys e (List.mem_of_mem_filter he)) hother
    · intro w w' e he hother h
      exact (h.symm.step_left (hkeys e he) hother).symm
    · intro w w' e he hmine h
      exact h.step (hkeys e (List.mem_of_mem_filter he)) hmine
  obtain ⟨own, own', h⟩ := htwins
  exact ⟨h.log, h.view_eq⟩

/-- The session `a` looks on while the session `b` creates a task and runs it, and both are swept
and trimmed. -/
def sampleScript : List Event := [
  .session "a" (.lookup "own"),
  .session "b" (.openSession "own"),
  .session "b" (.change "own" 0 (.createTask (.sanitize "b") { name := "t" })),
  .session "b" (.ask "run" (identifier 1)),
  .session "b" (.step "run" .accept),
  .service (.setClock 5),
  .session "b" (.step "run" .begin),
  .service .sweep,
  .session "b" (.step "run" (.report .hundred none none)),
  .session "a" (.query "own" (.all Task.table)),
  .service .cancelAll,
  .session "b" .remove]

/-- What the session `b` does is nothing to the session `a`. -/
theorem same_without_others_sample :
    Server.ofConfig {} 0 .empty 0 = .ok Schedule.sampleServer ∧
      (sampleScript.filterMap Event.key?).dedup.length ≤
        (({} : Config).session.maxSessions).toNat ∧
      sampleScript <+: sampleScript ∧
      ((ofServer Schedule.sampleServer).play
            (sampleScript.filter (Event.concerns (.sanitize "a")))).answersTo (.sanitize "a") =
          ((ofServer Schedule.sampleServer).play sampleScript).answersTo (.sanitize "a") ∧
        ((ofServer Schedule.sampleServer).play
            (sampleScript.filter (Event.concerns (.sanitize "a")))).view (.sanitize "a") =
          ((ofServer Schedule.sampleServer).play sampleScript).view (.sanitize "a") := by
  have hroom : (sampleScript.filterMap Event.key?).dedup.length ≤
      (({} : Config).session.maxSessions).toNat := by
    decide +kernel
  exact ⟨Schedule.ofConfig_sampleServer, hroom, List.prefix_refl _,
    same_without_others Schedule.ofConfig_sampleServer sampleScript hroom _ sampleScript
      (List.prefix_refl _)⟩

end World

end SessionTasks
