/-
# Listing tasks

A listing is asked for by an example, so rows are selected by their columns.  Where every row holds
a task as it is written, the columns say what the task says: the listing has the tasks of the
session that are as the selection demands, oldest first, and the counts are the lengths of
listings.

* `TaskFilter.matches_iff_selects` : the columns of a task are selected if the task is;
* `Store.lists_of_written` : what is listed, and in which order;
* `Store.counts_of_tasks` : what is counted.
-/
import SessionTasks.Proofs.Example
import SessionTasks.Proofs.Task.Newest
namespace SessionTasks

/-- Among names that are distinct, what is found under a name is what its slot has. -/
theorem Entries.get?_reverse_given_eq_some_iff {α : Type} {slots : List (String × Option α)}
    (hnodup : (slots.map Prod.fst).Nodup) {key : String} {v : α} :
    get? key (given slots).reverse = some v ↔ (key, some v) ∈ slots := by
  constructor
  · intro h
    obtain ⟨e, he, hv⟩ := List.mem_flatMap.1 (List.mem_reverse.1 (mem_of_get? h))
    obtain ⟨w, hw, heq⟩ := Option.map_eq_some_iff.1 (Option.mem_toList.1 hv)
    cases heq
    rwa [← hw]
  · intro h
    exact get?_reverse_given hnodup h

/-! ## Columns that are asked for -/

namespace Record

/-- The record has a value in the column that obeys the rule of the value asked for. -/
def Obeys (r : Record) (column : String) (wanted : Json) : Prop :=
  ∃ v, r.field? column = some v ∧ (FieldRule.ofJson wanted).Asks v

/-- A row obeys a text when its column has that very text. -/
theorem obeys_text_iff {r : Record} {column text : String} :
    r.Obeys column (.str text) ↔ r.field? column = some (.str text) := by
  constructor
  · rintro ⟨v, hv, hasks⟩
    cases hasks with
    | equals h =>
      cases h with
      | str => exact hv
      | right hnumber => cases hnumber
  · intro h
    exact ⟨_, h, .equals (.str text)⟩

/-- A row obeys some metadata when its column has an object that agrees with it. -/
theorem obeys_map_iff {r : Record} {column : String} {wanted : KeyMap Json} :
    r.Obeys column (.ofMap wanted) ↔
      ∃ members, r.field? column = some (.obj members) ∧
        (Json.ofMap wanted).agrees (.obj members) = true := by
  constructor
  · rintro ⟨v, hv, hasks⟩
    cases hasks with
    | object h => exact ⟨_, hv, h⟩
  · rintro ⟨members, hv, h⟩
    exact ⟨_, hv, .object h⟩

end Record

/-- Statuses have different names. -/
theorem TaskStatus.name_injective : Function.Injective TaskStatus.name := by
  intro a b h
  have hread := Task.status_ofJson?_name a
  rw [h, Task.status_ofJson?_name] at hread
  exact (Option.some.inj hread).symm

/-! ## Selections -/

namespace TaskFilter

variable {f : TaskFilter} {session : SessionKey} {r : Record} {t : Task}

/-- The columns that a selection asks about, with the values that it gives. -/
def slots (f : TaskFilter) (session : SessionKey) : List (String × Option Json) :=
  [("status", f.status.map fun s => .str s.name), ("name", f.name.map .str),
    ("userId", f.userId.map .str), ("metadata", f.metadata.map .ofMap),
    ("sessionKey", some (.str session.text))]

/-- The example gives one rule for each value, by its shape. -/
theorem toExample_eq (f : TaskFilter) (session : SessionKey) :
    f.toExample session =
      .ofCalls ((Entries.given (f.slots session)).map fun e => .value e.1 e.2) := by
  unfold toExample slots Entries.given
  cases f.status <;> cases f.name <;> cases f.userId <;> cases f.metadata <;> rfl

/-- A filter names each column at most once. -/
theorem names_slots_nodup (f : TaskFilter) (session : SessionKey) :
    ((f.slots session).map Prod.fst).Nodup := by
  show ["status", "name", "userId", "metadata", "sessionKey"].Nodup
  decide

/-- A record is selected if its columns obey the rules of the values that are given. -/
theorem matches_toExample :
    (f.toExample session).Matches r = true ↔
      ∀ column v, (column, some v) ∈ f.slots session → r.Obeys column v := by
  have hrule : ∀ column rule,
      IsLast (fun given => given.1 = column)
          (((Entries.given (f.slots session)).map fun e => Example.Call.value e.1 e.2).map
            Example.Call.given) (column, rule) ↔
        ∃ v, (column, some v) ∈ f.slots session ∧ FieldRule.ofJson v = rule := by
    intro column rule
    have hgiven : (Example.Call.given ∘ fun e : String × Json => .value e.1 e.2) =
        fun e => (e.1, FieldRule.ofJson e.2) := rfl
    rw [← Entries.get?_reverse_eq_some_iff, List.map_map, hgiven, ← List.map_reverse,
      Entries.get?_map_snd, Option.map_eq_some_iff]
    simp only [Entries.get?_reverse_given_eq_some_iff (f.names_slots_nodup session)]
  rw [toExample_eq, Example.matches_ofCalls]
  constructor
  · intro h column v hv
    exact h column _ ((hrule column _).2 ⟨v, hv, rfl⟩)
  · intro h column rule hlast
    obtain ⟨v, hv, rfl⟩ := (hrule column rule).1 hlast
    exact h column v hv

/-- The parts of a selection are asked for one by one. -/
theorem matches_iff_obeys :
    (f.toExample session).Matches r = true ↔
      (∀ status ∈ f.status, r.Obeys "status" (.str status.name)) ∧
        (∀ name ∈ f.name, r.Obeys "name" (.str name)) ∧
        (∀ userId ∈ f.userId, r.Obeys "userId" (.str userId)) ∧
        (∀ metadata ∈ f.metadata, r.Obeys "metadata" (.ofMap metadata)) ∧
        r.Obeys "sessionKey" (.str session.text) := by
  rw [matches_toExample]
  simp only [slots, List.mem_cons, Prod.mk.injEq, List.not_mem_nil, or_false]
  constructor
  · intro h
    refine ⟨fun a ha => ?_, fun a ha => ?_, fun a ha => ?_, fun a ha => ?_, ?_⟩
    · exact h _ _ (.inl ⟨rfl, by rw [Option.mem_def.1 ha]; rfl⟩)
    · exact h _ _ (.inr (.inl ⟨rfl, by rw [Option.mem_def.1 ha]; rfl⟩))
    · exact h _ _ (.inr (.inr (.inl ⟨rfl, by rw [Option.mem_def.1 ha]; rfl⟩)))
    · exact h _ _ (.inr (.inr (.inr (.inl ⟨rfl, by rw [Option.mem_def.1 ha]; rfl⟩))))
    · exact h _ _ (.inr (.inr (.inr (.inr ⟨rfl, rfl⟩))))
  · rintro ⟨hstatus, hname, huser, hnoted, howner⟩ column v
      (⟨rfl, hv⟩ | ⟨rfl, hv⟩ | ⟨rfl, hv⟩ | ⟨rfl, hv⟩ | ⟨rfl, hv⟩)
    · obtain ⟨a, ha, rfl⟩ := Option.map_eq_some_iff.1 hv.symm
      exact hstatus a ha
    · obtain ⟨a, ha, rfl⟩ := Option.map_eq_some_iff.1 hv.symm
      exact hname a ha
    · obtain ⟨a, ha, rfl⟩ := Option.map_eq_some_iff.1 hv.symm
      exact huser a ha
    · obtain ⟨a, ha, rfl⟩ := Option.map_eq_some_iff.1 hv.symm
      exact hnoted a ha
    · cases hv
      exact howner

/-- The task is as the selection demands: a part that is given is the same in the task, and what is
noted down agrees. -/
structure Selects (f : TaskFilter) (t : Task) : Prop where
  status : ∀ status ∈ f.status, t.status = status
  name : ∀ name ∈ f.name, t.name = name
  userId : ∀ userId ∈ f.userId, t.userId = some userId
  metadata : ∀ wanted ∈ f.metadata,
    ∃ noted, t.metadata = some noted ∧ (Json.ofMap wanted).agrees (.ofMap noted) = true

/-- **The columns of a task are selected if the task is**, and the session owns it. -/
theorem matches_iff_selects (hr : r.fields = t.toRecord.fields) :
    (f.toExample session).Matches r = true ↔ f.Selects t ∧ t.sessionKey = session.text := by
  -- every column that a filter names is a slot of the task
  have hcolumn : ∀ column v, (column, v) ∈ t.slots → r.field? column = v := by
    intro column v he
    rw [r.field?_of_not_reserved (Task.not_reserved_of_mem_slots he), hr]
    exact t.get?_toRecord he
  have hstatus : ∀ status, r.Obeys "status" (.str status.name) ↔ t.status = status := by
    intro status
    rw [Record.obeys_text_iff, hcolumn _ (some (.str t.status.name)) (by simp [Task.slots]),
      Option.some_inj, Json.str.injEq]
    exact TaskStatus.name_injective.eq_iff
  have hname : ∀ name, r.Obeys "name" (.str name) ↔ t.name = name := by
    intro name
    rw [Record.obeys_text_iff, hcolumn _ (some (.str t.name)) (by simp [Task.slots]),
      Option.some_inj, Json.str.injEq]
  have huser : ∀ userId, r.Obeys "userId" (.str userId) ↔ t.userId = some userId := by
    intro userId
    rw [Record.obeys_text_iff, hcolumn _ (t.userId.map .str) (by simp [Task.slots])]
    simp
  have hnoted : ∀ wanted, r.Obeys "metadata" (.ofMap wanted) ↔
      ∃ noted, t.metadata = some noted ∧ (Json.ofMap wanted).agrees (.ofMap noted) = true := by
    intro wanted
    rw [Record.obeys_map_iff, hcolumn _ (t.metadata.map .ofMap) (by simp [Task.slots])]
    cases t.metadata <;> simp [Json.ofMap]
  have howner : r.Obeys "sessionKey" (.str session.text) ↔ t.sessionKey = session.text := by
    rw [Record.obeys_text_iff, hcolumn _ (some (.str t.sessionKey)) (by simp [Task.slots]),
      Option.some_inj, Json.str.injEq]
  rw [matches_iff_obeys, howner]
  simp only [hstatus, hname, huser, hnoted]
  constructor
  · rintro ⟨hstatus, hname, huser, hnoted, howner⟩
    exact ⟨⟨hstatus, hname, huser, hnoted⟩, howner⟩
  · rintro ⟨h, howner⟩
    exact ⟨h.status, h.name, h.userId, h.metadata, howner⟩

end TaskFilter

/-! ## What is listed -/

/-- The record is read as a task and has the columns of the task, no others. -/
def Record.IsWritten (r : Record) : Prop :=
  ∃ t, Task.ofRecord r = .ok t ∧ r.fields = t.toRecord.fields

/-- The record is read as a task with the property and has the columns of the task, no others. -/
def Record.Writes (P : Task → Prop) (r : Record) : Prop :=
  ∃ t, Task.ofRecord r = .ok t ∧ r.fields = t.toRecord.fields ∧ P t

/-- A row with the columns of a task is written by that task. -/
theorem Record.writes_of_fields {P : Task → Prop} {r : Record} {t : Task}
    (hr : r.fields = t.toRecord.fields) (hid : r.id = t.id) (hfinite : t.progress.isFinite = true)
    (ht : P t) : r.Writes P :=
  ⟨t, (Task.ofRecord_of_fields hr).2 ⟨hfinite, by rw [hid]⟩, hr, ht⟩

/-- **Tasks are stored as they are written**, and written again when they change, with what new
tasks have and changes keep. -/
theorem Record.kept_writes {now : Int64} {P : Task → Prop}
    (hstart : ∀ (d : TaskDraft) (id : String) (session : SessionKey), P (d.start id session now))
    (hedit : ∀ (f : Task → Task) (t : Task), TaskEdit now f → P t → P (f t)) :
    Record.Kept now (Record.Writes P) where
  start := by
    intro d session issued existing fresh
    have hzero : Binary64.zero.isFinite = true := by decide +kernel
    refine writes_of_fields (t := d.start (identifier issued) session now) ?_ ?_ hzero
      (hstart d _ session)
    · unfold Store.stamped
      split <;> rfl
    · rw [Store.stamped_id, Task.id_toRecord]
      show (if (identifier issued).isEmpty then fresh else identifier issued) = identifier issued
      exact if_neg (by simpa using identifier_ne_empty issued)
  edit := by
    rintro r new f session id ⟨t, ht, hr, hP⟩ hf hnew
    unfold Store.taskChange at hnew
    split at hnew
    · rename_i t' hown
      have ht' := (Store.ownTask_eq_ok hown).1
      rw [ht] at ht'
      cases ht'
      cases hnew
      have hfinite := hf.isFinite ((Task.ofRecord_of_fields hr).1 ht).1
      refine writes_of_fields (Store.fields_keptRow r (f t).toRecord) ?_ hfinite (hedit f t hf hP)
      rw [hf.preserves.id, Task.id_of_ofRecord ht]
      rfl
    · cases hnew

/-- Rows that are written stay so when they are stored. -/
theorem Record.kept_isWritten (now : Int64) : Record.Kept now Record.IsWritten := by
  have hwrites : Record.IsWritten = Record.Writes fun _ => True := by
    funext r
    simp only [Record.IsWritten, Record.Writes, and_true]
  rw [hwrites]
  exact kept_writes (fun _ _ _ => trivial) fun _ _ _ _ => trivial

namespace Store

variable {s : Store} {session : SessionKey} {filter : TaskFilter} {t : Task}

/-- What is listed for a session: the tasks of the session that are as the selection demands, oldest
first, and each of them once. -/
structure Lists (s : Store) (session : SessionKey) (filter : TaskFilter) (listed : List Task) :
    Prop where
  tasks : s.tasks session filter = .ok listed
  mem_iff : ∀ t, t ∈ listed ↔
    (∃ r, s.find? Task.table t.id = .ok (some r) ∧ Task.ofRecord r = .ok t) ∧
      t.sessionKey = session.text ∧ filter.Selects t
  ascending : listed.Pairwise fun a b => a.age < b.age

/-- A task is found in a row when it can be read from it. -/
theorem toOption_ofRecord_eq_some_iff {r : Record} :
    (Task.ofRecord r).toOption = some t ↔ Task.ofRecord r = .ok t := by
  cases Task.ofRecord r <;> simp [Except.toOption]

/-- A task is listed when it can be read from one of the rows. -/
theorem mem_tasksOf_iff {rows : List Record} :
    t ∈ tasksOf rows ↔ ∃ r ∈ rows, Task.ofRecord r = .ok t := by
  unfold tasksOf
  rw [List.mem_mergeSort, List.mem_filterMap]
  simp only [toOption_ofRecord_eq_some_iff]

/-- Rows that stand in the order of their identifiers hold tasks of different ages. -/
theorem pairwise_tasksOf {rows : List Record} (h : rows.Pairwise fun a b => a.id < b.id) :
    (tasksOf rows).Pairwise fun a b => a.age < b.age := by
  refine pairwise_age_lt_of_nodup ?_
  rw [List.Nodup, List.pairwise_map, List.pairwise_filterMap]
  refine h.imp fun {a b} hlt t ht u hu heq => ?_
  rw [Task.id_of_ofRecord (toOption_ofRecord_eq_some_iff.1 ht),
    Task.id_of_ofRecord (toOption_ofRecord_eq_some_iff.1 hu)] at heq
  exact String.lt_irrefl _ (heq ▸ hlt)

/-- **What is listed**, where every row holds a task as it is written. -/
theorem lists_of_written (h : s.Filed) (hpoisoned : s.poisoned = false)
    (hrows : s.TaskRows Record.IsWritten) (session : SessionKey) (filter : TaskFilter) :
    ∃ listed, s.Lists session filter listed := by
  have hanswers := answers_of_filed h hpoisoned Task.table (filter.toExample session)
  refine ⟨tasksOf (s.taskRows.values.filter (filter.toExample session).Matches), ?_, fun t => ?_,
    pairwise_tasksOf (hanswers.ascending.filter _)⟩
  · unfold tasks
    rw [hanswers.findAll]
    rfl
  · -- a row of the task has its columns, so it is selected if the task is
    have hselected : ∀ r, s.find? Task.table r.id = .ok (some r) → Task.ofRecord r = .ok t →
        ((filter.toExample session).Matches r = true ↔
          filter.Selects t ∧ t.sessionKey = session.text) := by
      intro r hr ht
      rw [find?_eq, if_neg (by rw [hpoisoned]; exact Bool.false_ne_true)] at hr
      obtain ⟨t', ht', hfields⟩ := hrows r.id r (Except.ok.inj hr)
      rw [ht] at ht'
      cases ht'
      exact TaskFilter.matches_iff_selects hfields
    rw [mem_tasksOf_iff]
    constructor
    · rintro ⟨r, hr, ht⟩
      obtain ⟨hmem, hmatches⟩ := List.mem_filter.1 hr
      have hfound := (hanswers.mem_iff r).1 hmem
      obtain ⟨hselects, howner⟩ := (hselected r hfound ht).1 hmatches
      exact ⟨⟨r, Task.id_of_ofRecord ht ▸ hfound, ht⟩, howner, hselects⟩
    · rintro ⟨⟨r, hfound, ht⟩, howner, hselects⟩
      rw [Task.id_of_ofRecord ht] at hfound
      exact ⟨r, List.mem_filter.2 ⟨(hanswers.mem_iff r).2 hfound,
        (hselected r hfound ht).2 ⟨hselects, howner⟩⟩, ht⟩

end Store

/-! ## What is counted -/

namespace TaskStats

/-- A task counts for its own status only. -/
theorem count_add (stats : TaskStats) (status other : TaskStatus) :
    (stats.add other).count status = stats.count status + if other = status then 1 else 0 := by
  cases other <;> cases status <;> simp [add, count]

/-- Every task counts for the total. -/
theorem total_foldl_add (tasks : List Task) (stats : TaskStats) :
    (tasks.foldl (fun stats t => stats.add t.status) stats).total =
      stats.total + .ofNat tasks.length := by
  induction tasks generalizing stats with
  | nil => simp
  | cons t rest ih =>
    have hstep : (stats.add t.status).total = stats.total + 1 := by
      unfold add
      cases t.status <;> rfl
    rw [List.foldl_cons, ih, hstep, List.length_cons, UInt64.ofNat_add, UInt64.add_assoc,
      UInt64.add_comm 1]
    rfl

/-- The tasks with a status count for that status. -/
theorem count_foldl_add (tasks : List Task) (stats : TaskStats) (status : TaskStatus) :
    (tasks.foldl (fun stats t => stats.add t.status) stats).count status =
      stats.count status + .ofNat (tasks.countP (·.status = status)) := by
  induction tasks generalizing stats with
  | nil => simp
  | cons t rest ih =>
    rw [List.foldl_cons, ih, count_add, List.countP_cons, UInt64.ofNat_add, UInt64.add_assoc,
      UInt64.add_comm (.ofNat _)]
    by_cases h : t.status = status <;> simp [h]

/-- One more task is one more of some status. -/
theorem sum_add (stats : TaskStats) (status : TaskStatus) :
    (TaskStatus.all.map (stats.add status).count).sum = (TaskStatus.all.map stats.count).sum + 1 := by
  cases status <;> simp [TaskStatus.all, count, add] <;> grind

/-- The counts of all statuses together grow with the tasks. -/
theorem sum_foldl_add (tasks : List Task) (stats : TaskStats) :
    (TaskStatus.all.map (tasks.foldl (fun stats t => stats.add t.status) stats).count).sum =
      (TaskStatus.all.map stats.count).sum + .ofNat tasks.length := by
  induction tasks generalizing stats with
  | nil => simp
  | cons t rest ih =>
    rw [List.foldl_cons, ih, sum_add, List.length_cons, UInt64.ofNat_add, UInt64.add_assoc,
      UInt64.add_comm 1]
    rfl

/-- **What is counted**: every task once, and once more under its status. -/
theorem count_ofTasks (tasks : List Task) (status : TaskStatus) :
    (ofTasks tasks).count status = .ofNat (tasks.countP (·.status = status)) := by
  unfold ofTasks
  rw [count_foldl_add]
  cases status <;> exact UInt64.zero_add _

/-- The total is the number of the tasks. -/
theorem total_ofTasks (tasks : List Task) : (ofTasks tasks).total = .ofNat tasks.length := by
  unfold ofTasks
  rw [total_foldl_add]
  exact UInt64.zero_add _

/-- The counts of all statuses add up to the number of the tasks. -/
theorem sum_ofTasks (tasks : List Task) :
    (TaskStatus.all.map (ofTasks tasks).count).sum = .ofNat tasks.length := by
  unfold ofTasks
  rw [sum_foldl_add]
  exact UInt64.zero_add _

end TaskStats

namespace Store

variable {s : Store} {session : SessionKey} {filter : TaskFilter} {listed whole : List Task}

/-- The listing is the part of the whole listing that the selection demands. -/
theorem Lists.mem_iff_of_whole (h : s.Lists session filter listed) (hwhole : s.Lists session {} whole)
    {t : Task} : t ∈ listed ↔ t ∈ whole ∧ filter.Selects t := by
  have hany : ({} : TaskFilter).Selects t := by
    constructor <;> rintro _ ⟨⟩
  rw [h.mem_iff, hwhole.mem_iff]
  tauto

/-- As many tasks are listed by their status as there are of it. -/
theorem Lists.length_eq_countP {status : TaskStatus}
    (h : s.Lists session { status := some status } listed) (hwhole : s.Lists session {} whole) :
    listed.length = whole.countP (·.status = status) := by
  have hnodup : ∀ {filter tasks}, s.Lists session filter tasks → tasks.Nodup :=
    fun h => h.ascending.imp fun hlt heq => (heq ▸ hlt).ne rfl
  have hperm : listed.Perm (whole.filter (·.status = status)) := by
    refine (List.perm_ext_iff_of_nodup (hnodup h) ((hnodup hwhole).filter _)).2 fun t => ?_
    have hselects : ({ status := some status } : TaskFilter).Selects t ↔ t.status = status :=
      ⟨fun hs => hs.status status rfl,
        fun hs => ⟨by rintro _ ⟨⟩; exact hs, by rintro _ ⟨⟩, by rintro _ ⟨⟩, by rintro _ ⟨⟩⟩⟩
    rw [h.mem_iff_of_whole hwhole, hselects, List.mem_filter, decide_eq_true_iff]
  rw [hperm.length_eq, List.countP_eq_length_filter]

/-- What is counted for a session: the lengths of its listings. -/
structure Counts (s : Store) (session : SessionKey) (stats : TaskStats) : Prop where
  answer : s.taskStats session = .ok stats
  count : ∀ status listed, s.tasks session { status := some status } = .ok listed →
    stats.count status = .ofNat listed.length
  total : ∀ listed, s.tasks session {} = .ok listed → stats.total = .ofNat listed.length
  /-- Every task counts under one status. -/
  sum : stats.total = (TaskStatus.all.map stats.count).sum

/-- **What is counted**, where every listing is as it should be. -/
theorem counts_of_lists (h : ∀ filter, ∃ listed, s.Lists session filter listed) :
    ∃ stats, s.Counts session stats := by
  obtain ⟨whole, hwhole⟩ := h {}
  refine ⟨.ofTasks whole, ?_, fun status listed hlisted => ?_, fun listed hlisted => ?_, ?_⟩
  · unfold taskStats
    rw [hwhole.tasks]
    rfl
  · obtain ⟨listed', hlists⟩ := h { status := some status }
    rw [hlists.tasks] at hlisted
    cases hlisted
    rw [TaskStats.count_ofTasks, hlists.length_eq_countP hwhole]
  · rw [hwhole.tasks] at hlisted
    cases hlisted
    exact TaskStats.total_ofTasks whole
  · rw [TaskStats.total_ofTasks, TaskStats.sum_ofTasks]

/-! ## What a session is told -/

/-- What a session is told about its tasks.  Nothing, if the rows cannot be read; otherwise its
listings are the tasks that are as the selections demand, and its counts are the lengths of
listings. -/
structure TellsTasks (s : Store) (session : SessionKey) : Prop where
  unread : ∀ f, s.all Task.table = .error f →
    (∀ filter, s.tasks session filter = .error f) ∧ s.taskStats session = .error f
  lists : ∀ rows, s.all Task.table = .ok rows → ∀ filter, ∃ listed, s.Lists session filter listed
  counts : ∀ rows, s.all Task.table = .ok rows → ∃ stats, s.Counts session stats

/-- A store tells the tasks of its sessions from rows that were written by tasks. -/
theorem tellsTasks_of_written (h : s.Filed) (hrows : s.TaskRows Record.IsWritten)
    (session : SessionKey) : s.TellsTasks session := by
  have hlists : ∀ rows, s.all Task.table = .ok rows →
      ∀ filter, ∃ listed, s.Lists session filter listed := by
    intro rows hall filter
    exact lists_of_written h (all_eq_ok_iff.1 hall).1 hrows session filter
  refine ⟨fun f hall => ?_, hlists, fun rows hall => counts_of_lists (hlists rows hall)⟩
  have htasks : ∀ filter, s.tasks session filter = .error f := by
    intro filter
    unfold tasks findAll
    rw [hall]
    rfl
  refine ⟨htasks, ?_⟩
  unfold taskStats
  rw [htasks]
  rfl

end Store

end SessionTasks
