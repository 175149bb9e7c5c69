/-
# Stored tasks stay well formed

Callers reach the table of tasks through requests about tasks, and runs through changes to
theirs.  While nobody writes to the table past these requests, no file is read and the clock does
not go back, every row of the table is the row of a well-formed task.

* `Schedule.taskRows_move` : what one move keeps of the rows of tasks;
* `Schedule.sound_move` : one move keeps the rows of tasks sound;
* `Schedule.sound_of_ofConfig` : they are sound in every schedule of a fresh server.
-/
import SessionTasks.Proofs.Schedule.Stores
namespace SessionTasks

/-- A routine call keeps the rows of tasks as changes to tasks do. -/
theorem Store.TaskRows.call_of_routine {P : Record → Prop} {s : Store} {now : Int64}
    (h : s.TaskRows P) (hP : Record.Kept now P) {c : StoreCall} (hc : c.Routine now) :
    (s.call c).TaskRows P := by
  cases hc with
  | edit session id hf => exact h.modify hP hf session id
  | delete table id => exact h.call fun _ _ hmakes => by cases hmakes
  | deleteTable table => exact h.call fun _ _ hmakes => by cases hmakes
  | clear => exact h.call fun _ _ hmakes => by cases hmakes

namespace Schedule

/-- The move writes to the table of tasks directly, or reads a file. -/
inductive Tampers (s : Schedule) : Move → Prop
  /-- A record is stored in the table of tasks. -/
  | put (id : StoreId) (r : Record) : Tampers s (.operate (.useStore id (.put Task.table r)))
  /-- A record of the table of tasks is changed. -/
  | modify (id : StoreId) (name : String) (change : Record → Change) :
      Tampers s (.operate (.useStore id (.modify Task.table name change)))
  /-- A file is read. -/
  | read {o : Operation} (ho : s.server.ReadsFile o) : Tampers s (.operate o)

/-- The clock goes back. -/
def TurnsBack (s : Schedule) (m : Move) : Prop := (s.move m).server.clock < s.server.clock

instance (s : Schedule) (m : Move) : Decidable (s.TurnsBack m) :=
  inferInstanceAs (Decidable ((s.move m).server.clock < s.server.clock))

variable {s : Schedule} {m : Move} {P : Record → Prop}

/-- Every call of a move that does not tamper keeps what changes to tasks keep of their rows. -/
theorem taskRows_call (hP : Record.Kept s.server.clock P) (hm : ¬ Tampers s m) {c : StoreCall}
    (hc : s.Calls m c) {store : Store} (h : store.TaskRows P) : (store.call c).TaskRows P := by
  cases m with
  | operate o =>
    cases hc with
    | routine _ hroutine => exact h.call_of_routine hP hroutine
    | put id table r =>
      refine h.put (fun htable => hm ?_) s.server.clock _ r
      rw [htable]
      exact .put id r
    | modify id table name change =>
      refine h.modify_of_ne (fun htable => hm ?_) name change
      rw [htable]
      exact .modify id name change
    | create id session d => exact h.create hP d session _
    | read ho => exact absurd (.read ho) hm
  | _ => exact h.call_of_routine hP hc

/-- **Step lemma.**  A move that does not tamper keeps, in every store, what new tasks have and
changes to tasks keep of their rows. -/
theorem taskRows_move (hP : Record.Kept s.server.clock P) (hm : ¬ Tampers s m)
    (h : ∀ id, (s.server.store id).TaskRows P) (id : StoreId) :
    ((s.move m).server.store id).TaskRows P := by
  refine (s.becomes_move m id).induct (h id) ?_ fun store c hstore hc =>
    taskRows_call hP hm hc hstore
  intro settings name r hr
  cases hr

/-- **Run lemma.** -/
theorem taskRows_play (hP : ∀ now, Record.Kept now P) {moves : List Move}
    (hmoves : ¬ s.Happens Tampers moves) (h : ∀ id, (s.server.store id).TaskRows P) :
    ∀ id, ((s.play moves).server.store id).TaskRows P := by
  induction moves generalizing s with
  | nil => exact h
  | cons m rest ih =>
    rw [Happens, not_or] at hmoves
    exact ih hmoves.2 fun id => taskRows_move (hP _) hmoves.1 h id

/-- A fresh server has no rows. -/
theorem taskRows_of_ofConfig {c : Config} {epoch issued : Nat} {files : FileTree} {server : Server}
    (hs : Server.ofConfig c epoch files issued = .ok server) (id : StoreId) :
    (server.store id).TaskRows P := by
  intro name r hr
  rw [Server.store_of_ofConfig hs] at hr
  cases hr

/-- **Step lemma.**  A move that does not tamper or turn back the clock keeps the rows of tasks
sound in every store. -/
theorem sound_move (hm : ¬ Tampers s m) (hclock : ¬ TurnsBack s m)
    (h : ∀ id, (s.server.store id).Sound s.server.clock) :
    ∀ id, ((s.move m).server.store id).Sound (s.move m).server.clock := by
  intro id
  have hsound : ((s.move m).server.store id).Sound s.server.clock :=
    taskRows_move (Record.kept_isSound s.server.clock) hm h id
  exact hsound.mono (Int64.not_lt.1 hclock)

/-- **Run lemma.** -/
theorem sound_play {moves : List Move} (hmoves : ¬ s.Happens Tampers moves)
    (hclock : ¬ s.Happens TurnsBack moves) (h : ∀ id, (s.server.store id).Sound s.server.clock) :
    ∀ id, ((s.play moves).server.store id).Sound (s.play moves).server.clock := by
  induction moves generalizing s with
  | nil => exact h
  | cons m rest ih =>
    rw [Happens, not_or] at hmoves hclock
    exact ih hmoves.2 hclock.2 (sound_move hmoves.1 hclock.1 h)

/-- **Stored tasks stay well formed.**  Whatever callers ask for and runs do, every row of the
table of tasks is the row of a well-formed task, in every store there is. -/
theorem sound_of_ofConfig {c : Config} {epoch issued : Nat} {files : FileTree} {server : Server}
    (hs : Server.ofConfig c epoch files issued = .ok server) {moves : List Move}
    (hmoves : ¬ (ofServer server).Happens Tampers moves)
    (hclock : ¬ (ofServer server).Happens TurnsBack moves) (id : StoreId) :
    (((ofServer server).play moves).server.store id).Sound
      ((ofServer server).play moves).server.clock := by
  exact sound_play hmoves hclock (taskRows_of_ofConfig hs) id

/-- The first run reports and ends five milliseconds after it began; then the task is said to have
failed, and is made pending again. -/
def sampleLife : List Move :=
  sampleStart ++ [.operate (.setClock 5), .step 0 (.report .hundred (some "s") none),
    .step 0 (.endWork (.ok ())), .step 0 .finish,
    .operate (.useStore 0 (.updateTask (.sanitize "a") (identifier 1) { status := some .failed })),
    .operate (.useStore 0 (.retryTask (.sanitize "a") (identifier 1)))]

theorem not_tampers_sampleLife : ¬ (ofServer sampleServer).Happens Tampers sampleLife := by
  have hoperate : ∀ t o, (∀ id, ¬ Server.Loads t.server o id) →
      (∀ id table r, o ≠ .useStore id (.put table r)) →
      (∀ id table name change, o ≠ .useStore id (.modify table name change)) →
      ¬ Tampers t (.operate o) := by
    intro t o hloads hput hmodify h
    cases h with
    | put id r => exact hput id _ r rfl
    | modify id name change => exact hmodify id _ name change rfl
    | read ho =>
      obtain ⟨id, -, -, hread, -⟩ := ho
      exact hloads id hread
  have hask : ∀ t key, ¬ Tampers t (.ask key) := by
    intro t key h
    cases h
  have hstep : ∀ t n a, ¬ Tampers t (.step n a) := by
    intro t n a h
    cases h
  simp only [sampleLife, sampleStart, List.cons_append, List.nil_append, Happens, hask, hstep,
    false_or, or_false, not_or]
  refine ⟨?_, ?_, ?_, ?_, ?_⟩
  all_goals refine hoperate _ _ (fun id h => ?_) (by simp) (by simp)
  all_goals cases h

/-- The task is stored, and its row is sound. -/
theorem sound_of_ofConfig_first :
    Server.ofConfig {} 0 .empty 0 = .ok sampleServer ∧
      ¬ (ofServer sampleServer).Happens Tampers sampleLife ∧
      ¬ (ofServer sampleServer).Happens TurnsBack sampleLife ∧
      ((((ofServer sampleServer).play sampleLife).server.store 0).tables.find? Task.table
        (identifier 1)).isSome = true ∧
      (((ofServer sampleServer).play sampleLife).server.store 0).Sound
        ((ofServer sampleServer).play sampleLife).server.clock := by
  have hclock : ¬ (ofServer sampleServer).Happens TurnsBack sampleLife := by decide +kernel
  exact ⟨ofConfig_sampleServer, not_tampers_sampleLife, hclock, by decide +kernel,
    sound_of_ofConfig ofConfig_sampleServer not_tampers_sampleLife hclock 0⟩

end Schedule

end SessionTasks
