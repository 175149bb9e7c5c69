/-
# The meaning of queries by example

Of the rules that are given for a column only the last one counts, and a record matches if every
column that is mentioned has a value of which its rule holds.

* `Example.matches_ofCalls` : when a record matches what was asked for, call by call;
* `Example.matches_own` : a record matches the example that its own object is;
* `Store.answers_of_filed` : what a query finds, and in which order;
* `Store.matchingLaws_of_reached` : all of this, for every store that was reached.
-/
import SessionTasks.Proofs.Json.Agreement
import SessionTasks.Proofs.Record.Codec
namespace SessionTasks

/-! ## Rules -/

namespace FieldRule

/-- What a rule asks of the value of a column. -/
inductive Asks : FieldRule → Json → Prop
  /-- To be equal to a value that holds no others. -/
  | equals {wanted v : Json} (h : Json.ScalarEqual wanted v) : Asks (.equals wanted) v
  /-- To be a list with an item that agrees with each of the values, wherever it stands. -/
  | containsAll {wanted items : List Json}
      (h : ∀ w ∈ wanted, ∃ item ∈ items, w.agrees item = true) :
      Asks (.containsAll wanted) (.arr items)
  /-- To be an object that agrees with this one. -/
  | object {wanted members : List (String × Json)}
      (h : (Json.obj wanted).agrees (.obj members) = true) : Asks (.object wanted) (.obj members)

/-- A rule holds of a column that has a value as it is asked for. -/
theorem holds_iff {rule : FieldRule} {actual : Option Json} :
    rule.holds actual = true ↔ ∃ v, actual = some v ∧ rule.Asks v := by
  cases actual with
  | none => cases rule <;> simp [holds]
  | some v =>
    constructor
    · intro h
      refine ⟨v, rfl, ?_⟩
      cases rule with
      | equals wanted => exact .equals (Json.scalarAgrees_iff.1 h)
      | containsAll wanted =>
        cases v with
        | arr items => exact .containsAll (by simpa [holds] using h)
        | _ => cases h
      | object wanted =>
        cases v with
        | obj members => exact .object h
        | _ => cases h
    · rintro ⟨_, heq, hasks⟩
      cases heq
      cases hasks with
      | equals h => exact Json.scalarAgrees_iff.2 h
      | containsAll h => simpa [holds] using h
      | object h => exact h

/-- The rule that goes with the shape of a value holds of the value. -/
theorem holds_ofJson_self {v : Json} (hv : v.Canonical) : (ofJson v).holds (some v) = true := by
  have hself := Json.agrees_self v hv
  cases v with
  | arr items =>
    -- each of the items agrees with itself
    refine List.all_eq_true.2 fun w hw => List.any_eq_true.2 ⟨w, hw, ?_⟩
    exact Json.agrees_self w (Json.canonicalItems_iff.1 hv w hw)
  | _ => exact hself

end FieldRule

namespace Example

variable {e : Example} {column : String} {rule : FieldRule}

/-! ## Examples made by calls -/

/-- A call that gives a rule for a column. -/
inductive Call where
  /-- The rule goes with the shape of a value. -/
  | value (column : String) (value : Json)
  /-- The rule is given as it is. -/
  | rule (column : String) (rule : FieldRule)
  /-- The column has to be a list that contains these values. -/
  | values (column : String) (wanted : List Json)

/-- The column, and the rule that is given for it. -/
def Call.given : Call → String × FieldRule
  | .value column v => (column, .ofJson v)
  | .rule column rule => (column, rule)
  | .values column wanted => (column, .containsAll wanted)

/-- The example after a call. -/
def call (e : Example) : Call → Example
  | .value column v => e.addValue column v
  | .rule column rule => e.add column rule
  | .values column wanted => e.add column (.containsAll wanted)

/-- The example that is made by these calls. -/
def ofCalls (calls : List Call) : Example := calls.foldl call empty

theorem call_eq (e : Example) (c : Call) : e.call c = e.add c.given.1 c.given.2 := by
  cases c <;> rfl

/-- A rule takes the place of every other one for its column. -/
theorem mem_add {given : String × FieldRule} :
    (column, rule) ∈ (e.add given.1 given.2).rules ↔
      if given.1 = column then given.2 = rule else (column, rule) ∈ e.rules := by
  obtain ⟨name, new⟩ := given
  unfold add
  rw [List.mem_append, List.mem_filter, List.mem_singleton]
  by_cases h : name = column
  · subst h
    simp [eq_comm]
  · have hne : column ≠ name := fun heq => h heq.symm
    simp [h, hne]

/-- **The last rule counts** that was given for a column. -/
theorem mem_ofCalls {calls : List Call} :
    (column, rule) ∈ (ofCalls calls).rules ↔
      IsLast (fun given => given.1 = column) (calls.map Call.given) (column, rule) := by
  rw [← Entries.get?_reverse_eq_some_iff]
  induction calls using List.reverseRecOn with
  | nil => simp [ofCalls, empty, Entries.get?]
  | append_singleton calls c ih =>
    have hstep : ofCalls (calls ++ [c]) = (ofCalls calls).add c.given.1 c.given.2 := by
      unfold ofCalls
      rw [List.foldl_append]
      exact call_eq _ c
    rw [hstep, mem_add, ih, List.map_append, List.reverse_append]
    show _ ↔ Entries.get? column (c.given :: (calls.map Call.given).reverse) = some rule
    rw [Entries.get?]
    split
    · rw [Option.some_inj]
    · rfl

/-- **When a record matches.**  Each column that was mentioned has a value as the last rule asks
that was given for the column. -/
theorem matches_ofCalls {calls : List Call} {r : Record} :
    (ofCalls calls).Matches r = true ↔
      ∀ column rule,
        IsLast (fun given => given.1 = column) (calls.map Call.given) (column, rule) →
        ∃ v, r.field? column = some v ∧ rule.Asks v := by
  unfold Matches
  rw [List.all_eq_true]
  simp only [FieldRule.holds_iff, ← mem_ofCalls]
  exact ⟨fun h column rule hmem => h (column, rule) hmem, fun h given hmem => h given.1 given.2 hmem⟩

/-! ## The example that a record is -/

theorem ofJson_obj (members : List (String × Json)) :
    ofJson (.obj members) = .ok (ofCalls (members.map fun m => .value m.1 m.2)) := by
  unfold ofCalls
  rw [List.foldl_map]
  rfl

/-- **A record matches the example that its own object is.** -/
theorem matches_own {r : Record} (hr : r.Canonical) (hid : r.id ≠ "") :
    ∃ e, ofJson r.toJson = .ok e ∧ e.Matches r = true := by
  obtain ⟨members, hmembers⟩ : ∃ members, r.toJson = .obj members := ⟨_, rfl⟩
  rw [hmembers, ofJson_obj]
  refine ⟨_, rfl, matches_ofCalls.2 fun column rule hlast => ?_⟩
  obtain ⟨m, hm, heq⟩ : ∃ m ∈ members, (m.1, FieldRule.ofJson m.2) = (column, rule) := by
    obtain ⟨before, after, hsplit, -, -⟩ := hlast
    have hmem : (column, rule) ∈ (members.map fun m => Call.value m.1 m.2).map Call.given := by
      rw [hsplit]
      exact List.mem_append_right before List.mem_cons_self
    rw [List.map_map] at hmem
    exact List.mem_map.1 hmem
  cases heq
  have hfound : r.field? m.1 = some m.2 := by
    rw [Record.field?_eq_field?_toJson hid, hmembers]
    exact (Record.sorted_of_toJson hmembers).get?_eq_some_iff.2 hm
  have hvalue : m.2.Canonical := by
    have hcanonical := hr.toJson
    rw [hmembers] at hcanonical
    exact Json.canonicalMembers_iff.1 hcanonical.2 m hm
  exact FieldRule.holds_iff.1 (hfound ▸ FieldRule.holds_ofJson_self hvalue)

end Example

/-! ## Queries -/

namespace Store

variable {s : Store}

theorem all_eq_ok_iff {table : String} {rows : List Record} :
    s.all table = .ok rows ↔ s.poisoned = false ∧ (s.tables.rows table).values = rows := by
  unfold all access
  cases s.poisoned with
  | true => exact iff_of_false (fun h => by cases h) fun h => by cases h.1
  | false =>
    rw [and_iff_right rfl]
    exact ⟨Except.ok.inj, congrArg Except.ok⟩

/-- What the table of a store holds, and what is found there by an example. -/
structure Answers (s : Store) (table : String) (e : Example) (rows : List Record) : Prop where
  all : s.all table = .ok rows
  findAll : s.findAll table e = .ok (rows.filter e.Matches)
  findFirst : s.findFirst table e = .ok (rows.filter e.Matches).head?
  /-- The rows stand in the order of their identifiers, each once. -/
  ascending : rows.Pairwise fun a b => a.id < b.id
  mem_iff : ∀ r, r ∈ rows ↔ s.find? table r.id = .ok (some r)

/-- The rows of a table in the order of their identifiers. -/
theorem ascending_values (h : s.Filed) (table : String) :
    (s.tables.rows table).values.Pairwise fun a b => a.id < b.id := by
  unfold KeyMap.values
  rw [List.pairwise_map]
  refine (s.tables.rows table).sorted.imp_of_mem fun {a b} ha hb hlt => ?_
  rw [(h table a.1 a.2 (KeyMap.get?_eq_some_iff.2 ha)).1,
    (h table b.1 b.2 (KeyMap.get?_eq_some_iff.2 hb)).1]
  exact hlt

/-- **What a query finds, and in which order.** -/
theorem answers_of_filed (h : s.Filed) (hpoisoned : s.poisoned = false) (table : String)
    (e : Example) : s.Answers table e (s.tables.rows table).values := by
  have hall : s.all table = .ok (s.tables.rows table).values := all_eq_ok_iff.2 ⟨hpoisoned, rfl⟩
  refine ⟨hall, ?_, ?_, ascending_values h table, fun r => ?_⟩
  · unfold findAll
    rw [hall]
    rfl
  · unfold findFirst
    rw [hall, List.head?_filter]
    rfl
  · rw [KeyMap.mem_values_iff, find?_eq, if_neg (by rw [hpoisoned]; exact Bool.false_ne_true)]
    constructor
    · rintro ⟨key, hkey⟩
      rw [(h table key r hkey).1]
      exact congrArg Except.ok hkey
    · intro hfound
      exact ⟨r.id, Except.ok.inj hfound⟩

/-- What is asked of a poisoned store is not answered. -/
structure Withholds (s : Store) (table : String) (e : Example) : Prop where
  all : s.all table = .error .storePoisoned
  findAll : s.findAll table e = .error .storePoisoned
  findFirst : s.findFirst table e = .error .storePoisoned

theorem withholds_of_poisoned (h : s.poisoned = true) (table : String) (e : Example) :
    s.Withholds table e := by
  have hall : s.all table = .error .storePoisoned := by
    unfold all
    rw [access_of_poisoned h]
    rfl
  refine ⟨hall, ?_, ?_⟩
  · unfold findAll
    rw [hall]
    rfl
  · unfold findFirst
    rw [hall]
    rfl

/-! ## All of it -/

/-- The meaning of queries by example to a store. -/
structure MatchingLaws (s : Store) : Prop where
  /-- Agreement is reflexive and symmetric, and without doubles it is equality. -/
  agreement : Json.AgreementLaws
  /-- The last rule counts that was given for a column, and the column has to have a value. -/
  matches_iff : ∀ (calls : List Example.Call) (r : Record),
    (Example.ofCalls calls).Matches r = true ↔
      ∀ column rule,
        IsLast (fun given => given.1 = column) (calls.map Example.Call.given) (column, rule) →
        ∃ v, r.field? column = some v ∧ rule.Asks v
  /-- A record matches the example that its own object is. -/
  own : ∀ r : Record, r.Built → r.id ≠ "" →
    ∃ e, Example.ofJson r.toJson = .ok e ∧ e.Matches r = true
  /-- A query finds the rows that match, in the order of their identifiers. -/
  queries : ∀ table e, s.Withholds table e ∨ ∃ rows, s.Answers table e rows

/-- **Queries by example mean what they say.** -/
theorem matchingLaws_of_reached (hs : s.Reached) : s.MatchingLaws where
  agreement := Json.agreementLaws
  matches_iff _ _ := Example.matches_ofCalls
  own _ hr hid := Example.matches_own hr.canonical hid
  queries table e := by
    cases hpoisoned : s.poisoned with
    | true => exact .inl (withholds_of_poisoned hpoisoned table e)
    | false => exact .inr ⟨_, answers_of_filed (filed_of_reachedBy hs) hpoisoned table e⟩

/-- A record with a list in one of its columns. -/
def taggedRecord (id : String) (tags : List Json) : Record :=
  (Record.withId id).set "tags" (.arr tags)

theorem built_taggedRecord : (taggedRecord "b" [.int 3, .str "red"]).Built :=
  .set (.withId "b") "tags" ⟨⟨by decide, by decide⟩, trivial, trivial⟩

/-- A store with three such records. -/
def taggedStore : Store :=
  [StoreCall.put 5 0 "notes" (taggedRecord "b" [.int 3, .str "red"]),
    .put 6 1 "notes" (taggedRecord "c" [.str "red"]),
    .put 7 2 "notes" (taggedRecord "a" [.str "red", .double (.ofInt 3)])].foldl call {}

/-- The first rule for the column is given up, and the number is found as a double as well. -/
theorem matchingLaws_tagged :
    taggedStore.Reached ∧
      (taggedStore.findAll "notes" (.ofCalls
        [.value "tags" (.str "blue"), .values "tags" [.int 3, .str "red"]])).toOption.map
        (·.map Record.id) = some ["a", "b"] ∧
      (taggedRecord "b" [.int 3, .str "red"]).Built ∧
      (taggedRecord "b" [.int 3, .str "red"]).id ≠ "" ∧
      taggedStore.MatchingLaws := by
  have hs : taggedStore.Reached := ⟨{}, _, fun _ _ => trivial, rfl⟩
  exact ⟨hs, by decide +kernel, built_taggedRecord, by decide, matchingLaws_of_reached hs⟩

end Store

end SessionTasks
