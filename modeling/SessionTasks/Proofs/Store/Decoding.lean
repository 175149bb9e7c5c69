/-
# What a file says

The text of a file says which tables there are and which rows they have.  This is told from the
grammar of JSON, without the readers of values and of tables.

* `Tables.row?_eq_some_iff` : which objects are rows, and of which records;
* `Tables.ofText?_eq_some_iff` : which texts are tables, and of which rows;
* `Server.load_all_or_nothing` : a load leaves exactly what the file says, or changes nothing.
-/
import SessionTasks.Proofs.FileTree
import SessionTasks.Proofs.Json.Grammar
import SessionTasks.Proofs.Record
import SessionTasks.Proofs.Store.Calls
import SessionTasks.Server
namespace SessionTasks

/-! ## The last entry of its kind -/

/-- Of the entries of the list with the property this is the last one. -/
def IsLast {α : Type} (P : α → Prop) (l : List α) (a : α) : Prop :=
  ∃ before after, l = before ++ a :: after ∧ P a ∧ ∀ b ∈ after, ¬ P b

/-- The last element with a property is the first one from the end. -/
theorem isLast_iff_find? {α : Type} {P : α → Prop} [DecidablePred P] {l : List α} {a : α} :
    IsLast P l a ↔ l.reverse.find? (fun b => decide (P b)) = some a := by
  rw [List.find?_eq_some_iff_append, decide_eq_true_eq]
  constructor
  · rintro ⟨before, after, rfl, ha, hafter⟩
    refine ⟨ha, after.reverse, before.reverse, by simp, fun b hb => ?_⟩
    simpa using hafter b (List.mem_reverse.1 hb)
  · rintro ⟨ha, after, before, heq, hafter⟩
    refine ⟨before.reverse, after.reverse, ?_, ha, fun b hb => ?_⟩
    · rw [← List.reverse_inj, heq]
      simp
    · simpa using hafter b (List.mem_reverse.1 hb)

namespace Entries

variable {α : Type} {key : String}

/-- The value under a key is that of the first entry with the key. -/
theorem get?_eq_map_find? (key : String) (entries : List (String × α)) :
    get? key entries = (entries.find? fun e => decide (e.1 = key)).map Prod.snd := by
  induction entries with
  | nil => rfl
  | cons e rest ih =>
    rw [get?, ih, List.find?_cons]
    by_cases h : e.1 = key <;> simp [h]

/-- From the end, the last entry with the key counts. -/
theorem get?_reverse_eq_some_iff {entries : List (String × α)} {value : α} :
    get? key entries.reverse = some value ↔ IsLast (fun e => e.1 = key) entries (key, value) := by
  rw [get?_eq_map_find?, isLast_iff_find?, Option.map_eq_some_iff]
  constructor
  · rintro ⟨e, he, rfl⟩
    have hkey : e.1 = key := by simpa using List.find?_some he
    rw [he, ← hkey]
  · intro h
    exact ⟨(key, value), h, rfl⟩

/-- The values of the entries are changed one by one. -/
theorem get?_map_snd {β : Type} (f : α → β) (key : String) (entries : List (String × α)) :
    get? key (entries.map fun e => (e.1, f e.2)) = (get? key entries).map f := by
  induction entries with
  | nil => rfl
  | cons e rest ih =>
    rw [List.map_cons, get?, get?, ih]
    split <;> rfl

/-- The only entry of a key is the last one. -/
theorem isLast_iff_mem {entries : List (String × α)} {value : α}
    (h : entries.countP (fun e => decide (e.1 = key)) ≤ 1) :
    IsLast (fun e => e.1 = key) entries (key, value) ↔ (key, value) ∈ entries := by
  constructor
  · rintro ⟨before, after, rfl, -, -⟩
    exact List.mem_append_right before List.mem_cons_self
  · intro hmem
    obtain ⟨before, after, rfl⟩ := List.append_of_mem hmem
    refine ⟨before, after, rfl, rfl, fun e he hkey => ?_⟩
    rw [List.countP_append, List.countP_cons_of_pos (by simp)] at h
    have hpos : 0 < after.countP fun e => decide (e.1 = key) :=
      List.countP_pos_iff.2 ⟨e, he, decide_eq_true hkey⟩
    omega

end Entries

/-- In a map made of a list the last entry of a key counts. -/
theorem KeyMap.get?_ofList {α : Type} (entries : List (String × α)) (key : String) :
    (KeyMap.ofList entries).get? key = Entries.get? key entries.reverse := by
  unfold KeyMap.ofList KeyMap.get?
  rw [KeyMap.entries_foldl_insert, Entries.get?_foldl_insert]
  exact Option.or_none

/-! ## Rows -/

namespace Json

/-- To order the members of an object is to put them, ordered themselves, into a list one after
the other. -/
theorem canonicalMembers_eq_foldl (members done : List (String × Json)) :
    canonicalMembers done members =
      (members.map fun e => (e.1, canonical e.2)).foldl
        (fun done e => Entries.insert e.1 e.2 done) done := by
  induction members generalizing done with
  | nil => rfl
  | cons e rest ih => rw [canonicalMembers, ih, List.map_cons, List.foldl_cons]

/-- Members that are put in order are sorted. -/
theorem sorted_canonicalMembers_nil (members : List (String × Json)) :
    Entries.Sorted (canonicalMembers [] members) := by
  rw [canonicalMembers_eq_foldl]
  exact Entries.sorted_foldl_insert _ List.Pairwise.nil

/-- Of a repeated name the last value stays, ordered itself. -/
theorem get?_canonicalMembers (name : String) (members : List (String × Json)) :
    Entries.get? name (canonicalMembers [] members) =
      (Entries.get? name members.reverse).map canonical := by
  rw [canonicalMembers_eq_foldl, Entries.get?_foldl_insert, ← List.map_reverse,
    Entries.get?_map_snd]
  exact Option.or_none

/-- Ordering leaves a value that is no container as it is, and makes no other value into one. -/
theorem canonical_eq_iff {v w : Json} (hlist : ∀ items, w ≠ .arr items)
    (hobject : ∀ members, w ≠ .obj members) : canonical v = w ↔ v = w := by
  cases v with
  | arr items => exact iff_of_false (fun h => hlist _ h.symm) fun h => hlist _ h.symm
  | obj members => exact iff_of_false (fun h => hobject _ h.symm) fun h => hobject _ h.symm
  | _ => exact Iff.rfl

/-- A text is read from a string only. -/
theorem text?_eq_some_iff {v : Json} {s : String} : v.text? = some s ↔ v = .str s := by
  cases v <;> simp [text?]

/-- A stamp is read from what it is written as. -/
theorem stamp?_eq_some_iff {v : Json} {d : Int64} : v.stamp? = some d ↔ v = .ofStamp d := by
  constructor
  · intro h
    cases v with
    | int n =>
      unfold stamp? at h
      dsimp only at h
      split at h
      · rename_i hrange
        cases h
        unfold ofStamp
        rw [Int64.toInt_ofInt_of_le hrange.1 hrange.2]
      · cases h
    | _ => cases h
  · rintro rfl
    exact Record.stamp?_ofStamp d

namespace Fields

variable {α : Type} {f : Fields} {name : String} {decode : Json → Option α}

/-- A default stands where nothing is given; what is given has to be read. -/
theorem orElse?_eq_some_iff {default a : α} :
    f.orElse? name default decode = some a ↔
      f.given? name = none ∧ a = default ∨ ∃ v, f.given? name = some v ∧ decode v = some a := by
  unfold orElse?
  cases f.given? name with
  | none => simp [eq_comm]
  | some v => simp

/-- Nothing is read where nothing is given, or null; what else is given has to be read. -/
theorem optional?_eq_some_iff {a : Option α} :
    f.optional? name decode = some a ↔
      (f.given? name = none ∨ f.given? name = some .null) ∧ a = none ∨
        ∃ v b, f.given? name = some v ∧ v ≠ .null ∧ decode v = some b ∧ a = some b := by
  unfold optional?
  split
  · rename_i h
    rw [h]
    simp [eq_comm]
  · rename_i h
    rw [h]
    simp [eq_comm]
  · rename_i v hnull h
    rw [h]
    have hv : (v = .null) = False := eq_false hnull
    cases hdecode : decode v with
    | none => simp [hv, hdecode]
    | some b => simp [hv, hdecode, eq_comm]

end Fields

end Json

namespace Tables

/-- An object with these members is the row of the record.  The columns that every record has
stand there once at most; any other column has the last value that is given for it. -/
structure IsRow (members : List (String × Json)) (r : Record) : Prop where
  once : ∀ name ∈ reservedColumns, occurrences name members ≤ 1
  /-- The identifier is a text, and empty if it is not given. -/
  id : ("id", .str r.id) ∈ members ∨ (∀ e ∈ members, e.1 ≠ "id") ∧ r.id = ""
  /-- The time is a whole number that fits, and may be `null` or not given. -/
  createdDate : (∃ d, ("createdDate", Json.ofStamp d) ∈ members ∧ r.createdDate = some d) ∨
    (("createdDate", .null) ∈ members ∨ ∀ e ∈ members, e.1 ≠ "createdDate") ∧ r.createdDate = none
  fields : ∀ name, name ∉ reservedColumns → ∀ v, r.fields.get? name = some v ↔
    ∃ w, IsLast (fun e => e.1 = name) members (name, w) ∧ v = w.canonical

/-- A column that stands there once at most. -/
theorem get?_canonicalMembers_eq_some_iff {members : List (String × Json)} {name : String}
    (h : occurrences name members ≤ 1) {v : Json} (hlist : ∀ items, v ≠ .arr items)
    (hobject : ∀ others, v ≠ .obj others) :
    Entries.get? name (Json.canonicalMembers [] members) = some v ↔ (name, v) ∈ members := by
  rw [Json.get?_canonicalMembers, Option.map_eq_some_iff, ← Entries.isLast_iff_mem h,
    ← Entries.get?_reverse_eq_some_iff]
  constructor
  · rintro ⟨w, hw, hcanonical⟩
    rw [hw, (Json.canonical_eq_iff hlist hobject).1 hcanonical]
  · intro hv
    exact ⟨v, hv, (Json.canonical_eq_iff hlist hobject).2 rfl⟩

/-- Members that are put in order have the same names. -/
theorem get?_canonicalMembers_eq_none_iff {members : List (String × Json)} {name : String} :
    Entries.get? name (Json.canonicalMembers [] members) = none ↔ ∀ e ∈ members, e.1 ≠ name := by
  rw [Json.get?_canonicalMembers, Option.map_eq_none_iff, Entries.get?_eq_none_iff]
  exact ⟨fun h e he => h e (List.mem_reverse.2 he), fun h e he => h e (List.mem_reverse.1 he)⟩

/-- The identifier that is read. -/
theorem orElse?_id_iff {members : List (String × Json)} (h : occurrences "id" members ≤ 1)
    {id : String} :
    Json.Fields.orElse? ⟨fun name => Entries.get? name (Json.canonicalMembers [] members)⟩ "id" ""
        Json.text? = some id ↔
      ("id", .str id) ∈ members ∨ (∀ e ∈ members, e.1 ≠ "id") ∧ id = "" := by
  rw [Json.Fields.orElse?_eq_some_iff, or_comm, get?_canonicalMembers_eq_none_iff]
  refine or_congr_left ?_
  rw [← get?_canonicalMembers_eq_some_iff h (fun _ he => by cases he) fun _ he => by cases he]
  constructor
  · rintro ⟨v, hv, htext⟩
    rw [← Json.text?_eq_some_iff.1 htext]
    exact hv
  · intro hv
    exact ⟨.str id, hv, rfl⟩

/-- The time that is read. -/
theorem optional?_createdDate_iff {members : List (String × Json)}
    (h : occurrences "createdDate" members ≤ 1) {date : Option Int64} :
    Json.Fields.optional? ⟨fun name => Entries.get? name (Json.canonicalMembers [] members)⟩
        "createdDate" Json.stamp? = some date ↔
      (∃ d, ("createdDate", Json.ofStamp d) ∈ members ∧ date = some d) ∨
        (("createdDate", .null) ∈ members ∨ ∀ e ∈ members, e.1 ≠ "createdDate") ∧ date = none := by
  have hnull : Entries.get? "createdDate" (Json.canonicalMembers [] members) = some .null ↔
      ("createdDate", .null) ∈ members :=
    get?_canonicalMembers_eq_some_iff h (fun _ he => by cases he) fun _ he => by cases he
  have hstamp : ∀ d, Entries.get? "createdDate" (Json.canonicalMembers [] members) =
      some (Json.ofStamp d) ↔ ("createdDate", Json.ofStamp d) ∈ members := fun d =>
    get?_canonicalMembers_eq_some_iff h (fun _ he => by cases he) fun _ he => by cases he
  rw [Json.Fields.optional?_eq_some_iff, or_comm, get?_canonicalMembers_eq_none_iff, hnull,
    or_comm (a := ∀ e ∈ members, e.1 ≠ "createdDate")]
  refine or_congr_left ?_
  constructor
  · rintro ⟨v, d, hv, -, hd, rfl⟩
    cases Json.stamp?_eq_some_iff.1 hd
    exact ⟨d, (hstamp d).1 hv, rfl⟩
  · rintro ⟨d, hd, rfl⟩
    exact ⟨.ofStamp d, d, (hstamp d).2 hd, Json.noConfusion, Json.stamp?_eq_some_iff.2 rfl, rfl⟩

/-- The other columns that are read. -/
theorem get?_others {members : List (String × Json)} {name : String}
    (h : name ∉ reservedColumns) {v : Json} :
    (Record.empty.setAll ((Json.canonicalMembers [] members).filter fun e =>
        e.1 ∉ reservedColumns)).fields.get? name = some v ↔
      ∃ w, IsLast (fun e => e.1 = name) members (name, w) ∧ v = w.canonical := by
  have hsorted := Json.sorted_canonicalMembers_nil members
  have hother := Entries.get?_filter (fun name => name ∉ reservedColumns) name
    (Json.canonicalMembers [] members)
  rw [if_pos (decide_eq_true h)] at hother
  rw [Record.get?_setAll h, (hsorted.filter _).get?_reverse, hother, Json.get?_canonicalMembers]
  show ((Entries.get? name members.reverse).map Json.canonical).or none = some v ↔ _
  rw [Option.or_none, Option.map_eq_some_iff]
  refine exists_congr fun w => ?_
  rw [Entries.get?_reverse_eq_some_iff, eq_comm (a := v)]

/-- **Which objects are rows.** -/
theorem row?_eq_some_iff {v : Json} {r : Record} :
    row? v = some r ↔ ∃ members, v = .obj members ∧ IsRow members r := by
  cases v with
  | obj members =>
    have hread : row? (.obj members) =
        if reservedColumns.all fun name => occurrences name members ≤ 1 then
          Record.ofMembers? (Json.canonicalMembers [] members)
        else none := rfl
    have honce : (reservedColumns.all fun name => decide (occurrences name members ≤ 1)) = true ↔
        ∀ name ∈ reservedColumns, occurrences name members ≤ 1 := by
      simp only [List.all_eq_true, decide_eq_true_eq]
    rw [hread]
    constructor
    · intro h
      split at h
      · rename_i hall
        have hall := honce.1 hall
        obtain ⟨id, createdDate, hid, hdate, rfl⟩ := Record.ofMembers?_eq_some_iff.1 h
        exact ⟨members, rfl, hall, (orElse?_id_iff (hall "id" (by decide))).1 hid,
          (optional?_createdDate_iff (hall "createdDate" (by decide))).1 hdate,
          fun name hname v => get?_others hname⟩
      · cases h
    · rintro ⟨_, heq, hrow⟩
      cases heq
      rw [if_pos (honce.2 hrow.once), Record.ofMembers?_eq_some_iff]
      refine ⟨r.id, r.createdDate, (orElse?_id_iff (hrow.once "id" (by decide))).2 hrow.id,
        (optional?_createdDate_iff (hrow.once "createdDate" (by decide))).2 hrow.createdDate,
        Record.ext_fields rfl rfl fun name hname => ?_⟩
      ext v
      exact (hrow.fields name hname v).trans (get?_others hname).symm
  | _ => exact iff_of_false (fun h => by cases h) fun ⟨_, h, _⟩ => by cases h

/-! ## Tables -/

/-- A list of a name and a list of rows is the table of these records. -/
def IsTable (v : Json) (t : String × List Record) : Prop :=
  ∃ rows, v = .arr [.str t.1, .arr rows] ∧
    List.Forall₂ (fun w r => ∃ members, w = .obj members ∧ IsRow members r) rows t.2

/-- A table is read from what stands for one. -/
theorem table?_eq_some_iff {v : Json} {t : String × List Record} :
    table? v = some t ↔ IsTable v t := by
  obtain ⟨name, records⟩ := t
  have hrows : ∀ rows : List Json, rows.mapM row? = some records ↔
      List.Forall₂ (fun w r => ∃ members, w = .obj members ∧ IsRow members r) rows records := by
    intro rows
    simp only [mapM_eq_some_iff, row?_eq_some_iff]
  constructor
  · intro h
    unfold table? at h
    split at h
    · rename_i other rows
      obtain ⟨read, hread, heq⟩ := Option.map_eq_some_iff.1 h
      cases heq
      exact ⟨rows, rfl, (hrows rows).1 hread⟩
    · cases h
  · rintro ⟨rows, rfl, hall⟩
    show (rows.mapM row?).map (name, ·) = _
    rw [(hrows rows).2 hall]
    rfl

/-- The tokens of the text spell a list of these tables. -/
def Lists (text : String) (listed : List (String × List Record)) : Prop :=
  ∃ tokens items, Json.tokens? text.toList = some tokens ∧
    Json.Spells Json.depthLimit tokens (.arr items) ∧ List.Forall₂ IsTable items listed

/-- The tables are those that are listed.  Of a repeated table the last one counts, and of the
rows of one identifier the last one; a row without an identifier does not count. -/
structure AreListed (listed : List (String × List Record)) (tables : Tables) : Prop where
  names : ∀ name, (tables.get? name).isSome = true ↔ ∃ records, (name, records) ∈ listed
  rows : ∀ name id r, tables.find? name id = some r ↔
    id ≠ "" ∧ ∃ records, IsLast (fun t => t.1 = name) listed (name, records) ∧
      IsLast (fun q => q.id = id) records r

/-- The row of an identifier. -/
theorem get?_ofRows_eq_some_iff {records : List Record} {id : String} {r : Record} :
    (ofRows records).get? id = some r ↔ id ≠ "" ∧ IsLast (fun q => q.id = id) records r := by
  have hfind : ∀ l : List Record,
      Entries.get? id (l.map fun q => (q.id, q)) = l.find? fun q => decide (q.id = id) := by
    intro l
    rw [Entries.get?_eq_map_find?, List.find?_map, Option.map_map]
    exact Option.map_id'
  unfold ofRows
  rw [KeyMap.get?_ofList, ← List.map_reverse, hfind, ← List.filter_reverse, List.find?_filter,
    isLast_iff_find?]
  by_cases hid : id = ""
  · subst hid
    refine iff_of_false ?_ fun h => h.1 rfl
    intro h
    have htest := List.find?_some h
    simp at htest
  · have htest : (fun q : Record => decide ((!q.id.isEmpty) = true ∧ decide (q.id = id) = true)) =
        fun q => decide (q.id = id) := by
      funext q
      by_cases hq : q.id = id
      · simp [hq, hid]
      · simp [hq]
    rw [htest]
    exact (and_iff_right hid).symm

/-- The tables that are listed. -/
theorem areListed_ofList (listed : List (String × List Record)) :
    AreListed listed (KeyMap.ofList (listed.map fun t => (t.1, ofRows t.2))) := by
  have hget : ∀ name, KeyMap.get? (KeyMap.ofList (listed.map fun t => (t.1, ofRows t.2))) name =
      (Entries.get? name listed.reverse).map ofRows := by
    intro name
    rw [KeyMap.get?_ofList, ← List.map_reverse, Entries.get?_map_snd]
  constructor
  · intro name
    rw [hget, Option.isSome_map, Option.isSome_iff_exists]
    constructor
    · rintro ⟨records, hrecords⟩
      exact ⟨records, List.mem_reverse.1 (Entries.mem_of_get? hrecords)⟩
    · rintro ⟨records, hmem⟩
      rw [← Option.isSome_iff_exists, ← Option.ne_none_iff_isSome]
      intro hnone
      exact Entries.get?_eq_none_iff.1 hnone _ (List.mem_reverse.2 hmem) rfl
  · intro name id r
    unfold find? Tables.rows
    rw [hget]
    cases hrecords : Entries.get? name listed.reverse with
    | none =>
      refine iff_of_false (fun h => by cases h) ?_
      rintro ⟨-, records, hlast, -⟩
      rw [Entries.get?_reverse_eq_some_iff.2 hlast] at hrecords
      cases hrecords
    | some records =>
      refine get?_ofRows_eq_some_iff.trans (and_congr_right fun _ => ?_)
      constructor
      · intro hr
        exact ⟨records, Entries.get?_reverse_eq_some_iff.1 hrecords, hr⟩
      · rintro ⟨others, hlast, hr⟩
        rw [Entries.get?_reverse_eq_some_iff.2 hlast] at hrecords
        cases hrecords
        exact hr

/-- What is listed determines the tables. -/
theorem AreListed.unique {listed : List (String × List Record)} {a b : Tables}
    (ha : AreListed listed a) (hb : AreListed listed b) : a = b := by
  refine KeyMap.ext_get? fun name => ?_
  have hname : (a.get? name).isSome = (b.get? name).isSome := by
    rw [Bool.eq_iff_iff, ha.names, hb.names]
  have hfind : ∀ id, a.find? name id = b.find? name id := by
    intro id
    ext r
    rw [ha.rows, hb.rows]
  unfold find? Tables.rows at hfind
  cases hx : a.get? name with
  | none =>
    rw [hx] at hname
    exact (Option.isSome_eq_false_iff.1 hname.symm |> Option.isNone_iff_eq_none.1).symm
  | some x =>
    rw [hx] at hname hfind
    obtain ⟨y, hy⟩ := Option.isSome_iff_exists.1 hname.symm
    rw [hy] at hfind ⊢
    exact congrArg some (KeyMap.ext_get? hfind)

/-- **Which texts are tables.** -/
theorem ofText?_eq_some_iff {text : String} {tables : Tables} :
    ofText? text = some tables ↔ ∃ listed, Lists text listed ∧ AreListed listed tables := by
  have hitems : ∀ (items : List Json) (listed : List (String × List Record)),
      items.mapM table? = some listed ↔ List.Forall₂ IsTable items listed := by
    intro items listed
    simp only [mapM_eq_some_iff, table?_eq_some_iff]
  constructor
  · intro h
    unfold ofText? at h
    split at h
    · rename_i items hwritten
      obtain ⟨listed, hlisted, rfl⟩ := Option.map_eq_some_iff.1 h
      obtain ⟨tokens, htokens, hvalue⟩ := Option.bind_eq_some_iff.1 hwritten
      exact ⟨listed, ⟨tokens, items, htokens, Json.ofTokens?_eq_some_iff.1 hvalue,
        (hitems items listed).1 hlisted⟩, areListed_ofList listed⟩
    · cases h
  · rintro ⟨listed, ⟨tokens, items, htokens, hvalue, hlisted⟩, htables⟩
    have hwritten : Json.written? text = some (.arr items) :=
      Option.bind_eq_some_iff.2 ⟨tokens, htokens, Json.ofTokens?_eq_some_iff.2 hvalue⟩
    unfold ofText?
    rw [hwritten]
    dsimp only
    rw [(hitems items listed).2 hlisted, Option.map_some,
      (areListed_ofList listed).unique htables]

/-- The first table named `a` gives way to the second one, whose row for `x` is the last. -/
example :
    (ofText? "[[\"a\",[\x7b\"id\":\"y\"\x7d]],[\"b\",[\x7b\x7d]],
      [\"a\",[\x7b\"id\":\"x\"\x7d,\x7b\"id\":\"x\",\"createdDate\":7\x7d]]]").map
        (fun tables => tables.entries.map fun e => (e.1, e.2.values)) =
      some [("a", [{ Record.withId "x" with createdDate := some 7 }]), ("b", [])] := by
  decide +kernel

end Tables

/-! ## Loading -/

namespace Store

/-- The tables that the file of a store stands for.  Without a file there are none. -/
inductive FileSays (files : FileTree) : Option String → Tables → Prop
  /-- The store has no file. -/
  | unset : FileSays files none .empty
  /-- The file is missing. -/
  | missing {path : String} (hmissing : files.readBytes path = .error .missing) :
      FileSays files (some path) .empty
  /-- The bytes of the file are a text, and the text is a list of tables. -/
  | listed {path text : String} {listed : List (String × List Record)} {tables : Tables}
      (hbytes : files.readBytes path = .ok text.toUTF8) (hlists : Tables.Lists text listed)
      (htables : Tables.AreListed listed tables) : FileSays files (some path) tables

/-- What a file stands for, by what comes of reading it. -/
theorem fileSays_some_iff {files : FileTree} {path : String} {tables : Tables} :
    FileSays files (some path) tables ↔
      files.readText path = .error .missing ∧ tables = .empty ∨
        ∃ text, files.readText path = .ok text ∧ Tables.ofText? text = some tables := by
  simp only [FileTree.readText_eq_missing_iff, FileTree.readText_eq_ok_iff,
    Tables.ofText?_eq_some_iff]
  constructor
  · intro h
    cases h with
    | missing hmissing => exact Or.inl ⟨hmissing, rfl⟩
    | listed hbytes hlists htables => exact Or.inr ⟨_, hbytes, _, hlists, htables⟩
  · rintro (⟨hmissing, rfl⟩ | ⟨text, hbytes, listed, hlists, htables⟩)
    · exact .missing hmissing
    · exact .listed hbytes hlists htables

/-- A file stands for one content at most. -/
theorem FileSays.unique {files : FileTree} {path : Option String} {a b : Tables}
    (ha : FileSays files path a) (hb : FileSays files path b) : a = b := by
  cases path with
  | none =>
    cases ha
    cases hb
    rfl
  | some path =>
    rcases fileSays_some_iff.1 ha with ⟨hread, rfl⟩ | ⟨text, hread, htext⟩
    · rcases fileSays_some_iff.1 hb with ⟨-, rfl⟩ | ⟨text, hread', -⟩
      · rfl
      · rw [hread] at hread'
        cases hread'
    · rcases fileSays_some_iff.1 hb with ⟨hread', -⟩ | ⟨text', hread', htext'⟩
      · rw [hread] at hread'
        cases hread'
      · rw [hread] at hread'
        cases hread'
        rw [htext] at htext'
        exact Option.some.inj htext'

/-- **When a load succeeds, and what it leaves.** -/
theorem load_eq_ok_iff {s s' : Store} {files : FileTree} :
    s.load files = .ok s' ↔ s.poisoned = false ∧
      ∃ tables, FileSays files s.settings.path tables ∧ s' = { s with tables } := by
  have hreplace : ∀ tables : Tables, s.replace tables = .ok s' ↔
      s.poisoned = false ∧ s' = { s with tables } := by
    intro tables
    unfold replace access
    cases s.poisoned <;> simp [Except.map, eq_comm]
  unfold load
  -- without a path, and without a file, the store is cleared
  cases s.settings.path with
  | none =>
    dsimp only
    rw [hreplace]
    refine and_congr_right fun _ => ⟨fun h => ⟨_, .unset, h⟩, ?_⟩
    rintro ⟨tables, hsays, h⟩
    cases hsays
    exact h
  | some path =>
    simp only [fileSays_some_iff]
    split
    · rename_i hread
      simp [hread, hreplace]
    · rename_i fault hfault hread
      have hfault : fault ≠ .missing := hfault
      simp [hread, hfault]
    · rename_i text hread
      cases htables : Tables.ofText? text with
      | none => simp [hread, htables]
      | some tables => simp [hread, htables, hreplace]

end Store

/-- **A load is all or nothing.**  Unless the store is poisoned, it takes exactly the tables that
its file stands for, whatever it held before.  If it is poisoned, or its file stands for no
tables, the load fails and the server is as it was. -/
theorem Server.load_all_or_nothing (s : Server) (id : StoreId) :
    ((s.store id).poisoned = false ∧
        ∃ tables, Store.FileSays s.files (s.store id).settings.path tables ∧
          (∀ other, Store.FileSays s.files (s.store id).settings.path other → other = tables) ∧
          s.load id = (.ok (), s.setStore id { s.store id with tables })) ∨
      (((s.store id).poisoned = true ∨
          ∀ tables, ¬ Store.FileSays s.files (s.store id).settings.path tables) ∧
        ∃ f, s.load id = (.error f, s)) := by
  unfold load
  cases hload : (s.store id).load s.files with
  | ok store =>
    obtain ⟨hpoisoned, tables, hsays, rfl⟩ := Store.load_eq_ok_iff.1 hload
    exact Or.inl ⟨hpoisoned, tables, hsays, fun other hother => hother.unique hsays, rfl⟩
  | error f =>
    refine Or.inr ⟨?_, f, rfl⟩
    cases hpoisoned : (s.store id).poisoned with
    | true => exact Or.inl rfl
    | false =>
      refine Or.inr fun tables hsays => ?_
      rw [Store.load_eq_ok_iff.2 ⟨hpoisoned, tables, hsays, rfl⟩] at hload
      cases hload

end SessionTasks
