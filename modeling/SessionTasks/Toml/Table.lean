/-
# Tables of TOML

The tables of a document grow line by line.  A table is written under one header only, and
a table that a dotted key has made is extended by dotted keys only; what breaks these rules
is refused.
-/
import SessionTasks.Json
namespace SessionTasks.Toml

/-- What stands under a name. -/
inductive Node where
  /-- A finished value. -/
  | value (v : Json)
  /-- A table.  An implicit one has no header of its own; a dotted one was made by a
  dotted key. -/
  | table (implicit dotted : Bool) (entries : List (String × Node))
  /-- Tables under repeated headers, last first. -/
  | tables (done : List (List (String × Node)))

/-- The names of a table, in any order, and what stands under them. -/
abbrev Entries := List (String × Node)

namespace Entries

/-- What stands under a name. -/
def find? (name : String) (entries : Entries) : Option Node := entries.lookup name

/-- Puts a node under a name. -/
def put (name : String) (node : Node) (entries : Entries) : Entries :=
  (name, node) :: entries.filter (·.1 ≠ name)

/-- Changes the table at the end of a path, and makes the tables on the way that do not
exist.  `byKey` tells whether the path is that of a dotted key; such a path does not lead
through a table with a header.  `change` learns whether its table is a dotted one. -/
def change? (byKey : Bool) (change : Bool → Entries → Option Entries) :
    (path : List String) → (dotted : Bool) → Entries → Option Entries
  | [], dotted, entries => change dotted entries
  | name :: path, _, entries =>
    match find? name entries with
    | none => do
      let inner ← change? byKey change path byKey []
      return put name (.table true byKey inner) entries
    | some (.table implicit dotted inner) => do
      if byKey && !implicit then none
      let inner ← change? byKey change path dotted inner
      return put name (.table implicit dotted inner) entries
    | some (.tables (last :: others)) => do
      let last ← change? byKey change path false last
      return put name (.tables (last :: others)) entries
    | some _ => none

/-- Adds a value under a dotted key: the names on the way, and the last name. -/
def add? (path : List String) (name : String) (v : Json) (entries : Entries) : Option Entries :=
  change? true (fun dotted es =>
    if dotted = path.isEmpty ∨ (find? name es).isSome then none
    else some (put name (.value v) es)) path false entries

/-- Starts a table under a header. -/
def startTable? (path : List String) (name : String) (entries : Entries) : Option Entries :=
  change? false (fun _ es =>
    match find? name es with
    | none => some (put name (.table false false []) es)
    | some (.table true false inner) => some (put name (.table false false inner) es)
    | some _ => none) path false entries

/-- Starts one more table under a repeated header. -/
def startItem? (path : List String) (name : String) (entries : Entries) : Option Entries :=
  change? false (fun _ es =>
    match find? name es with
    | none => some (put name (.tables [[]]) es)
    | some (.tables done) => some (put name (.tables ([] :: done)) es)
    | some _ => none) path false entries

end Entries

/-! ## As JSON -/

mutual
/-- A node as JSON. -/
def Node.toJson : Node → Json
  | .value v => v
  | .table _ _ entries => .object (membersOf entries)
  | .tables done => .arr (itemsOf done).reverse

/-- The members that a table stands for. -/
def membersOf : List (String × Node) → List (String × Json)
  | [] => []
  | (name, node) :: rest => (name, node.toJson) :: membersOf rest

/-- The objects that tables stand for. -/
def itemsOf : List (List (String × Node)) → List Json
  | [] => []
  | entries :: rest => .object (membersOf entries) :: itemsOf rest
end

/-- A table as an object. -/
def Entries.toJson (entries : Entries) : Json := .object (membersOf entries)

end SessionTasks.Toml
