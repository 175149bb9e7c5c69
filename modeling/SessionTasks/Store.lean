/-
# Stores

A store keeps records in tables, by name, and the rows of a table by their identifiers.  A
table comes to be when it is first written to.  A change that breaks off poisons the store:
from then on every operation on its tables fails.
-/
import SessionTasks.Record
import SessionTasks.Example
namespace SessionTasks

/-- The rows of a table, by their identifiers. -/
abbrev Rows := KeyMap Record

/-- Tables by name. -/
abbrev Tables := KeyMap Rows

/-- Where a store is kept. -/
structure StoreSettings where
  /-- The path of its file. -/
  path : Option String := none
  /-- The store reads its file when it is opened. -/
  loadOnStartup : Bool := false
  deriving DecidableEq

/-- Records in tables. -/
structure Store where
  /-- Where the store is kept. -/
  settings : StoreSettings := {}
  /-- The tables. -/
  tables : Tables := .empty
  /-- A change broke off. -/
  poisoned : Bool := false
  deriving DecidableEq

/-! ## Tables -/

namespace Tables

/-- The rows of a table; one that was never written to has none. -/
def rows (tables : Tables) (table : String) : Rows := (tables.get? table).getD .empty

/-- The row of a table. -/
def find? (tables : Tables) (table id : String) : Option Record := (tables.rows table).get? id

/-- Puts a row into a table, under its identifier. -/
def write (tables : Tables) (table : String) (r : Record) : Tables :=
  tables.insert table ((tables.rows table).insert r.id r)

/-- Drops a row; its table stays. -/
def drop (tables : Tables) (table id : String) : Tables :=
  match tables.get? table with
  | some rows => tables.insert table (rows.erase id)
  | none => tables

end Tables

/-! ## Changes to one record -/

/-- How a change to a record comes out. -/
inductive Change where
  /-- The record it makes. -/
  | done (r : Record)
  /-- It refuses. -/
  | refused (f : Failure)
  /-- It breaks off. -/
  | broken (text : String)

/-- How a store answers to a change. -/
inductive Changed where
  /-- There is no such record, and the change was not tried. -/
  | missing
  /-- The record as it is now stored. -/
  | stored (r : Record)
  /-- The record is as it was. -/
  | refused (f : Failure)
  /-- The record is as it was, and the store is poisoned. -/
  | broken (text : String)

namespace Store

/-- The tables, unless the store is poisoned. -/
def access (s : Store) : Except Failure Tables :=
  if s.poisoned then .error .storePoisoned else .ok s.tables

/-! ## Looking up -/

/-- The names of the tables. -/
def tableNames (s : Store) : Except Failure (List String) := (·.keys) <$> s.access

/-- The row of a table. -/
def find? (s : Store) (table id : String) : Except Failure (Option Record) :=
  (·.find? table id) <$> s.access

/-- The rows of a table, in the order of their identifiers. -/
def all (s : Store) (table : String) : Except Failure (List Record) :=
  (fun tables => (tables.rows table).values) <$> s.access

/-- The rows of a table that match an example. -/
def findAll (s : Store) (table : String) (e : Example) : Except Failure (List Record) :=
  (List.filter e.Matches) <$> s.all table

/-- The first row of a table that matches an example. -/
def findFirst (s : Store) (table : String) (e : Example) : Except Failure (Option Record) :=
  (List.find? e.Matches) <$> s.all table

/-! ## Writing -/

/-- The record as it is stored over what is there: it gets an identifier if it has none,
and keeps the time it was first stored. -/
def stamped (existing : Option Record) (now : Int64) (fresh : String) (r : Record) : Record :=
  if r.id.isEmpty then { r with id := fresh, createdDate := some now }
  else
    let date := ((existing.bind Record.createdDate).or r.createdDate).getD now
    { r with createdDate := some date }

/-- Stores a record, new or changed, and gives it back as it is stored. -/
def put (s : Store) (now : Int64) (fresh table : String) (r : Record) :
    Except Failure Record × Store :=
  match s.access with
  | .error f => (.error f, s)
  | .ok tables =>
    let stored := stamped (tables.find? table r.id) now fresh r
    (.ok stored, { s with tables := tables.write table stored })

/-- Changes one record.  Its identifier and the time it was first stored stay as they
are. -/
def modify (s : Store) (table id : String) (change : Record → Change) : Changed × Store :=
  match s.access with
  | .error f => (.refused f, s)
  | .ok tables =>
    match tables.find? table id with
    | none => (.missing, s)
    | some old =>
      match change old with
      | .refused f => (.refused f, s)
      | .broken text => (.broken text, { s with poisoned := true })
      | .done new =>
        let stored :=
          { new with id := old.id, createdDate := old.createdDate.or new.createdDate }
        let rows := (tables.rows table).insert id stored
        (.stored stored, { s with tables := tables.insert table rows })

/-- Drops a record, and gives it back if there was one. -/
def delete (s : Store) (table id : String) : Except Failure (Option Record) × Store :=
  match s.access with
  | .error f => (.error f, s)
  | .ok tables => (.ok (tables.find? table id), { s with tables := tables.drop table id })

/-- Drops a table, and gives back how many rows it had. -/
def deleteTable (s : Store) (table : String) : Except Failure Nat × Store :=
  match s.access with
  | .error f => (.error f, s)
  | .ok tables => (.ok (tables.rows table).size, { s with tables := tables.erase table })

/-- Drops every table. -/
def clear (s : Store) : Except Failure Unit × Store :=
  match s.access with
  | .error f => (.error f, s)
  | .ok _ => (.ok (), { s with tables := .empty })

end Store

end SessionTasks
