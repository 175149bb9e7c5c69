/-
# Stores in files

A store is written as a list of pairs, the name of a table and the list of its rows.  In a
row the columns `id` and `createdDate` come first.  Reading a file replaces every table; a
file that does not exist stands for no tables, and one that cannot be read changes nothing.
-/
import SessionTasks.Store
import SessionTasks.Json.Printer
import SessionTasks.Json.Reader
namespace SessionTasks

/-! ## Tables as text -/

namespace Tables

/-- The pairs of names and rows. -/
def toJson (tables : Tables) : Json :=
  .arr (tables.entries.map fun e =>
    .arr [.str e.1, .arr (e.2.values.map fun r => .obj r.columns)])

/-- The text of a file. -/
def toText (tables : Tables) : String := tables.toJson.pretty

/-- The members named `name`. -/
def occurrences (name : String) (members : List (String × Json)) : Nat :=
  members.countP (·.1 = name)

/-- Reads a row.  The columns that every record has are not repeated. -/
def row? : Json → Option Record
  | .obj members =>
    if reservedColumns.all fun name => occurrences name members ≤ 1 then
      match Json.canonical (.obj members) with
      | .obj members => Record.ofMembers? members
      | _ => none
    else none
  | _ => none

/-- Reads the name of a table and its rows. -/
def table? : Json → Option (String × List Record)
  | .arr [.str name, .arr rows] => (rows.mapM row?).map (name, ·)
  | _ => none

/-- The rows by their identifiers.  A row without one is dropped, and of a repeated one the
last row stays. -/
def ofRows (rows : List Record) : Rows :=
  .ofList ((rows.filter fun r => !r.id.isEmpty).map fun r => (r.id, r))

/-- Reads the text of a file.  Of a repeated table the last one stays. -/
def ofText? (text : String) : Option Tables :=
  match Json.written? text with
  | some (.arr items) =>
    (items.mapM table?).map fun tables => .ofList (tables.map fun t => (t.1, ofRows t.2))
  | _ => none

end Tables

/-! ## Saving and loading -/

namespace Store

/-- Writes the tables to the file of the store. -/
def save (s : Store) (files : FileTree) : Except Failure FileTree :=
  match s.settings.path with
  | none => .error .saveWithoutPath
  | some path =>
    match s.access with
    | .error f => .error f
    | .ok tables => (files.write path tables.toText.toUTF8).mapError (.unwritable path)

/-- The store with other tables, unless it is poisoned. -/
def replace (s : Store) (tables : Tables) : Except Failure Store :=
  s.access.map fun _ => { s with tables }

/-- Replaces the tables by those in the file of the store. -/
def load (s : Store) (files : FileTree) : Except Failure Store :=
  match s.settings.path with
  | none => s.replace .empty
  | some path =>
    match files.readText path with
    | .error .missing => s.replace .empty
    | .error fault => .error (.unreadable path fault)
    | .ok text =>
      match Tables.ofText? text with
      | none => .error (.undecodableFile path)
      | some tables => s.replace tables

/-- Loads the store if it is to be loaded when it is opened; tells whether it was. -/
def start (s : Store) (files : FileTree) : Except Failure (Bool × Store) :=
  if s.settings.loadOnStartup then (s.load files).map (true, ·) else .ok (false, s)

end Store

end SessionTasks
