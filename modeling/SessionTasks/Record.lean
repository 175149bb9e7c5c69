/-
# Records

A record is a row of a table: its identifier, the time it was created, and any other
columns by name.  The columns `id` and `createdDate` are never among the others.
-/
import SessionTasks.Failure
import SessionTasks.Json.Fields
namespace SessionTasks

/-- The columns that every record has. -/
def reservedColumns : List String := ["id", "createdDate"]

/-- A row of a table. -/
structure Record where
  /-- The identifier; empty until the record is stored. -/
  id : String
  /-- When the record was first stored. -/
  createdDate : Option Int64
  /-- The other columns. -/
  fields : KeyMap Json
  /-- The other columns have other names. -/
  unreserved : ∀ name ∈ reservedColumns, fields.get? name = none
  deriving DecidableEq

namespace Record

/-- A record without columns. -/
def empty : Record := ⟨"", none, .empty, fun _ _ => rfl⟩

instance : Inhabited Record := ⟨empty⟩

/-- A record without columns under an identifier. -/
def withId (id : String) : Record := { empty with id }

theorem unreserved_insert {fields : KeyMap Json}
    (h : ∀ name ∈ reservedColumns, fields.get? name = none) {name : String}
    (hn : name ∉ reservedColumns) (value : Json) :
    ∀ other ∈ reservedColumns, (fields.insert name value).get? other = none := by
  intro other ho
  have hne : name ≠ other := fun e => hn (e ▸ ho)
  simp [KeyMap.get?_insert, hne, h other ho]

/-- Sets a column.  Only a text becomes the identifier, and what is not a time leaves the
record without one. -/
def set (r : Record) (name : String) (value : Json) : Record :=
  if name = "id" then
    match value with
    | .str id => { r with id }
    | _ => r
  else if name = "createdDate" then { r with createdDate := value.stamp? }
  else if h : name ∈ reservedColumns then r
  else { r with
    fields := r.fields.insert name value
    unreserved := unreserved_insert r.unreserved h value }

/-- The value of a column.  An empty identifier and an absent time are no values. -/
def field? (r : Record) (name : String) : Option Json :=
  if name = "id" then if r.id.isEmpty then none else some (.str r.id)
  else if name = "createdDate" then r.createdDate.map Json.ofStamp
  else r.fields.get? name

/-- Sets several columns, one after the other. -/
def setAll (r : Record) (columns : List (String × Json)) : Record :=
  columns.foldl (fun r e => r.set e.1 e.2) r

/-! ## As JSON -/

/-- The columns with values, the two that every record has first. -/
def columns (r : Record) : List (String × Json) :=
  ("id", .str r.id) :: (r.createdDate.map fun d => ("createdDate", Json.ofStamp d)).toList
    ++ r.fields.entries

/-- The record as an object. -/
def toJson (r : Record) : Json := .object r.columns

/-- The record whose columns are the members of an object.  An identifier is a text, a
time a whole number or `null`; both may be absent. -/
def ofMembers? (members : List (String × Json)) : Option Record := do
  let given := Json.Fields.mk fun name => Entries.get? name members
  let id ← given.orElse? "id" "" Json.text?
  let createdDate ← given.optional? "createdDate" Json.stamp?
  let others := members.filter fun e => e.1 ∉ reservedColumns
  return { empty.setAll others with id, createdDate }

/-- The record that an object is. -/
def ofJson (v : Json) : Except Failure Record :=
  match v with
  | .obj members =>
    match ofMembers? members with
    | some r => .ok r
    | none => .error .recordUndecodable
  | _ => .error .recordNotObject

end Record

end SessionTasks
