/-
# Queries by example

An example lists some columns, each with a rule; a record matches if every listed column
has a value that obeys its rule.  Two numbers agree if they are the same, or if one of them
is a double and both round to equal doubles.
-/
import SessionTasks.Record
namespace SessionTasks

/-! ## Agreement of values -/

namespace Json

/-- Agreement of values that hold no others. -/
def scalarAgrees : Json → Json → Bool
  | .int a, .int b => a = b
  | .int a, .double b => (Binary64.ofInt a).eqv b
  | .double a, .int b => a.eqv (.ofInt b)
  | .double a, .double b => a.eqv b
  | .null, .null => true
  | .bool a, .bool b => a = b
  | .str a, .str b => a = b
  | _, _ => false

mutual
/-- Agreement of values all the way down.  Two objects agree if they have equally many
members and each member of the first agrees with the one of that name in the second. -/
def agrees : Json → Json → Bool
  | .arr as, .arr bs => agreesItems as bs
  | .obj as, .obj bs => as.length = bs.length && agreesMembers as bs
  | a, b => scalarAgrees a b

/-- Agreement of lists, item by item. -/
def agreesItems : List Json → List Json → Bool
  | [], [] => true
  | a :: as, b :: bs => agrees a b && agreesItems as bs
  | _, _ => false

/-- Each member agrees with the one of that name among the others. -/
def agreesMembers : List (String × Json) → List (String × Json) → Bool
  | [], _ => true
  | (k, a) :: as, bs =>
    (match Entries.get? k bs with
      | some b => agrees a b
      | none => false) && agreesMembers as bs
end

end Json

/-! ## Rules -/

/-- What a column has to be. -/
inductive FieldRule where
  /-- This value, which holds no others. -/
  | equals (wanted : Json)
  /-- A list with an item that agrees with each of these values. -/
  | containsAll (wanted : List Json)
  /-- An object that agrees with this one. -/
  | object (wanted : List (String × Json))
  deriving DecidableEq

namespace FieldRule

/-- The rule that goes with the shape of a value. -/
def ofJson : Json → FieldRule
  | .arr items => .containsAll items
  | .obj members => .object members
  | scalar => .equals scalar

/-- The value of a column, if it has one, obeys the rule. -/
def holds (rule : FieldRule) (actual : Option Json) : Bool :=
  match rule, actual with
  | _, none => false
  | .equals wanted, some v => Json.scalarAgrees wanted v
  | .containsAll wanted, some (.arr items) => wanted.all fun w => items.any (Json.agrees w)
  | .containsAll _, some _ => false
  | .object wanted, some (.obj members) => Json.agrees (.obj wanted) (.obj members)
  | .object _, some _ => false

end FieldRule

/-! ## Examples -/

/-- Rules for some columns, each column once. -/
structure Example where
  /-- The rules, by column. -/
  rules : List (String × FieldRule)
  deriving DecidableEq

namespace Example

/-- The example that every record matches. -/
def empty : Example := ⟨[]⟩

/-- Sets the rule for a column. -/
def add (e : Example) (column : String) (rule : FieldRule) : Example :=
  ⟨e.rules.filter (·.1 ≠ column) ++ [(column, rule)]⟩

/-- Sets the rule for a column by the shape of a value. -/
def addValue (e : Example) (column : String) (value : Json) : Example :=
  e.add column (.ofJson value)

/-- One rule for each member of an object. -/
def ofJson (v : Json) : Except Failure Example :=
  match v with
  | .obj members => .ok (members.foldl (fun e m => e.addValue m.1 m.2) empty)
  | _ => .error .exampleNotObject

/-- Every rule holds of the record. -/
def Matches (e : Example) (r : Record) : Bool :=
  e.rules.all fun rule => rule.2.holds (r.field? rule.1)

end Example

end SessionTasks
