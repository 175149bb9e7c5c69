/-
# Taking structures out of JSON

A structure is an object with its fields by name, or a list with its fields in the order of
their names.  Names that the structure does not have are ignored.  A field that is absent
has a default, or is an error.
-/
import SessionTasks.Json
namespace SessionTasks.Json

/-- What a data format leaves open about structures. -/
structure Dialect where
  /-- A list may be longer than the structure has fields. -/
  surplus : Bool
  /-- What may stand beside a name that is written as the one member of an object. -/
  isUnit : Json → Bool

/-- A list has no more items than there are fields, and a name stands beside `null`. -/
def Dialect.json : Dialect := ⟨false, fun v => v = .null⟩

/-- The fields of a value that stands for a structure. -/
structure Fields where
  /-- What is given for a name. -/
  given? : String → Option Json

/-- The item that stands at the place of `name` among the names. -/
def itemFor? (name : String) : List String → List Json → Option Json
  | n :: names, v :: items => if n = name then some v else itemFor? name names items
  | _, _ => none

/-- The fields of an object or a list. -/
def fields? (dialect : Dialect) (names : List String) : Json → Option Fields
  | .obj members => some ⟨fun name => Entries.get? name members⟩
  | .arr items =>
    if items.length ≤ names.length ∨ dialect.surplus then
      some ⟨fun name => itemFor? name names items⟩
    else none
  | _ => none

namespace Fields

/-- A field that has to be there. -/
def required? {α : Type} (f : Fields) (name : String) (decode : Json → Option α) : Option α :=
  (f.given? name).bind decode

/-- A field that may be absent or `null`. -/
def optional? {α : Type} (f : Fields) (name : String) (decode : Json → Option α) :
    Option (Option α) :=
  match f.given? name with
  | none | some .null => some none
  | some v => (decode v).map some

/-- A field that has a value of its own when it is absent. -/
def orElse? {α : Type} (f : Fields) (name : String) (default : α) (decode : Json → Option α) :
    Option α :=
  match f.given? name with
  | none => some default
  | some v => decode v

end Fields

/-! ## Values of one kind -/

/-- A text. -/
def text? : Json → Option String
  | .str s => some s
  | _ => none

/-- A truth value. -/
def flag? : Json → Option Bool
  | .bool b => some b
  | _ => none

/-- A whole number of sixty-four bits with a sign. -/
def stamp? : Json → Option Int64
  | .int n => if -Int.pow 2 63 ≤ n ∧ n < Int.pow 2 63 then some (Int64.ofInt n) else none
  | _ => none

/-- A whole number of sixty-four bits without a sign. -/
def count? : Json → Option UInt64
  | .int n => if 0 ≤ n ∧ n < Int.pow 2 64 then some (UInt64.ofNat n.toNat) else none
  | _ => none

/-- A number; a whole one is rounded to a double. -/
def double? : Json → Option Binary64
  | .double x => some x
  | .int n => some (.ofInt n)
  | _ => none

/-- An object, as a map. -/
def map? : Json → Option (KeyMap Json)
  | .obj members => some (.ofList members)
  | _ => none

/-- A name: a text, or the one member of an object. -/
def name? (dialect : Dialect) : Json → Option String
  | .str s => some s
  | .obj [(s, v)] => if dialect.isUnit v then some s else none
  | _ => none

/-- A whole number with a sign, as JSON. -/
def ofStamp (n : Int64) : Json := .int n.toInt

/-- A whole number without a sign, as JSON. -/
def ofCount (n : UInt64) : Json := .int n.toNat

/-- A value that may be absent, as JSON. -/
def ofOption {α : Type} (encode : α → Json) : Option α → Json
  | none => .null
  | some a => encode a

end SessionTasks.Json
