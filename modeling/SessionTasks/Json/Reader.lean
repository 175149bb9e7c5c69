/-
# Reading JSON

A value is put together token by token.  The containers that are still open form a stack;
at most 127 may be open at once.

* `written?` keeps the members of objects as they are written, repeated names included;
* `parse?` gives the canonical value.
-/
import SessionTasks.Json
import SessionTasks.Json.Token
import SessionTasks.Json.Number
namespace SessionTasks.Json

/-- How many containers may be open at once. -/
def depthLimit : Nat := 127

/-- A container that is still open.  What is done so far is kept last first. -/
inductive Frame where
  /-- A list and its items. -/
  | items (done : List Json)
  /-- An object, its members, and the name whose value is being read. -/
  | member (done : List (String × Json)) (name : String)

/-- A value being read, inside the containers `outer`, innermost first. -/
inductive Draft where
  /-- A value comes next. -/
  | value (outer : List Frame)
  /-- A list was opened: an item or its end comes next. -/
  | firstItem (outer : List Frame)
  /-- An object was opened: a name or its end comes next. -/
  | firstName (outer : List Frame)
  /-- A name comes next. -/
  | nextName (outer : List Frame) (done : List (String × Json))
  /-- A colon comes next. -/
  | colon (outer : List Frame) (done : List (String × Json)) (name : String)
  /-- A value has been read. -/
  | read (outer : List Frame) (value : Json)

/-- The first token of a value. -/
def Draft.start? (outer : List Frame) : Token → Option Draft
  | .text s => some (.read outer (.str s))
  | .word w => (ofWord? w).map (.read outer)
  | .openList => if outer.length < depthLimit then some (.firstItem outer) else none
  | .openObject => if outer.length < depthLimit then some (.firstName outer) else none
  | _ => none

/-- Reads one token. -/
def Draft.step : Draft → Token → Option Draft
  | .value outer, t => Draft.start? outer t
  | .firstItem outer, .closeList => some (.read outer (.arr []))
  | .firstItem outer, t => Draft.start? (.items [] :: outer) t
  | .firstName outer, .closeObject => some (.read outer (.obj []))
  | .firstName outer, .text k => some (.colon outer [] k)
  | .nextName outer done, .text k => some (.colon outer done k)
  | .colon outer done k, .colon => some (.value (.member done k :: outer))
  | .read (.items done :: outer) v, .comma => some (.value (.items (v :: done) :: outer))
  | .read (.items done :: outer) v, .closeList => some (.read outer (.arr (v :: done).reverse))
  | .read (.member done k :: outer) v, .comma => some (.nextName outer ((k, v) :: done))
  | .read (.member done k :: outer) v, .closeObject =>
    some (.read outer (.obj ((k, v) :: done).reverse))
  | _, _ => none

/-- The value that a list of tokens spells. -/
def ofTokens? (tokens : List Token) : Option Json :=
  match tokens.foldlM Draft.step (.value []) with
  | some (.read [] v) => some v
  | _ => none

/-- Reads a value as it is written. -/
def written? (text : String) : Option Json :=
  (tokens? text.toList).bind ofTokens?

/-- Reads a value; of a repeated name the last value stays. -/
def parse? (text : String) : Option Json := (written? text).map canonical

end SessionTasks.Json
