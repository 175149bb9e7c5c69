/-
# Writing JSON

One printer serves both layouts: `compact`, on one line without blanks, and `pretty`, with
each item on a line of its own, two blanks deeper than its container.  An empty container
is written without a break.
-/
import SessionTasks.Json
import SessionTasks.Json.Quoted
import SessionTasks.Binary64.Shortest
namespace SessionTasks.Json

/-- Where a printed value is broken into lines. -/
structure Layout where
  /-- What stands before each item and before the closing bracket, by depth. -/
  breakAt : Nat → List Char
  /-- What stands between a colon and the value. -/
  afterColon : List Char

/-- Everything on one line. -/
def Layout.compact : Layout := ⟨fun _ => [], []⟩

/-- One item a line, indented by two blanks a level. -/
def Layout.pretty : Layout := ⟨fun depth => '\n' :: List.replicate (2 * depth) ' ', [' ']⟩

mutual
/-- The text of a value that stands at the given depth. -/
def write (layout : Layout) (depth : Nat) : Json → List Char
  | .null => "null".toList
  | .bool true => "true".toList
  | .bool false => "false".toList
  | .int n => Text.signedDecimal n
  | .double x => if x.isFinite then x.write else "null".toList
  | .str s => quote s.toList
  | .arr [] => ['[', ']']
  | .arr (v :: rest) =>
    '[' :: layout.breakAt (depth + 1) ++ write layout (depth + 1) v
      ++ writeItems layout (depth + 1) rest ++ layout.breakAt depth ++ [']']
  | .obj [] => ['{', '}']
  | .obj ((k, v) :: rest) =>
    '{' :: layout.breakAt (depth + 1) ++ quote k.toList ++ ':' :: layout.afterColon
      ++ write layout (depth + 1) v ++ writeMembers layout (depth + 1) rest
      ++ layout.breakAt depth ++ ['}']

/-- The items after the first. -/
def writeItems (layout : Layout) (depth : Nat) : List Json → List Char
  | [] => []
  | v :: rest =>
    ',' :: layout.breakAt depth ++ write layout depth v ++ writeItems layout depth rest

/-- The members after the first. -/
def writeMembers (layout : Layout) (depth : Nat) : List (String × Json) → List Char
  | [] => []
  | (k, v) :: rest =>
    ',' :: layout.breakAt depth ++ quote k.toList ++ ':' :: layout.afterColon
      ++ write layout depth v ++ writeMembers layout depth rest
end

/-- A value on one line. -/
def compact (v : Json) : String := String.ofList (write .compact 0 v)

/-- A value with one item a line. -/
def pretty (v : Json) : String := String.ofList (write .pretty 0 v)

end SessionTasks.Json
