/-
# Documents of TOML

A document is a list of lines: comments, headers of tables, and keys with values.  Arrays
and inline tables nest at most seventy-nine deep, and a key has fewer than eighty parts.
-/
import SessionTasks.Toml.Scalar
import SessionTasks.Toml.Table
namespace SessionTasks.Toml

open Text Text.Reader

/-! ## Blanks and comments -/

/-- Blanks inside a line. -/
def blanks : Reader Unit := do
  let _ ← run isBlank

/-- A comment, up to the end of its line. -/
def comment : Reader Unit := do
  exactly '#'
  let _ ← run isPlain

/-- What may stand behind the last token of a line, and the end of the line. -/
def lineEnd : Reader Unit := do
  blanks
  if (← peek) = some '#' then comment
  if (← peek).isSome then newline

/-- Blanks, line breaks and comments. -/
def spacing : Reader Unit :=
  loop (fun _ => do
    if ← atNewline then newline; return .inl ()
    else match ← peek with
      | some '#' => comment; newline; return .inl ()
      | some c => if isBlank c then blanks; return .inl () else return .inr ()
      | none => return .inr ()) ()

/-! ## Keys -/

/-- How deep keys, arrays and inline tables may go. -/
def depthLimit : Nat := 80

/-- A character of a key without quotes. -/
def isBareKeyChar (c : Char) : Bool := c.isAlphanum || c = '_' || c = '-'

/-- One part of a key. -/
def keyPart : Reader String := do
  match ← peek with
  | some '"' => basicText
  | some '\'' => literalText
  | _ => return String.ofList (← run1 isBareKeyChar)

/-- A key: the parts before the last, and the last. -/
def key : Reader (List String × String) := do
  let parts ← loop (fun done => do
    blanks
    let part ← keyPart
    blanks
    if (← peek) = some '.' then exactly '.'; return .inl (part :: done)
    else return .inr (part :: done)) []
  match parts with
  | last :: before => if parts.length < depthLimit then return (before.reverse, last) else refuse
  | [] => refuse

/-! ## Values -/

/-- A list of values between brackets. -/
def array (item : Reader Json) : Reader Json := do
  exactly '['
  loop (fun done => do
    spacing
    if (← peek) = some ']' then exactly ']'; return .inr (.arr done.reverse)
    else
      let v ← item
      spacing
      if (← peek) = some ',' then exactly ','; return .inl (v :: done)
      else exactly ']'; return .inr (.arr (v :: done).reverse)) []

/-- A key, an equals sign and a value. -/
def keyValue (item : Reader Json) : Reader (List String × String × Json) := do
  let (path, name) ← key
  exactly '='
  blanks
  return (path, name, ← item)

/-- Keys and values between braces, on one line. -/
def inlineTable (item : Reader Json) : Reader Json := do
  exactly '{'
  blanks
  if (← peek) = some '}' then exactly '}'; return .obj []
  else
    loop (fun entries => do
      let (path, name, v) ← keyValue item
      blanks
      let entries ← ofOption (Entries.add? path name v entries)
      if (← peek) = some ',' then exactly ','; return .inl entries
      else exactly '}'; return .inr entries.toJson) []

/-- A value in which at most `room` more containers may be opened. -/
def value : (room : Nat) → Reader Json
  | 0 => scalar
  | room + 1 => do
    match ← peek with
    | some '[' => array (value room)
    | some '{' => inlineTable (value room)
    | _ => scalar

/-! ## Lines -/

/-- The tables read so far, and the path of the table that the next keys belong to. -/
structure Draft where
  /-- The tables read so far. -/
  root : Entries
  /-- The path of the table that is being written. -/
  table : List String

/-- A header between single or double brackets. -/
def header (d : Draft) : Reader Draft := do
  let many ← startsWith ['[', '[']
  word (if many then ['[', '['] else ['['])
  let (path, name) ← key
  word (if many then [']', ']'] else [']'])
  lineEnd
  let root ← ofOption (if many then d.root.startItem? path name else d.root.startTable? path name)
  return ⟨root, path ++ [name]⟩

/-- A key and its value, in the table that is being written. -/
def entry (d : Draft) : Reader Draft := do
  let (path, name, v) ← keyValue (value (depthLimit - 1))
  lineEnd
  let root ← ofOption (d.root.change? false (fun _ es => es.add? path name v) d.table false)
  return { d with root }

/-- A whole document, as an object. -/
def document : Reader Json := do
  if (← peek) = some '\ufeff' then exactly '\ufeff'
  loop (fun d => do
    blanks
    match ← peek with
    | none => return .inr d.root.toJson
    | some '#' => lineEnd; return .inl d
    | some '[' => return .inl (← header d)
    | some '\n' | some '\r' => newline; return .inl d
    | some _ => return .inl (← entry d)) (Draft.mk [] [])

/-- Reads a document. -/
def parse? (text : String) : Option Json := (document text.toList).map (·.1)

end SessionTasks.Toml
