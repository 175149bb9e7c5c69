/-
# Quoted text in JSON

A quote, a backslash and the control characters below the space are escaped; every other
character stands for itself.
-/
import SessionTasks.Text.Digits
namespace SessionTasks.Json

/-- One character of a quoted text. -/
def escape (c : Char) : List Char :=
  match c with
  | '"' => ['\\', '"']
  | '\\' => ['\\', '\\']
  | '\x08' => ['\\', 'b']
  | '\x0c' => ['\\', 'f']
  | '\n' => ['\\', 'n']
  | '\r' => ['\\', 'r']
  | '\t' => ['\\', 't']
  | _ => if c.toNat < 32 then '\\' :: 'u' :: Text.hex 4 c.toNat else [c]

/-- A text between quotes. -/
def quote (text : List Char) : List Char := '"' :: text.flatMap escape ++ ['"']

end SessionTasks.Json
