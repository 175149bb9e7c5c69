/-
# Quoted text in diagnostics

A text is shown between quotes so that every character of it can be told: quotes,
backslashes and characters that are not printed as themselves are escaped.
-/
import SessionTasks.Text.Digits
import SessionTasks.Text.Unprintable
namespace SessionTasks.Text

/-- The hexadecimal digits of a number, without leading zeros. -/
def shortHex (n : Nat) : List Char := Nat.toDigits 16 n

/-- One character of a shown text. -/
def escape (c : Char) : List Char :=
  match c with
  | '\x00' => ['\\', '0']
  | '\t' => ['\\', 't']
  | '\n' => ['\\', 'n']
  | '\r' => ['\\', 'r']
  | '"' => ['\\', '"']
  | '\\' => ['\\', '\\']
  | _ =>
    if isUnprintable c then '\\' :: 'u' :: '{' :: shortHex c.toNat ++ ['}'] else [c]

/-- A text as it is shown in a diagnostic. -/
def quoted (text : String) : String :=
  String.ofList ('"' :: text.toList.flatMap escape ++ ['"'])

end SessionTasks.Text
