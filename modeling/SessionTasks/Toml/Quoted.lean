/-
# Texts in TOML

A text stands between quotes, where escapes are resolved, or between apostrophes, where
every character stands for itself.  Between three quotes or apostrophes it may have more
than one line; the line break after the opening is dropped.
-/
import SessionTasks.Text.Reader
import SessionTasks.Text.Digits
namespace SessionTasks.Toml

open Text Text.Reader

/-! ## Characters -/

/-- A blank inside a line. -/
def isBlank (c : Char) : Bool := c = ' ' || c = '\t'

/-- Stands for itself in comments and texts. -/
def isPlain (c : Char) : Bool := c = '\t' || (32 ≤ c.toNat && c.toNat ≠ 127)

/-- The end of a line. -/
def newline : Reader Unit := do
  match ← take with
  | '\n' => return
  | '\r' => exactly '\n'
  | _ => refuse

/-- A line break is at the front; it stays. -/
def atNewline : Reader Bool := do
  return (← peek) = some '\n' || (← startsWith ['\r', '\n'])

/-- A character by its number in hexadecimal. -/
def numbered (digits : Nat) : Reader Char := do
  let n ← ofOption (number? 16 (← times (fun c => (hexDigit? c).isSome) digits))
  if n.isValidChar then return Char.ofNat n else refuse

/-- What follows a backslash. -/
def escape : Reader Char := do
  match ← take with
  | 'b' => return '\x08'
  | 't' => return '\t'
  | 'n' => return '\n'
  | 'f' => return '\x0c'
  | 'r' => return '\r'
  | '"' => return '"'
  | '\\' => return '\\'
  | 'u' => numbered 4
  | 'U' => numbered 8
  | _ => refuse

/-! ## One line -/

/-- A text between quotes, on one line. -/
def basicText : Reader String := do
  exactly '"'
  loop (fun done => do
    match ← take with
    | '"' => return .inr (String.ofList done.reverse)
    | '\\' => return .inl ((← escape) :: done)
    | c => if isPlain c then return .inl (c :: done) else refuse) []

/-- A text between apostrophes, on one line. -/
def literalText : Reader String := do
  exactly '\''
  let text ← run fun c => isPlain c && c ≠ '\''
  exactly '\''
  return String.ofList text

/-! ## Several lines -/

/-- The end of a text of several lines, or some quotes that belong to the text.  Up to two
quotes may stand right before the closing three. -/
def quotes (mark : Char) (done : List Char) : Reader (List Char ⊕ String) := do
  let n := (← run (· = mark)).length
  if n < 3 then return .inl (List.replicate n mark ++ done)
  else if n ≤ 5 then
    return .inr (String.ofList (List.replicate (n - 3) mark ++ done).reverse)
  else refuse

/-- The blanks and line breaks after a backslash at the end of a line. -/
def continuation : Reader Unit := do
  let _ ← run isBlank
  newline
  loop (fun _ => do
    if ← atNewline then newline; return .inl ()
    else if (← run isBlank).isEmpty then return .inr ()
    else return .inl ()) ()

/-- The inside of a text of several lines, up to its closing quotes. -/
def lines (mark : Char) (escapes : Bool) : Reader String := do
  if ← atNewline then newline
  loop (fun done => do
    if ← atNewline then newline; return .inl ('\n' :: done)
    else if (← peek) = some mark then quotes mark done
    else
      let c ← take
      if c = '\\' && escapes then
        match ← attempt continuation with
        | some () => return .inl done
        | none => return .inl ((← escape) :: done)
      else if isPlain c then return .inl (c :: done)
      else refuse) []

/-- A text of any form. -/
def text : Reader String := do
  if ← startsWith ['"', '"', '"'] then word ['"', '"', '"']; lines '"' true
  else if ← startsWith ['\'', '\'', '\''] then word ['\'', '\'', '\'']; lines '\'' false
  else if (← peek) = some '"' then basicText
  else literalText

end SessionTasks.Toml
