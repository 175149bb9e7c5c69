/-
# Readers

A reader takes a value off the front of a text, or refuses the text.
-/
namespace SessionTasks.Text

/-- Takes a value off the front of a text. -/
abbrev Reader := StateT (List Char) Option

namespace Reader

/-- Takes nothing and refuses. -/
def refuse {α : Type} : Reader α := fun _ => none

/-- A value that is there, or a refusal. -/
def ofOption {α : Type} (value : Option α) : Reader α := fun text => value.map (·, text)

/-- The next character, which stays. -/
def peek : Reader (Option Char) := fun text => some (text.head?, text)

/-- The next character. -/
def take : Reader Char := fun text =>
  match text with
  | [] => none
  | c :: rest => some (c, rest)

/-- One given character. -/
def exactly (c : Char) : Reader Unit := fun text =>
  match text with
  | d :: rest => if d = c then some ((), rest) else none
  | [] => none

/-- One given word. -/
def word (w : List Char) : Reader Unit := w.forM exactly

/-- A character of a class. -/
def oneOf (p : Char → Bool) : Reader Char := fun text =>
  match text with
  | c :: rest => if p c then some (c, rest) else none
  | [] => none

/-- All characters of a class at the front. -/
def run (p : Char → Bool) : Reader (List Char) := fun text =>
  some (text.takeWhile p, text.dropWhile p)

/-- At least one character of a class. -/
def run1 (p : Char → Bool) : Reader (List Char) := do
  let found ← run p
  if found.isEmpty then refuse else return found

/-- Exactly `n` characters of a class. -/
def times (p : Char → Bool) : (n : Nat) → Reader (List Char)
  | 0 => pure []
  | n + 1 => do
    let c ← oneOf p
    return c :: (← times p n)

/-- What `r` takes, or nothing. -/
def attempt {α : Type} (r : Reader α) : Reader (Option α) := fun text =>
  match r text with
  | some (a, rest) => some (some a, rest)
  | none => some (none, text)

/-- Whether the text goes on with a word, which stays. -/
def startsWith (w : List Char) : Reader Bool := fun text => some (w.isPrefixOf text, text)

/-- Nothing is left. -/
def finished : Reader Unit := fun text => if text.isEmpty then some ((), text) else none

/-- Takes step after step until one has a result; at most `fuel` of them. -/
def repeatedly {σ α : Type} (step : σ → Reader (σ ⊕ α)) : (fuel : Nat) → σ → Reader α
  | 0, _ => refuse
  | fuel + 1, state => do
    match ← step state with
    | .inl next => repeatedly step fuel next
    | .inr result => return result

/-- Takes step after step until one has a result.  A step takes a character at least. -/
def loop {σ α : Type} (step : σ → Reader (σ ⊕ α)) (start : σ) : Reader α := fun text =>
  repeatedly step (text.length + 1) start text

end Reader

end SessionTasks.Text
