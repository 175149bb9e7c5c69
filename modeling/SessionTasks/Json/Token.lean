/-
# Tokens of JSON

`tokens?` cuts a text into brackets, colons, commas, quoted texts and bare words.  The
lexer reads one character at a time; what it has read so far is its state.
-/
import SessionTasks.Text.Digits
namespace SessionTasks.Json

/-- A token. -/
inductive Token where
  /-- The bracket `[`. -/
  | openList
  /-- The bracket `]`. -/
  | closeList
  /-- The brace that opens an object. -/
  | openObject
  /-- The brace that closes an object. -/
  | closeObject
  /-- A colon. -/
  | colon
  /-- A comma. -/
  | comma
  /-- A text in quotes, its escapes resolved. -/
  | text (s : String)
  /-- A number or a name, as spelled. -/
  | word (w : List Char)
  deriving DecidableEq

/-- Where in a token the lexer stands.  Characters read so far are kept last first. -/
inductive Mode where
  /-- Between two tokens. -/
  | between
  /-- Inside a bare word. -/
  | word (read : List Char)
  /-- Inside a quoted text. -/
  | quoted (read : List Char)
  /-- After a backslash. -/
  | escaped (read : List Char)
  /-- Inside the four hexadecimal digits of an escape, `left` of them to come.  `high` is
  the first half of a surrogate pair whose second half these digits are. -/
  | unit (read : List Char) (high : Option Nat) (left value : Nat)
  /-- After the first half of a surrogate pair. -/
  | half (read : List Char) (high : Nat)
  /-- After the backslash that follows the first half of a surrogate pair. -/
  | halfEscaped (read : List Char) (high : Nat)

/-- The state of the lexer: the tokens read, last first, and the place in the next one. -/
structure Lexer where
  /-- The tokens read, last first. -/
  tokens : List Token
  /-- The place in the token being read. -/
  mode : Mode

/-- The characters between tokens. -/
def isBlank (c : Char) : Bool := c = ' ' || c = '\t' || c = '\n' || c = '\r'

/-- The token that one character is. -/
def bracket? (c : Char) : Option Token :=
  match c with
  | '[' => some .openList
  | ']' => some .closeList
  | '{' => some .openObject
  | '}' => some .closeObject
  | ':' => some .colon
  | ',' => some .comma
  | _ => none

/-- The first character of a token, or a blank. -/
def Lexer.start (tokens : List Token) (c : Char) : Lexer :=
  if isBlank c then ⟨tokens, .between⟩
  else if c = '"' then ⟨tokens, .quoted []⟩
  else match bracket? c with
    | some t => ⟨t :: tokens, .between⟩
    | none => ⟨tokens, .word [c]⟩

/-- Ends a bare word. -/
def endsWord (c : Char) : Bool := isBlank c || c = '"' || (bracket? c).isSome

/-- The character that a one-letter escape stands for. -/
def unescape? (c : Char) : Option Char :=
  match c with
  | '"' => some '"'
  | '\\' => some '\\'
  | '/' => some '/'
  | 'b' => some '\x08'
  | 'f' => some '\x0c'
  | 'n' => some '\n'
  | 'r' => some '\r'
  | 't' => some '\t'
  | _ => none

/-- The first half of a surrogate pair. -/
def isHigh (unit : Nat) : Bool := 0xD800 ≤ unit && unit < 0xDC00

/-- The second half of a surrogate pair. -/
def isLow (unit : Nat) : Bool := 0xDC00 ≤ unit && unit < 0xE000

/-- Ends an escape by its four digits.  A half of a surrogate pair does not stand alone. -/
def endUnit? (read : List Char) (high : Option Nat) (unit : Nat) : Option Mode :=
  match high with
  | none =>
    if isHigh unit then some (.half read unit)
    else if isLow unit then none
    else some (.quoted (Char.ofNat unit :: read))
  | some h =>
    if isLow unit then
      some (.quoted (Char.ofNat (0x10000 + (h - 0xD800) * 0x400 + (unit - 0xDC00)) :: read))
    else none

/-- Reads one character. -/
def Lexer.step (s : Lexer) (c : Char) : Option Lexer :=
  match s.mode with
  | .between => some (Lexer.start s.tokens c)
  | .word read =>
    if endsWord c then some (Lexer.start (.word read.reverse :: s.tokens) c)
    else some { s with mode := .word (c :: read) }
  | .quoted read =>
    if c = '"' then some ⟨.text (String.ofList read.reverse) :: s.tokens, .between⟩
    else if c = '\\' then some { s with mode := .escaped read }
    else if c.toNat < 32 then none
    else some { s with mode := .quoted (c :: read) }
  | .escaped read =>
    if c = 'u' then some { s with mode := .unit read none 4 0 }
    else (unescape? c).map fun d => { s with mode := .quoted (d :: read) }
  | .unit read high left value =>
    (Text.hexDigit? c).bind fun d =>
      if left ≤ 1 then (endUnit? read high (value * 16 + d)).map fun m => { s with mode := m }
      else some { s with mode := .unit read high (left - 1) (value * 16 + d) }
  | .half read high => if c = '\\' then some { s with mode := .halfEscaped read high } else none
  | .halfEscaped read high =>
    if c = 'u' then some { s with mode := .unit read (some high) 4 0 } else none

/-- The tokens at the end of the text; `none` inside a quoted text. -/
def Lexer.finish? (s : Lexer) : Option (List Token) :=
  match s.mode with
  | .between => some s.tokens.reverse
  | .word read => some (Token.word read.reverse :: s.tokens).reverse
  | _ => none

/-- The lexer before the first character. -/
def Lexer.initial : Lexer := ⟨[], .between⟩

/-- Cuts a text into tokens. -/
def tokens? (text : List Char) : Option (List Token) :=
  (text.foldlM Lexer.step .initial).bind Lexer.finish?

end SessionTasks.Json
