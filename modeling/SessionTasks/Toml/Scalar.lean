/-
# Numbers, truth values and dates in TOML

A whole number has sixty-four bits and a sign.  A date is checked against the calendar;
what it says is not kept.  It reads as an object whose one member has the empty name, which
no structure has.
-/
import SessionTasks.Toml.Quoted
import SessionTasks.Json
namespace SessionTasks.Toml

open Text Text.Reader

/-! ## Digits -/

/-- A digit of a base. -/
def isDigitIn (base : Nat) (c : Char) : Bool := (digitIn? base c).isSome

/-- Digits of a base, with single underscores between them. -/
def digits (base : Nat) : Reader (List Char) := do
  let first ← oneOf (isDigitIn base)
  loop (fun done => do
    match ← peek with
    | some '_' =>
      exactly '_'
      return .inl ((← oneOf (isDigitIn base)) :: done)
    | some c =>
      if isDigitIn base c then exactly c; return .inl (c :: done)
      else return .inr done.reverse
    | none => return .inr done.reverse) [first]

/-- A sign, if there is one; whether it is a minus. -/
def sign : Reader Bool := do
  match ← peek with
  | some '-' => exactly '-'; return true
  | some '+' => exactly '+'; return false
  | _ => return false

/-- Decimal digits of which only a single one may be zero in front. -/
def wholeDigits : Reader (List Char) := do
  match ← peek with
  | some '0' => exactly '0'; return ['0']
  | _ => digits 10

/-! ## Numbers -/

/-- A number that the digits spell, if it has sixty-four bits and a sign. -/
def ofDigits? (base : Nat) (negative : Bool) (digits : List Char) : Option Json := do
  let n ← number? base digits
  let value : Int := if negative then -n else n
  if -Int.pow 2 63 ≤ value ∧ value < Int.pow 2 63 then return .int value else none

/-- A number in another base than ten. -/
def inBase (mark : List Char) (base : Nat) : Reader Json := do
  word mark
  ofOption (ofDigits? base false (← digits base))

/-- A whole number. -/
def integer : Reader Json := do
  if ← startsWith ['0', 'x'] then inBase ['0', 'x'] 16
  else if ← startsWith ['0', 'o'] then inBase ['0', 'o'] 8
  else if ← startsWith ['0', 'b'] then inBase ['0', 'b'] 2
  else
    let negative ← sign
    ofOption (ofDigits? 10 negative (← wholeDigits))

/-- The double nearest to `significand * 10 ^ power`.  Beyond four hundred places it is
zero or infinite whatever the digits are. -/
def nearestDecimal (negative : Bool) (significand : Nat) (power : Int) : Binary64 :=
  let places := (decimal significand).length
  if significand = 0 ∨ power + places < -400 then .nearest negative 0 1
  else if 400 < power then if negative then .negInfinity else .infinity
  else .nearest negative (significand * Nat.pow 10 power.toNat) (Nat.pow 10 (-power).toNat)

/-- The digits after a point, if there is one. -/
def fraction : Reader (Option (List Char)) := do
  match ← peek with
  | some '.' => exactly '.'; return some (← digits 10)
  | _ => return none

/-- The power of ten after the letter `e`, if there is one. -/
def exponent : Reader (Option Int) := do
  match ← peek with
  | some 'e' | some 'E' =>
    let _ ← take
    let negative ← sign
    let n ← ofOption (number? 10 (← digits 10))
    return some (if negative then -n else n)
  | _ => return none

/-- A number with a point or an exponent.  One too large for a double is refused, unless it
is negative. -/
def float : Reader Json := do
  let negative ← sign
  if ← startsWith "inf".toList then
    word "inf".toList
    return .double (if negative then .negInfinity else .infinity)
  else if ← startsWith "nan".toList then
    word "nan".toList
    return .double .nan
  else
    let whole ← wholeDigits
    let part ← fraction
    let power ← exponent
    if part.isNone && power.isNone then refuse
    else
      let all := whole ++ part.getD []
      let significand ← ofOption (number? 10 all)
      let x := nearestDecimal negative significand (power.getD 0 - (part.getD []).length)
      if x = .infinity then refuse else return .double x

/-! ## Dates and times -/

/-- A number of `width` digits within bounds. -/
def field (width least greatest : Nat) : Reader Nat := do
  let n ← ofOption (number? 10 (← times (isDigitIn 10) width))
  if least ≤ n ∧ n ≤ greatest then return n else refuse

/-- The number of days of a month. -/
def daysOf (year month : Nat) : Nat :=
  if month = 2 then
    if year % 4 = 0 ∧ (year % 100 ≠ 0 ∨ year % 400 = 0) then 29 else 28
  else if month ∈ [4, 6, 9, 11] then 30
  else 31

/-- A day. -/
def date : Reader Unit := do
  let year ← field 4 0 9999
  exactly '-'
  let month ← field 2 1 12
  exactly '-'
  let _ ← field 2 1 (daysOf year month)

/-- A time of day. -/
def time : Reader Unit := do
  let _ ← field 2 0 23
  exactly ':'
  let _ ← field 2 0 59
  exactly ':'
  let _ ← field 2 0 60
  if (← peek) = some '.' then
    exactly '.'
    let _ ← run1 (isDigitIn 10)

/-- The distance from universal time. -/
def offset : Reader Unit := do
  match ← take with
  | 'Z' | 'z' => return
  | '+' | '-' =>
    let _ ← field 2 0 23
    exactly ':'
    let _ ← field 2 0 59
  | _ => refuse

/-- A time after a day, and its distance from universal time. -/
def timeOfDate : Reader Unit := do
  let _ ← oneOf fun c => c = 'T' || c = 't' || c = ' '
  time
  let _ ← attempt offset

/-- A day, a time, or both. -/
def dateTime : Reader Json := do
  match ← attempt date with
  | some () => let _ ← attempt timeOfDate
  | none => time
  return .obj [("", .null)]

/-! ## Any of them -/

/-- The first reader that does not refuse. -/
def firstOf : List (Reader Json) → Reader Json
  | [] => refuse
  | r :: rest => do
    match ← attempt r with
    | some v => return v
    | none => firstOf rest

/-- A value that holds no others. -/
def scalar : Reader Json := do
  match ← peek with
  | some '"' | some '\'' => return .str (← text)
  | some 't' => word "true".toList; return .bool true
  | some 'f' => word "false".toList; return .bool false
  | _ => firstOf [dateTime, float, integer]

end SessionTasks.Toml
