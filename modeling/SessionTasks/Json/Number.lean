/-
# Numbers in JSON

A number without a point or an exponent is whole if it fits sixty-four bits, signed or
unsigned; `-0` and everything else is a double.

A double is read in two steps.  The digits are gathered into a significand of at most
sixty-four bits and a power of ten; a digit that does not fit is dropped.  The significand
is then rounded to a double and multiplied or divided by the power of ten, which rounds a
second time.  A result beyond the range of a double is refused.
-/
import SessionTasks.Json
import SessionTasks.Text.Digits
namespace SessionTasks.Json

/-! ## The parts of a number -/

/-- A number as it is spelled. -/
structure NumberText where
  /-- It starts with a minus sign. -/
  negative : Bool
  /-- The digits before the point. -/
  whole : List Nat
  /-- The digits after the point, if there is one. -/
  fraction : Option (List Nat)
  /-- The exponent, if there is one. -/
  exponent : Option Int

/-- Takes the digits at the front. -/
def takeDigits : List Char → List Nat × List Char
  | [] => ([], [])
  | c :: rest =>
    match Text.digit? c with
    | some d => let (ds, tail) := takeDigits rest; (d :: ds, tail)
    | none => ([], c :: rest)

/-- The number that a list of decimal digits spells. -/
def ofDigits (digits : List Nat) : Nat := digits.foldl (fun n d => n * 10 + d) 0

/-- Takes the sign of an exponent. -/
def takeSign : List Char → Bool × List Char
  | '-' :: rest => (true, rest)
  | '+' :: rest => (false, rest)
  | rest => (false, rest)

/-- Reads an exponent up to the end of the text. -/
def exponentText? (text : List Char) : Option Int :=
  let (negative, rest) := takeSign text
  match takeDigits rest with
  | ([], _) => none
  | (ds, []) => some (if negative then -(ofDigits ds : Int) else ofDigits ds)
  | _ => none

/-- Reads what follows the digits before the point. -/
def afterWhole? (negative : Bool) (whole : List Nat) : List Char → Option NumberText
  | [] => some ⟨negative, whole, none, none⟩
  | '.' :: rest =>
    match takeDigits rest with
    | ([], _) => none
    | (ds, []) => some ⟨negative, whole, some ds, none⟩
    | (ds, e :: tail) =>
      if e = 'e' ∨ e = 'E' then
        (exponentText? tail).map fun x => ⟨negative, whole, some ds, some x⟩
      else none
  | e :: tail =>
    if e = 'e' ∨ e = 'E' then
      (exponentText? tail).map fun x => ⟨negative, whole, none, some x⟩
    else none

/-- Takes a number apart.  Only the number zero may start with the digit `0`. -/
def numberText? (text : List Char) : Option NumberText :=
  let (negative, unsigned) := match text with
    | '-' :: rest => (true, rest)
    | _ => (false, text)
  match takeDigits unsigned with
  | ([], _) => none
  | (0 :: _ :: _, _) => none
  | (whole, rest) => afterWhole? negative whole rest

/-! ## Its value -/

/-- The largest significand that is kept. -/
def maxSignificand : Nat := Nat.pow 2 64 - 1

/-- Gathers digits while the significand stays small enough; the number of digits left
over comes with it. -/
def gather (significand : Nat) : List Nat → Nat × Nat
  | [] => (significand, 0)
  | d :: rest =>
    if significand * 10 + d ≤ maxSignificand then gather (significand * 10 + d) rest
    else (significand, rest.length + 1)

/-- Divides by a power of ten, by `10 ^ 308` at a time while the power is larger. -/
def divPow10 (x : Binary64) (power : Nat) : Binary64 :=
  if _h : power ≤ 308 then x.div (.nearest false (Nat.pow 10 power) 1)
  else if x.magnitude = 0 then x
  else divPow10 (x.div (.nearest false (Nat.pow 10 308) 1)) (power - 308)
termination_by power

/-- The double for a significand and a power of ten; `none` beyond the range of doubles. -/
def ofParts? (significand : Nat) (power : Int) : Option Binary64 :=
  let x := Binary64.ofInt significand
  if power < 0 then some (divPow10 x power.natAbs)
  else if 308 < power then if significand = 0 then some x else none
  else
    let y := x.mul (.nearest false (Nat.pow 10 power.toNat) 1)
    if y.isFinite then some y else none

/-- The value of a number with a point, an exponent or many digits. -/
def NumberText.double? (n : NumberText) : Option Binary64 :=
  let (high, dropped) := gather 0 n.whole
  let (significand, ignored) := gather high (n.fraction.getD [])
  let power : Int := dropped - ((n.fraction.getD []).length - ignored : Nat)
  let exponent := n.exponent.getD 0
  let value :=
    if exponent.natAbs < Nat.pow 2 31 then ofParts? significand (power + exponent)
    else if 0 < exponent ∧ significand ≠ 0 then none
    else some .zero
  value.map fun x => if n.negative then x.neg else x

/-- The value of a number. -/
def NumberText.value? (n : NumberText) : Option Json :=
  let whole := ofDigits n.whole
  if n.fraction.isNone ∧ n.exponent.isNone ∧ ¬n.negative ∧ whole < Nat.pow 2 64 then
    some (.int whole)
  else if n.fraction.isNone ∧ n.exponent.isNone ∧ n.negative ∧ 0 < whole ∧ whole ≤ Nat.pow 2 63 then
    some (.int (-whole))
  else n.double?.map Json.double

/-- Reads a bare word: a number or one of the three names. -/
def ofWord? (word : List Char) : Option Json :=
  if word = "null".toList then some .null
  else if word = "true".toList then some (.bool true)
  else if word = "false".toList then some (.bool false)
  else (numberText? word).bind NumberText.value?

end SessionTasks.Json
