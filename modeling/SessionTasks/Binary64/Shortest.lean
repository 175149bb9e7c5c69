/-
# The shortest decimal of a double

Of the decimals that read back as a given double, `shortest` takes one with the fewest
digits, and of these the one nearest to the double.  With `n` digits only the two
neighbours of the double on the grid of `n`-digit decimals have to be tried.
-/
import SessionTasks.Binary64
namespace SessionTasks.Binary64

/-! ## Decimals -/

/-- The number `digits * 10 ^ exponent`. -/
structure Decimal where
  /-- The significant digits, as one number. -/
  digits : Nat
  /-- The power of ten of the last digit. -/
  exponent : Int
  deriving DecidableEq

/-- How many decimal digits a number has; zero has one. -/
def decimalLength (n : Nat) : Nat := (Nat.toDigits 10 n).length

/-- The greatest `e` with `10 ^ e ≤ num / den`, for a positive quotient. -/
def decimalExponent (num den : Nat) : Int :=
  if den ≤ num then (decimalLength (num / den) : Int) - 1
  else -(decimalLength ((den - 1) / num) : Int)

/-- The decimals that read back as one double lie between two bounds. -/
structure Interval where
  /-- Four times the value, in units of `2 ^ -1074`. -/
  value : Nat
  /-- The lower bound, in the same unit. -/
  lower : Nat
  /-- The upper bound, in the same unit. -/
  upper : Nat
  /-- The bounds themselves read back as the double. -/
  closed : Bool

/-- The decimals nearer to a positive double than to its neighbours.  Below a power of two
the neighbour is only half as far away. -/
def interval (x : Binary64) : Interval :=
  let scale := x.magnitude.log2 - 52
  let significand := x.magnitude / Nat.pow 2 scale
  let below := if significand = Nat.pow 2 52 ∧ 0 < scale then 1 else 2
  { value := 4 * x.magnitude
    lower := 4 * x.magnitude - below * Nat.pow 2 scale
    upper := 4 * x.magnitude + 2 * Nat.pow 2 scale
    closed := significand % 2 = 0 }

/-- The point `n * unit / den` lies in the interval. -/
def Interval.holds (i : Interval) (scaledUp point : Nat) : Bool :=
  if i.closed then i.lower * scaledUp ≤ point && point ≤ i.upper * scaledUp
  else i.lower * scaledUp < point && point < i.upper * scaledUp

/-- The nearer of the two neighbours on the grid of multiples of `10 ^ exponent` that lie
in the interval; of two equally near ones the even one. -/
def Interval.onGrid? (i : Interval) (exponent : Int) : Option Nat :=
  let up := Nat.pow 10 (-exponent).toNat
  let unit := Nat.pow 2 1076 * Nat.pow 10 exponent.toNat
  let low := i.value * up / unit
  let lowIn := 0 < low && i.holds up (low * unit)
  let highIn := i.holds up ((low + 1) * unit)
  let rest := i.value * up - low * unit
  if lowIn && highIn then
    if 2 * rest < unit ∨ (2 * rest = unit ∧ low % 2 = 0) then some low else some (low + 1)
  else if lowIn then some low
  else if highIn then some (low + 1)
  else none

/-- The first grid with a hit, from the coarsest on; `fuel` grids are tried, and the last
is taken as it is. -/
def Interval.firstHit (i : Interval) : Nat → Int → Decimal
  | 0, exponent => ⟨0, exponent⟩
  | fuel + 1, exponent =>
    match i.onGrid? exponent with
    | some digits => ⟨digits, exponent⟩
    | none => i.firstHit fuel (exponent - 1)

/-- Moves the zeros at the end of the digits into the exponent; at most `fuel` of them. -/
def Decimal.strip : Nat → Decimal → Decimal
  | 0, d => d
  | fuel + 1, d =>
    if d.digits % 10 = 0 then Decimal.strip fuel ⟨d.digits / 10, d.exponent + 1⟩ else d

/-- The shortest decimal that reads back as the magnitude of a finite double.  Seventeen
digits are always enough. -/
def shortest (x : Binary64) : Decimal :=
  if x.magnitude = 0 then ⟨0, 0⟩
  else
    (x.interval.firstHit 18 (decimalExponent x.magnitude (Nat.pow 2 1074))).strip 18

/-! ## Layout -/

/-- Where a number is written out in full, and where with a power of ten. -/
structure Layout where
  /-- The least power of ten of the first digit that is written out in full. -/
  least : Int
  /-- The greatest such power. -/
  greatest : Int

/-- Numbers are written out in full from `0.00001` up to sixteen digits before the point. -/
def Layout.plain : Layout := ⟨-5, 15⟩

/-- A power of ten is written with its sign. -/
def exponentText (e : Int) : List Char :=
  (if e < 0 then '-' else '+') :: Nat.toDigits 10 e.natAbs

/-- The digits with a point after the first `n`; a part without digits is `0`. -/
def pointed (digits : List Char) (n : Nat) : List Char :=
  let whole := digits.take n ++ List.replicate (n - digits.length) '0'
  let part := digits.drop n
  (if whole.isEmpty then ['0'] else whole) ++ '.' :: (if part.isEmpty then ['0'] else part)

/-- A decimal in the given layout. -/
def Decimal.write (layout : Layout) (d : Decimal) : List Char :=
  let digits := Nat.toDigits 10 d.digits
  let first := d.exponent + digits.length - 1
  if layout.least ≤ first ∧ first ≤ layout.greatest then
    if 0 ≤ first then pointed digits (first.toNat + 1)
    else pointed (List.replicate (-first - 1).toNat '0' ++ digits) 0
  else
    digits.take 1 ++ (if digits.length = 1 then [] else '.' :: digits.drop 1)
      ++ 'e' :: exponentText first

/-- The text of a finite double: its sign, then its shortest decimal. -/
def write (x : Binary64) : List Char :=
  (if x.isNegative then ['-'] else []) ++ x.shortest.write .plain

end SessionTasks.Binary64
