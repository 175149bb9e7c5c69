/-
# Double precision numbers

A `Binary64` is the sixty-four bits of a double.  Every finite double is a whole multiple
of `2 ^ -1074`; `scaled` is its value in that unit, so comparing and rounding doubles is
exact arithmetic on integers.
-/
namespace SessionTasks

/-- A double, by its bits: sign, eleven bits of exponent, fifty-two bits of fraction. -/
structure Binary64 where
  /-- The bits, the sign in the highest. -/
  bits : UInt64
  deriving DecidableEq

namespace Binary64

/-! ## Reading the bits -/

/-- The bits below the sign, as a number.  They grow with the magnitude. -/
def rank (x : Binary64) : Nat := x.bits.toNat % Nat.pow 2 63

/-- The rank of the infinities. -/
def infiniteRank : Nat := 2047 * Nat.pow 2 52

/-- The sign bit is set. -/
def isNegative (x : Binary64) : Bool := Nat.pow 2 63 ≤ x.bits.toNat

/-- Neither infinite nor a NaN. -/
def isFinite (x : Binary64) : Bool := x.rank < infiniteRank

/-- Not a number. -/
def isNaN (x : Binary64) : Bool := infiniteRank < x.rank

/-- The magnitude that the bits below the sign stand for, in units of `2 ^ -1074`. -/
def magnitudeOfRank (rank : Nat) : Nat :=
  if rank < Nat.pow 2 52 then rank
  else (Nat.pow 2 52 + rank % Nat.pow 2 52) * Nat.pow 2 (rank / Nat.pow 2 52 - 1)

/-- The absolute value, in units of `2 ^ -1074`. -/
def magnitude (x : Binary64) : Nat := magnitudeOfRank x.rank

/-- The value, in units of `2 ^ -1074`; an infinity lies beyond every finite value. -/
def scaled (x : Binary64) : Int :=
  if x.isNegative then -(x.magnitude : Int) else x.magnitude

/-! ## Comparing -/

/-- Neither side is a NaN and the left value is smaller. -/
def lt (x y : Binary64) : Bool := !x.isNaN && !y.isNaN && x.scaled < y.scaled

/-- Neither side is a NaN and the values agree; the two zeros do. -/
def eqv (x y : Binary64) : Bool := !x.isNaN && !y.isNaN && x.scaled = y.scaled

/-! ## Rounding to a double -/

/-- The whole number nearest to `num / den`, of two the even one. -/
def roundHalfEven (num den : Nat) : Nat :=
  let whole := num / den
  let rest := num % den
  if 2 * rest < den then whole
  else if den < 2 * rest then whole + 1
  else whole + whole % 2

/-- The rank of a magnitude of at most fifty-three significant bits; one that is too large
has the rank of infinity. -/
def rankOfMagnitude (magnitude : Nat) : Nat :=
  let shift := magnitude.log2 - 52
  min (shift * Nat.pow 2 52 + magnitude / Nat.pow 2 shift) infiniteRank

/-- The double with this sign and these bits below it. -/
def ofRank (negative : Bool) (rank : Nat) : Binary64 :=
  ⟨UInt64.ofNat ((if negative then Nat.pow 2 63 else 0) + rank)⟩

/-- The double nearest to `num / den`, of two the one whose last bit is zero. -/
def nearest (negative : Bool) (num den : Nat) : Binary64 :=
  let scale := (num * Nat.pow 2 1074 / den).log2 - 52
  ofRank negative
    (rankOfMagnitude
      (roundHalfEven (num * Nat.pow 2 1074) (den * Nat.pow 2 scale) * Nat.pow 2 scale))

/-- The double nearest to a whole number. -/
def ofInt (n : Int) : Binary64 := nearest (n < 0) n.natAbs 1

/-- The double nearest to the product of two finite doubles. -/
def mul (x y : Binary64) : Binary64 :=
  nearest (x.isNegative != y.isNegative) (x.magnitude * y.magnitude) (Nat.pow 2 2148)

/-- The double nearest to the quotient of two finite doubles, the second not zero. -/
def div (x y : Binary64) : Binary64 :=
  nearest (x.isNegative != y.isNegative) x.magnitude y.magnitude

/-- The same magnitude with the other sign. -/
def neg (x : Binary64) : Binary64 := ofRank (!x.isNegative) x.rank

/-! ## Named values -/

/-- Zero, without a sign. -/
def zero : Binary64 := ⟨0⟩

/-- One hundred. -/
def hundred : Binary64 := ofInt 100

/-- Positive infinity. -/
def infinity : Binary64 := ofRank false infiniteRank

/-- Negative infinity. -/
def negInfinity : Binary64 := ofRank true infiniteRank

/-- A quiet NaN. -/
def nan : Binary64 := ofRank false (infiniteRank + Nat.pow 2 51)

/-! ## Percentages -/

/-- The nearest value from 0 to 100; what is not a number counts as 0. -/
def clampPercent (x : Binary64) : Binary64 :=
  if x.isNaN then zero
  else if x.lt zero then zero
  else if hundred.lt x then hundred
  else x

/-- From 0 to 100 inclusive. -/
def IsPercent (x : Binary64) : Prop :=
  x.isNaN = false ∧ zero.scaled ≤ x.scaled ∧ x.scaled ≤ hundred.scaled

end Binary64

end SessionTasks
