import ColumnQuery.Number.Bigint

/-!
# Sixty-four-bit floating point numbers

A `Double` is either not a number, or a sign and a magnitude. A magnitude is the pattern of the
63 bits below the sign: eleven bits of exponent above fifty-two of fraction, so magnitudes are
ordered as their patterns and infinity has the greatest one.

Every finite magnitude is a whole number of units of 2^-1074 (`Magnitude.units`), and every exact
result is a ratio in those units. `Magnitude.ofRatio` rounds a ratio to the nearest magnitude, a
tie to the even pattern; all arithmetic and all reading of numbers goes through it.
-/
namespace ColumnQuery

/-- The size of a floating point number that is a number. -/
structure Magnitude where
  /-- Exponent bits above fraction bits. -/
  pattern : Nat
  /-- No pattern is above that of infinity. -/
  bounded : pattern ≤ 2047 * Nat.pow 2 52
deriving DecidableEq

namespace Magnitude

/-- The pattern zero. -/
def zero : Magnitude := ⟨0, by decide⟩

/-- The greatest pattern stands for infinity. -/
def infinity : Magnitude := ⟨2047 * Nat.pow 2 52, by decide⟩

/-- A pattern cut off at that of infinity. -/
def ofPattern (pattern : Nat) : Magnitude :=
  ⟨min pattern (2047 * Nat.pow 2 52), Nat.min_le_right _ _⟩

/-- Whether the magnitude is a number of units. -/
def isFinite (magnitude : Magnitude) : Bool := magnitude.pattern < 2047 * Nat.pow 2 52

/-- How many units of 2^-1074 a finite magnitude is: below the first full exponent the pattern
itself, and from there the fraction with its leading bit, doubled for each further exponent. -/
def units (magnitude : Magnitude) : Nat :=
  let exponent := magnitude.pattern / Nat.pow 2 52
  let fraction := magnitude.pattern % Nat.pow 2 52
  if exponent = 0 then fraction else (Nat.pow 2 52 + fraction) * Nat.pow 2 (exponent - 1)

/-- The nearest natural to a ratio; of two equally near ones the even one. -/
def roundHalfEven (numerator denominator : Nat) : Nat :=
  let quotient := numerator / denominator
  let twice := 2 * (numerator % denominator)
  if twice < denominator then quotient
  else if denominator < twice then quotient + 1
  else quotient + quotient % 2

/-- A whole number is its own nearest natural. -/
theorem roundHalfEven_mul (n denominator : Nat) (positive : 0 < denominator) :
    roundHalfEven (n * denominator) denominator = n := by
  simp [roundHalfEven, Nat.mul_div_cancel _ positive, positive]

/-- The magnitude nearest to a ratio of units. The rounding step doubles with each exponent, and a
carry out of the fraction is the next exponent, so the pattern is one sum. -/
def ofRatio (numerator denominator : Nat) : Magnitude :=
  let doublings := (numerator / denominator).log2 - 52
  ofPattern
    (doublings * Nat.pow 2 52 + roundHalfEven numerator (denominator * Nat.pow 2 doublings))

/-- The magnitude nearest to a whole number. -/
def ofNat (n : Nat) : Magnitude := ofRatio (n * Nat.pow 2 1074) 1

end Magnitude

/-- The values of the column type `double`. -/
inductive Double where
  /-- The result of an operation that has none. -/
  | nan
  /-- A number or an infinity; zero has both signs. -/
  | signed (negative : Bool) (magnitude : Magnitude)
deriving DecidableEq

namespace Double

/-- Positive zero. -/
def zero : Double := .signed false .zero

/-- The nearest number to an integer; zero is positive. -/
def ofInt (n : Int) : Double := .signed (n < 0) (.ofNat n.natAbs)

/-- Whether the number is neither infinite nor missing. -/
def isFinite : Double → Bool
  | nan => false
  | signed _ magnitude => magnitude.isFinite

/-- Whether the number is a zero of either sign. -/
def isZero : Double → Bool
  | nan => false
  | signed _ magnitude => magnitude.pattern = 0

/-- Numeric equality: the zeros are equal, and no number equals the missing one. -/
def numEq : Double → Double → Bool
  | signed leftNegative left, signed rightNegative right =>
    left.pattern == right.pattern && (leftNegative == rightNegative || left.pattern == 0)
  | _, _ => false

/-- The opposite sign. -/
def neg : Double → Double
  | nan => nan
  | signed negative magnitude => signed (!negative) magnitude

/-- A finite number in units of 2^-1074. -/
def units : Double → Int
  | nan => 0
  | signed negative magnitude => if negative then -magnitude.units else magnitude.units

/-- The sum, rounded once. An exact zero is negative only if both operands are. -/
def add : Double → Double → Double
  | signed leftNegative left, signed rightNegative right =>
    if left.isFinite then
      if right.isFinite then
        let total := (signed leftNegative left).units + (signed rightNegative right).units
        signed (if total = 0 then leftNegative && rightNegative else total < 0)
          (.ofRatio total.natAbs 1)
      else signed rightNegative right
    else if right.isFinite || leftNegative == rightNegative then signed leftNegative left
    else nan
  | _, _ => nan

/-- The difference is the sum with the opposite. -/
def sub (left right : Double) : Double := left.add right.neg

/-- The product, rounded once; zero times infinity is no number. -/
def mul : Double → Double → Double
  | signed leftNegative left, signed rightNegative right =>
    if left.isFinite && right.isFinite then
      signed (leftNegative != rightNegative) (.ofRatio (left.units * right.units) (Nat.pow 2 1074))
    else if left.pattern = 0 || right.pattern = 0 then nan
    else signed (leftNegative != rightNegative) .infinity
  | _, _ => nan

/-- The quotient, rounded once; zero by zero and infinity by infinity are no number. -/
def div : Double → Double → Double
  | signed leftNegative left, signed rightNegative right =>
    let negative := leftNegative != rightNegative
    if left.isFinite then
      if right.isFinite then
        if right.pattern = 0 then
          if left.pattern = 0 then nan else signed negative .infinity
        else signed negative (.ofRatio (left.units * Nat.pow 2 1074) right.units)
      else signed negative .zero
    else if right.isFinite then signed negative .infinity
    else nan
  | _, _ => nan

/-- The remainder of the quotient cut toward zero, exact and with the sign of the dividend; a zero
divisor or an infinite dividend has none. -/
def rem : Double → Double → Double
  | signed leftNegative left, signed _ right =>
    if left.isFinite && right.pattern ≠ 0 then
      if right.isFinite then signed leftNegative (.ofRatio (left.units % right.units) 1)
      else signed leftNegative left
    else nan
  | _, _ => nan

end Double

end ColumnQuery
