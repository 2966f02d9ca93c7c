import ColumnQuery.Number.Numeral

/-!
# Shortest decimals

The shortest decimal of a magnitude has the fewest digits of all that read back as it, and is the
nearest of those. For each number of digits only the two neighbours on that decimal grid need a
test; which of two equally near ones is taken differs between formats and is a parameter.
-/
namespace ColumnQuery

/-- The choice between two equally near decimals. -/
inductive Tie where
  /-- The greater one. -/
  | up
  /-- The one whose last digit is even. -/
  | even
deriving DecidableEq

namespace Decimal

/-- Trailing zeros moved into the exponent. -/
def trim (decimal : Decimal) : Decimal :=
  if reducible : decimal.digits ≠ 0 ∧ decimal.digits % 10 = 0 then
    trim ⟨decimal.digits / 10, decimal.exponent + 1⟩
  else decimal
termination_by decimal.digits
decreasing_by omega

end Decimal

namespace Magnitude

/-- The power of ten of the leading digit of a magnitude that is neither zero nor infinite. Since
no such magnitude is below 10^-324, counting the digits of its whole part times 10^324 finds it. -/
def leadingPower (magnitude : Magnitude) : Int :=
  (Digits.ofNat (magnitude.units * Nat.pow 10 324 / Nat.pow 2 1074)).length - 325

/-- The decimal with its last digit at a power of ten that reads back as the magnitude and is
nearest to it, if there is one. -/
def nearestAt (tie : Tie) (magnitude : Magnitude) (power : Int) : Option Decimal :=
  let numerator := magnitude.units * Nat.pow 10 (-power).toNat
  let denominator := Nat.pow 2 1074 * Nat.pow 10 power.toNat
  let low := numerator / denominator
  let twice := 2 * (numerator % denominator)
  let below : Decimal := ⟨low, power⟩
  let above : Decimal := ⟨low + 1, power⟩
  if below.magnitude = magnitude then
    if above.magnitude = magnitude then
      if twice < denominator then some below
      else if denominator < twice then some above
      else match tie with
        | .up => some above
        | .even => some (if low % 2 = 0 then below else above)
    else some below
  else if above.magnitude = magnitude then some above
  else none

/-- The exact decimal, which has at most 1074 places. -/
def exactDecimal (magnitude : Magnitude) : Decimal := ⟨magnitude.units * Nat.pow 5 1074, -1074⟩

/-- The shortest decimal of a finite magnitude. Seventeen digits always suffice. -/
def shortest (tie : Tie) (magnitude : Magnitude) : Decimal :=
  if magnitude.pattern = 0 then ⟨0, 0⟩
  else
    let leading := magnitude.leadingPower
    let found :=
      (List.range 17).findSome? fun count : Nat => magnitude.nearestAt tie (leading - count)
    (found.getD magnitude.exactDecimal).trim

end Magnitude

end ColumnQuery
