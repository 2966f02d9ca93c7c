import ColumnQuery.Number.Numeral

/-!
# Scaled reading of numerals

A reading that rounds more than once: the leading digits as far as they fit 64 bits are rounded to a
number, which is then multiplied or divided by powers of ten that are rounded themselves. It can
miss the nearest number by a few units of the last place. What would be infinite is refused.
-/
namespace ColumnQuery

/-- Appends digits to a natural as long as it stays below 2^64, and returns the digits left over. -/
def Digits.absorb (n : Nat) : List Digit → Nat × List Digit
  | [] => (n, [])
  | digit :: digits =>
    let next := n * 10 + digit.val
    if next < Nat.pow 2 64 then absorb next digits else (n, digit :: digits)

namespace Double

/-- The number nearest to a power of ten. -/
def powerOfTen (power : Nat) : Double := .signed false (.ofNat (Nat.pow 10 power))

/-- The product with a power of ten, if it is finite. -/
def raise? (x : Double) (power : Nat) : Option Double :=
  if power ≤ 308 then
    let product := x.mul (powerOfTen power)
    if product.isFinite then some product else none
  else if x.isZero then some x
  else none

/-- The quotient by a power of ten, in steps that stay in range. -/
def lower (x : Double) (power : Nat) : Double :=
  if power ≤ 308 then x.div (powerOfTen power)
  else if x.isZero then x
  else lower (x.div (powerOfTen 308)) (power - 308)
termination_by power

end Double

/-- The scaled reading of a numeral. An exponent beyond 32 bits is not looked at further: it makes
zero of a numeral that is zero or very small, and nothing of a large one. -/
def Numeral.scaled? (numeral : Numeral) : Option Double :=
  let (leading, dropped) := Digits.absorb 0 numeral.whole
  let (leading, ignored) := Digits.absorb leading numeral.fraction
  let written := numeral.exponent.elim 0 Exponent.value
  if 2147483647 < written.natAbs then
    if leading ≠ 0 ∧ 0 < written then none else some (.signed numeral.negative .zero)
  else
    let power := dropped.length - (numeral.fraction.length - ignored.length : Int) + written
    let rounded := Double.ofInt leading
    let scaled :=
      if 0 ≤ power then rounded.raise? power.toNat else some (rounded.lower power.natAbs)
    scaled.map fun x => if numeral.negative then x.neg else x

end ColumnQuery
