import ColumnQuery.Number.Digits
import ColumnQuery.Number.Double

/-!
# Numerals

A numeral is a number as it is written: a sign, whole digits, digits after a point, an exponent.
It denotes a decimal, and `Decimal.magnitude` is the magnitude nearest to a decimal, so that
`Numeral.double` is the correctly rounded reading.
-/
namespace ColumnQuery

/-- A natural times a power of ten. -/
structure Decimal where
  /-- The digits, read as one natural. -/
  digits : Nat
  /-- The power of ten of the last digit. -/
  exponent : Int
deriving DecidableEq

/-- The nearest magnitude. Far outside the range the answer is known without the power of ten:
above 10^400 everything is infinite, and below 2^-1074 by hundreds of digits everything is zero. -/
def Decimal.magnitude (decimal : Decimal) : Magnitude :=
  if decimal.digits = 0 then .zero
  else if 400 < decimal.exponent then .infinity
  else if decimal.exponent < -(decimal.digits.log2 + 400 : Int) then .zero
  else if 0 ≤ decimal.exponent then
    .ofRatio (decimal.digits * Nat.pow 10 decimal.exponent.toNat * Nat.pow 2 1074) 1
  else .ofRatio (decimal.digits * Nat.pow 2 1074) (Nat.pow 10 (-decimal.exponent).toNat)

/-- A written power of ten. -/
structure Exponent where
  /-- The written sign, if there is one: true for minus. -/
  sign : Option Bool
  /-- The digits of the power. -/
  digits : List Digit
deriving DecidableEq

/-- The power itself. -/
def Exponent.value (exponent : Exponent) : Int :=
  if exponent.sign = some true then -(Digits.value exponent.digits : Int)
  else Digits.value exponent.digits

/-- A written number. -/
structure Numeral where
  /-- Whether a minus sign is written. -/
  negative : Bool
  /-- The digits before the point. -/
  whole : List Digit
  /-- The digits after the point; with none, no point is written. -/
  fraction : List Digit := []
  /-- The power of ten, if one is written. -/
  exponent : Option Exponent := none
deriving DecidableEq

namespace Numeral

/-- The decimal that the digits denote, without the sign. -/
def decimal (numeral : Numeral) : Decimal where
  digits := Digits.value (numeral.whole ++ numeral.fraction)
  exponent := (numeral.exponent.elim 0 Exponent.value) - numeral.fraction.length

/-- The nearest number. -/
def double (numeral : Numeral) : Double := .signed numeral.negative numeral.decimal.magnitude

/-- Whether neither a point nor an exponent is written. -/
def isWhole (numeral : Numeral) : Bool := numeral.fraction.isEmpty && numeral.exponent.isNone

/-- The integer that the sign and the whole digits denote. -/
def integer (numeral : Numeral) : Int :=
  if numeral.negative then -(Digits.value numeral.whole : Int) else Digits.value numeral.whole

/-- The numeral of an integer. -/
def ofInt (n : Int) : Numeral := { negative := n < 0, whole := Digits.ofNat n.natAbs }

/-- The numeral of an integer denotes it. -/
theorem integer_ofInt (n : Int) : (ofInt n).integer = n := by
  simp only [ofInt, integer, Digits.value_ofNat, decide_eq_true_eq]
  split <;> omega

/-- The characters of the written exponent. -/
def exponentChars : Option Exponent → List Char
  | none => []
  | some ⟨none, digits⟩ => 'e' :: Digits.chars digits
  | some ⟨some true, digits⟩ => 'e' :: '-' :: Digits.chars digits
  | some ⟨some false, digits⟩ => 'e' :: '+' :: Digits.chars digits

/-- The characters of the numeral. -/
def chars (numeral : Numeral) : List Char :=
  (if numeral.negative then ['-'] else []) ++ Digits.chars numeral.whole ++
    (if numeral.fraction.isEmpty then [] else '.' :: Digits.chars numeral.fraction) ++
    exponentChars numeral.exponent

/-- The text of the numeral. -/
def text (numeral : Numeral) : String := String.ofList numeral.chars

end Numeral

end ColumnQuery
