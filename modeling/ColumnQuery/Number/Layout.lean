import ColumnQuery.Number.Shortest

/-!
# Layouts of floating point numbers

A layout says how a format writes a number once its digits are chosen: where positional notation
ends, whether whole numbers keep a point, how an exponent is signed. `Layout.numeral` is the
written form of a finite number and `Layout.text` names the other values too.
-/
namespace ColumnQuery

/-- The decisions of a format. -/
structure Layout where
  /-- The choice between two equally near shortest decimals. -/
  tie : Tie
  /-- The powers of the leading digit that are written without an exponent. -/
  positional : Int → Bool
  /-- Whether a whole number is written with one zero after the point. -/
  keepsPoint : Bool
  /-- Whether a positive exponent is written with a plus sign. -/
  plusSign : Bool
  /-- The text of an infinity, without the sign. -/
  infinityText : String

namespace Layout

/-- The digits of a decimal without an exponent. -/
def positionalNumeral (layout : Layout) (negative : Bool) (decimal : Decimal) : Numeral :=
  let digits := Digits.ofNat decimal.digits
  if 0 ≤ decimal.exponent then
    { negative
      whole := digits ++ List.replicate decimal.exponent.toNat 0
      fraction := if layout.keepsPoint then [0] else [] }
  else
    let places := (-decimal.exponent).toNat
    let padded := List.replicate (places + 1 - digits.length) 0 ++ digits
    { negative
      whole := padded.take (padded.length - places)
      fraction := padded.drop (padded.length - places) }

/-- One digit before the point, and the power of it as exponent. -/
def scientificNumeral (layout : Layout) (negative : Bool) (decimal : Decimal) (power : Int) :
    Numeral :=
  let digits := Digits.ofNat decimal.digits
  { negative
    whole := digits.take 1
    fraction := digits.drop 1
    exponent := some
      { sign := if power < 0 then some true else if layout.plusSign then some false else none
        digits := Digits.ofNat power.natAbs } }

/-- A finite number as it is written. -/
def numeral (layout : Layout) (negative : Bool) (magnitude : Magnitude) : Numeral :=
  let decimal := magnitude.shortest layout.tie
  let power := decimal.exponent + (Digits.ofNat decimal.digits).length - 1
  if decimal.digits = 0 || layout.positional power then layout.positionalNumeral negative decimal
  else layout.scientificNumeral negative decimal power

/-- The text of any number. -/
def text (layout : Layout) : Double → String
  | .nan => "NaN"
  | .signed negative magnitude =>
    if magnitude.isFinite then (layout.numeral negative magnitude).text
    else (if negative then "-" else "") ++ layout.infinityText

end Layout

namespace Double

/-- Plain notation has no exponent, and no point in whole numbers. -/
def plainLayout : Layout where
  tie := .up
  positional _ := true
  keepsPoint := false
  plusSign := false
  infinityText := "inf"

/-- The plain text of a number, used in messages. -/
def plainText (number : Double) : String := plainLayout.text number

end Double

end ColumnQuery
