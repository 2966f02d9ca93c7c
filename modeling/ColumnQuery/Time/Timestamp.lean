import ColumnQuery.Number.Digits
import ColumnQuery.Text.Classes
import ColumnQuery.Time.Calendar

/-!
# Timestamps

A timestamp is a second since 1970 in Universal Time with nanoseconds. A leap second is the last
second of a minute continued: its nanoseconds run from 10^9. The text is that of RFC 3339 in
Universal Time, with 0, 3, 6 or 9 places of seconds, the fewest that lose nothing. Any offset is
read, and blanks are allowed before each field.
-/
namespace ColumnQuery

/-- The values of the column type `timestamp`: the years from -262143 to 262142. -/
structure Timestamp where
  /-- Seconds since the start of 1970. -/
  seconds : Int
  /-- Nanoseconds within the second, and 10^9 more within a leap second. -/
  nanos : Nat
  /-- The first year is -262143. -/
  started : -8334601228800 ≤ seconds
  /-- The last year is 262142. -/
  ended : seconds ≤ 8210266876799
  /-- A second lasts at most twice its length. -/
  short : nanos < 2000000000
  /-- Only the last second of a minute is followed by a leap second. -/
  leap : 1000000000 ≤ nanos → seconds % 60 = 59
deriving DecidableEq

namespace Timestamp

/-- The timestamp of a second and its nanoseconds, if there is one. -/
def ofParts? (seconds : Int) (nanos : Nat) : Option Timestamp :=
  if inside : -8334601228800 ≤ seconds ∧ seconds ≤ 8210266876799 ∧ nanos < 2000000000 ∧
      (1000000000 ≤ nanos → seconds % 60 = 59) then
    some ⟨seconds, nanos, inside.1, inside.2.1, inside.2.2.1, inside.2.2.2⟩
  else none

/-- Every timestamp is made of its parts. -/
theorem ofParts?_parts (timestamp : Timestamp) :
    ofParts? timestamp.seconds timestamp.nanos = some timestamp := by
  unfold ofParts?
  split
  · rfl
  · rename_i outside
    exact absurd ⟨timestamp.started, timestamp.ended, timestamp.short, timestamp.leap⟩ outside

/-! ## Writing -/

/-- The digits of a natural, with zeros in front up to a width. -/
def padded (width n : Nat) : List Char :=
  let digits := Digits.chars (Digits.ofNat n)
  List.replicate (width - digits.length) '0' ++ digits

/-- Years of four digits are written plainly, all others with a sign and at least four digits. -/
def yearChars (year : Int) : List Char :=
  if 0 ≤ year ∧ year ≤ 9999 then padded 4 year.toNat
  else (if year < 0 then '-' else '+') :: padded 4 year.natAbs

/-- The places of a second: none, or three, six or nine after a point. -/
def fractionChars (nanos : Nat) : List Char :=
  if nanos = 0 then []
  else if nanos % 1000000 = 0 then '.' :: padded 3 (nanos / 1000000)
  else if nanos % 1000 = 0 then '.' :: padded 6 (nanos / 1000)
  else '.' :: padded 9 nanos

/-- The characters of the text. -/
def chars (timestamp : Timestamp) : List Char :=
  let date := Date.ofDays (timestamp.seconds / 86400)
  let clock := (timestamp.seconds % 86400).toNat
  let isLeap := 1000000000 ≤ timestamp.nanos
  let second := if isLeap then clock % 60 + 1 else clock % 60
  let nanos := if isLeap then timestamp.nanos - 1000000000 else timestamp.nanos
  yearChars date.year ++ '-' :: padded 2 date.month ++ '-' :: padded 2 date.day ++
    'T' :: padded 2 (clock / 3600) ++ ':' :: padded 2 (clock / 60 % 60) ++
    ':' :: padded 2 second ++ fractionChars nanos ++ ['Z']

/-- The text of a timestamp. -/
def text (timestamp : Timestamp) : String := String.ofList timestamp.chars

/-! ## Reading -/

/-- A number of at least one and at most so many digits, after blanks. -/
def scanNumber (most : Nat) (input : List Char) : Option (Nat × List Char) :=
  let input := Text.trimStart input
  let digits := (Digits.scan input).1.take most
  if digits.isEmpty then none else some (Digits.value digits, input.drop digits.length)

/-- A number as `scanNumber` reads it, within bounds. -/
def scanField (low high : Nat) (input : List Char) : Option (Nat × List Char) := do
  let (n, rest) ← scanNumber 2 input
  if low ≤ n ∧ n ≤ high then some (n, rest) else none

/-- A year: four digits at most, or any number of digits after a sign. -/
def scanYear (input : List Char) : Option (Int × List Char) :=
  let signed (sign : Int) (rest : List Char) :=
    let digits := (Digits.scan rest).1
    if digits.isEmpty then none
    else some (sign * Digits.value digits, rest.drop digits.length)
  match Text.trimStart input with
  | '-' :: rest => signed (-1) rest
  | '+' :: rest => signed 1 rest
  | rest => (scanNumber 4 rest).map fun (n, tail) => ((n : Int), tail)

/-- A mark after blanks. -/
def scanMark (mark : Char) (input : List Char) : Option (List Char) :=
  match Text.trimStart input with
  | c :: rest => if c = mark then some rest else none
  | [] => none

/-- The nanoseconds after a point; digits beyond the ninth are dropped. Without a point there are
none. -/
def scanFraction : List Char → Option (Nat × List Char)
  | '.' :: rest =>
    let (digits, tail) := Digits.scan rest
    if digits.isEmpty then none
    else
      let kept := digits.take 9
      some (Digits.value kept * Nat.pow 10 (9 - kept.length), tail)
  | rest => some (0, rest)

/-- Two digits, the first within a bound. -/
def scanPair (highest : Nat) : List Char → Option (Nat × List Char)
  | high :: low :: rest => do
    let high ← Digit.ofChar? high
    let low ← Digit.ofChar? low
    if high.val ≤ highest then some (high.val * 10 + low.val, rest) else none
  | _ => none

/-- The seconds by which a clock is ahead of Universal Time: `Z`, `UTC`, or a sign, hours and
minutes, with colons and blanks allowed between these two. -/
def scanOffset (input : List Char) : Option (Int × List Char) :=
  let signed (sign : Int) (rest : List Char) : Option (Int × List Char) := do
    let (hours, rest) ← scanPair 9 rest
    let rest := rest.dropWhile fun c => c == ':' || Text.isWhiteSpace c
    let (minutes, rest) ← scanPair 5 rest
    some (sign * (hours * 3600 + minutes * 60), rest)
  match Text.trimStart input with
  | 'Z' :: rest | 'z' :: rest => some (0, rest)
  | '+' :: rest => signed 1 rest
  | '-' :: rest | '\u2212' :: rest => signed (-1) rest
  | u :: t :: c :: rest =>
    if u.toLower = 'u' ∧ t.toLower = 't' ∧ c.toLower = 'c' then some (0, rest) else none
  | _ => none

/-- Reads a timestamp with its offset. The date must exist, the offset must be less than a day, and
second 60 is the leap second after second 59. -/
def ofChars? (input : List Char) : Option Timestamp := do
  let (year, rest) ← scanYear input
  let rest ← scanMark '-' rest
  let (month, rest) ← scanField 1 12 rest
  let rest ← scanMark '-' rest
  let (day, rest) ← scanField 1 31 rest
  let rest ← match rest with
    | 'T' :: rest | 't' :: rest | ' ' :: rest => some rest
    | _ => none
  let (hour, rest) ← scanField 0 23 rest
  let rest ← scanMark ':' rest
  let (minute, rest) ← scanField 0 59 rest
  let rest ← scanMark ':' rest
  let (second, rest) ← scanField 0 60 rest
  let (nanos, rest) ← scanFraction rest
  let (offset, rest) ← scanOffset rest
  let date : Date := ⟨year, month, day⟩
  if (Text.trimStart rest).isEmpty ∧ date.isValid ∧ offset.natAbs < 86400 then
    let isLeap := second = 60
    let clock := hour * 3600 + minute * 60 + (if isLeap then 59 else second)
    let nanos := if isLeap then nanos + 1000000000 else nanos
    let unshifted ← ofParts? (date.toDays * 86400 + clock) nanos
    ofParts? (unshifted.seconds - offset) nanos
  else none

/-- Reads a timestamp from its text. -/
def ofText? (text : String) : Option Timestamp := ofChars? text.toList

end Timestamp

end ColumnQuery
