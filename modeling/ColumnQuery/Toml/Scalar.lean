import ColumnQuery.Number.Numeral
import ColumnQuery.Text.Literal
import ColumnQuery.Time.Calendar
import ColumnQuery.Toml.Item

/-!
# TOML numbers and times

Digits may have single underscores between them. A decimal number has no leading zeros; integers are
also written with the base 16, 8 or 2, without a sign. Integers must fit 64 bits. A date, a time of
day and an offset are checked field by field.
-/
namespace ColumnQuery.Toml

/-- A reader of something at the front of a text. -/
abbrev Scan (α : Type) := List Char → Option (α × List Char)

/-- The digits after a first one. -/
def scanMoreDigits {α : Type} (digit? : Char → Option α) : Scan (List α)
  | [] => some ([], [])
  | '_' :: c :: rest => do
    let digit ← digit? c
    let (digits, tail) ← scanMoreDigits digit? rest
    some (digit :: digits, tail)
  | c :: rest =>
    match digit? c with
    | some digit => (scanMoreDigits digit? rest).map fun (digits, tail) => (digit :: digits, tail)
    | none => if c = '_' then none else some ([], c :: rest)

/-- One digit or more. -/
def scanDigits {α : Type} (digit? : Char → Option α) : Scan (List α)
  | [] => none
  | c :: rest => do
    let digit ← digit? c
    let (digits, tail) ← scanMoreDigits digit? rest
    some (digit :: digits, tail)

/-- An integer as an item, if it fits. -/
def integerItem (n : Int) : Option Item := (Bigint.ofInt? n).map .integer

/-- An integer of another base, after the sign of the base. -/
def scanBased (base : Nat) : Scan Item := fun text => do
  let (digits, rest) ← scanDigits (fun c => (Text.Hex.digit? c).filter (·.val < base)) text
  let item ← integerItem (digits.foldl (fun n digit => n * base + digit.val) 0 : Nat)
  some (item, rest)

/-- The digits before the point: a zero alone, or digits that start with no zero. -/
def scanWhole : Scan (List Digit)
  | '0' :: rest => some ([⟨0, by decide⟩], rest)
  | text => scanDigits Digit.ofChar? text

/-- An exponent, if there is the letter of one. -/
def scanExponent : Scan (Option Exponent) := fun text =>
  let digits (sign : Option Bool) (text : List Char) : Option (Option Exponent × List Char) :=
    (scanDigits Digit.ofChar? text).map fun (digits, rest) => (some ⟨sign, digits⟩, rest)
  let signed (text : List Char) : Option (Option Exponent × List Char) :=
    match text with
    | '-' :: rest => digits (some true) rest
    | '+' :: rest => digits (some false) rest
    | rest => digits none rest
  match text with
  | 'e' :: rest | 'E' :: rest => signed rest
  | rest => some (none, rest)

/-- Digits after a point, if there is a point. -/
def scanFraction : Scan (List Digit)
  | '.' :: rest => scanDigits Digit.ofChar? rest
  | text => some ([], text)

/-- A decimal number after its sign. A number too large to be finite is refused, but one too far
below zero is not. -/
def scanUnsigned (negative : Bool) : Scan Item
  | 'i' :: 'n' :: 'f' :: rest => some (.float (.signed negative .infinity), rest)
  | 'n' :: 'a' :: 'n' :: rest => some (.float .nan, rest)
  | text => do
    let (whole, rest) ← scanWhole text
    let (fraction, rest) ← scanFraction rest
    let (exponent, rest) ← scanExponent rest
    let numeral : Numeral := ⟨negative, whole, fraction, exponent⟩
    let item ←
      if numeral.isWhole then integerItem numeral.integer
      else if negative || numeral.double.isFinite then some (.float numeral.double)
      else none
    some (item, rest)

/-- A number. -/
def scanNumber : Scan Item
  | '0' :: 'x' :: rest => scanBased 16 rest
  | '0' :: 'o' :: rest => scanBased 8 rest
  | '0' :: 'b' :: rest => scanBased 2 rest
  | '-' :: rest => scanUnsigned true rest
  | '+' :: rest => scanUnsigned false rest
  | text => scanUnsigned false text

/-- A number of fixed width within bounds. -/
def scanField (width low high : Nat) : Scan Nat := fun text =>
  let digits := (Digits.scan (text.take width)).1
  let n := Digits.value digits
  if digits.length = width ∧ low ≤ n ∧ n ≤ high then some (n, text.drop width) else none

/-- What follows a certain character. -/
def dropChar (expected : Char) : List Char → Option (List Char)
  | [] => none
  | c :: rest => if c = expected then some rest else none

/-- What follows a date. -/
def dropDate (text : List Char) : Option (List Char) := do
  let (year, text) ← scanField 4 0 9999 text
  let text ← dropChar '-' text
  let (month, text) ← scanField 2 1 12 text
  let text ← dropChar '-' text
  let (day, text) ← scanField 2 1 31 text
  if Date.isValid ⟨year, month, day⟩ then some text else none

/-- What follows a time of day, with any number of digits after a point. -/
def dropClock (text : List Char) : Option (List Char) := do
  let (_, text) ← scanField 2 0 23 text
  let text ← dropChar ':' text
  let (_, text) ← scanField 2 0 59 text
  let text ← dropChar ':' text
  let (_, text) ← scanField 2 0 60 text
  match text with
  | '.' :: rest =>
    match Digits.scan rest with
    | ([], _) => some text
    | (_, rest) => some rest
  | text => some text

/-- What follows an offset from Universal Time, if there is one. -/
def dropOffset (text : List Char) : List Char :=
  let clock (rest : List Char) : List Char :=
    let found := do
      let (_, rest) ← scanField 2 0 23 rest
      let rest ← dropChar ':' rest
      let (_, rest) ← scanField 2 0 59 rest
      some rest
    found.getD text
  match text with
  | 'Z' :: rest | 'z' :: rest => rest
  | '+' :: rest | '-' :: rest => clock rest
  | text => text

/-- What follows the time of day after a date, if there is one. -/
def dropDayTime (text : List Char) : List Char :=
  match text with
  | 'T' :: rest | 't' :: rest | ' ' :: rest =>
    match dropClock rest with
    | some rest => dropOffset rest
    | none => text
  | text => text

/-- A date, a time of day or both. -/
def scanTime : Scan Item := fun text =>
  let found := ((dropDate text).map dropDayTime).orElse fun _ => dropClock text
  found.map fun rest => (.time (text.take (text.length - rest.length)), rest)

end ColumnQuery.Toml
