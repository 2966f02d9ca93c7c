import ColumnQuery.Json.Node
import ColumnQuery.Text.Classes

/-!
# Reading JSON

`Node.ofText?` reads one value, blanks around it, and nothing else. The readers take a bound on
their calls; each call takes at least one character, so the length of the text is bound enough.
-/
namespace ColumnQuery.Json

/-- Digits that start with a zero only if there is no other. -/
def scanWhole (text : List Char) : Option (List Digit × List Char) :=
  match Digits.scan text with
  | ([], _) => none
  | (first :: digits, rest) =>
    if first.val = 0 ∧ digits ≠ [] then none else some (first :: digits, rest)

/-- Digits after a point, if there is a point. -/
def scanFraction : List Char → Option (List Digit × List Char)
  | '.' :: text =>
    match Digits.scan text with
    | ([], _) => none
    | found => some found
  | text => some ([], text)

/-- The digits of an exponent after its sign. -/
def scanPower (sign : Option Bool) (text : List Char) : Option (Option Exponent × List Char) :=
  match Digits.scan text with
  | ([], _) => none
  | (digits, rest) => some (some ⟨sign, digits⟩, rest)

/-- An exponent, if there is the letter of one. -/
def scanExponent : List Char → Option (Option Exponent × List Char)
  | 'e' :: '-' :: text | 'E' :: '-' :: text => scanPower (some true) text
  | 'e' :: '+' :: text | 'E' :: '+' :: text => scanPower (some false) text
  | 'e' :: text | 'E' :: text => scanPower none text
  | text => some (none, text)

/-- A numeral after its sign. -/
def scanUnsigned (negative : Bool) (text : List Char) : Option (Numeral × List Char) := do
  let (whole, text) ← scanWhole text
  let (fraction, text) ← scanFraction text
  let (exponent, text) ← scanExponent text
  some (⟨negative, whole, fraction, exponent⟩, text)

/-- A numeral at the front of a text. -/
def scanNumeral : List Char → Option (Numeral × List Char)
  | '-' :: text => scanUnsigned true text
  | text => scanUnsigned false text

/-- A string after its opening quote. -/
def scanString (text : List Char) : Option (Option String × List Char) :=
  (Quoted.scanPieces text).map fun (pieces, rest) =>
    ((Quoted.join? pieces).map String.ofList, rest)

/-- A key and its colon. -/
def scanKey (text : List Char) : Option (Option String × List Char) :=
  match Text.skipSeparators text with
  | '"' :: text => do
    let (key, text) ← scanString text
    match Text.skipSeparators text with
    | ':' :: text => some (key, text)
    | _ => none
  | _ => none

mutual

/-- A value at the front of a text. -/
def readNode : Nat → List Char → Option (Node × List Char)
  | 0, _ => none
  | bound + 1, text =>
    match Text.skipSeparators text with
    | 'n' :: 'u' :: 'l' :: 'l' :: text => some (.null, text)
    | 't' :: 'r' :: 'u' :: 'e' :: text => some (.bool true, text)
    | 'f' :: 'a' :: 'l' :: 's' :: 'e' :: text => some (.bool false, text)
    | '"' :: text => (scanString text).map fun (found, text) => (.string found, text)
    | '[' :: text =>
      match Text.skipSeparators text with
      | ']' :: text => some (.array [], text)
      | text => do
        let (first, text) ← readNode bound text
        let (others, text) ← readItems bound text
        some (.array (first :: others), text)
    | '\x7b' :: text =>
      match Text.skipSeparators text with
      | '\x7d' :: text => some (.object [], text)
      | text => do
        let (key, text) ← scanKey text
        let (node, text) ← readNode bound text
        let (others, text) ← readEntries bound text
        some (.object (⟨key, node⟩ :: others), text)
    | text => (scanNumeral text).map fun (numeral, text) => (.number numeral, text)

/-- The items after the first, and the closing bracket. -/
def readItems : Nat → List Char → Option (List Node × List Char)
  | 0, _ => none
  | bound + 1, text =>
    match Text.skipSeparators text with
    | ']' :: text => some ([], text)
    | ',' :: text => do
      let (item, text) ← readNode bound text
      let (others, text) ← readItems bound text
      some (item :: others, text)
    | _ => none

/-- The entries after the first, and the closing brace. -/
def readEntries : Nat → List Char → Option (List Entry × List Char)
  | 0, _ => none
  | bound + 1, text =>
    match Text.skipSeparators text with
    | '\x7d' :: text => some ([], text)
    | ',' :: text => do
      let (key, text) ← scanKey text
      let (node, text) ← readNode bound text
      let (others, text) ← readEntries bound text
      some (⟨key, node⟩ :: others, text)
    | _ => none

end

/-- The value that a whole text holds. -/
def Node.ofChars? (text : List Char) : Option Node := do
  let (node, rest) ← readNode (text.length + 1) text
  if (Text.skipSeparators rest).isEmpty then some node else none

/-- The value that a whole text holds. -/
def Node.ofText? (text : String) : Option Node := Node.ofChars? text.toList

end ColumnQuery.Json
