import ColumnQuery.Grammar.Reader
import ColumnQuery.Text.Classes

/-!
# Tokens

Words and literals of predicate texts. An identifier starts with a letter or an underscore and goes
on with letters, numerals and underscores as far as possible; the reserved words, in any case, are
no identifiers. Any name can be written between double quotes, without a double quote inside.
-/
namespace ColumnQuery.Grammar

/-- Whether an identifier may start with a character. -/
def isIdentStart (c : Char) : Bool := Text.isAlphabetic c || c == '_'

/-- Whether an identifier may go on with a character. -/
def isIdentChar (c : Char) : Bool := Text.isAlphabetic c || Text.isNumeric c || c == '_'

/-- A text in lower case, as far as it is ASCII. -/
def lowered (text : List Char) : List Char := text.map Char.toLower

/-- The words that are no identifiers. -/
def reserved : List String := ["and", "or", "not", "in", "null", "true", "false"]

/-- Whether a word is reserved, in any case. -/
def isReserved (word : List Char) : Bool :=
  reserved.any fun keyword => lowered word == keyword.toList

/-- What follows a word in any case, if the text starts with it. -/
def dropKeyword : List Char → List Char → Option (List Char)
  | [], text => some text
  | _ :: _, [] => none
  | w :: word, c :: text => if c.toLower = w then dropKeyword word text else none

/-- A keyword in any case, with no identifier character after it. -/
def keyword (word : String) : Reader Unit := fun text =>
  match dropKeyword word.toList text with
  | none => .miss text .tag
  | some [] => .done () []
  | some (c :: rest) => if isIdentChar c then .miss (c :: rest) .not else .done () (c :: rest)

/-- An identifier that is not reserved. -/
def identifier : Reader String
  | [] => .miss [] .satisfy
  | c :: rest =>
    if isIdentStart c then
      let word := c :: rest.takeWhile isIdentChar
      if isReserved word then .miss (c :: rest) .tag
      else .done (String.ofList word) (rest.dropWhile isIdentChar)
    else .miss (c :: rest) .satisfy

/-- A name between double quotes, at least one character long. -/
def quotedName : Reader String := fun text =>
  (char '"' text).bind fun _ rest =>
    let name := rest.takeWhile (· != '"')
    if name.isEmpty then .miss rest .takeWhile1
    else (char '"' (rest.dropWhile (· != '"'))).map fun _ => String.ofList name

/-- The name of a field. -/
def fieldName : Reader String := fun text =>
  (quotedName text).orElse fun _ => identifier text

/-- A number: digits, and digits after a point for a floating point number. An integer must fit the
word. -/
def number : Reader Value := fun text =>
  let (whole, rest) := Digits.scan text
  if whole.isEmpty then .miss text .digit
  else
    let integer : Outcome Value :=
      match Bigint.ofInt? (Digits.value whole) with
      | some n => .done (.int n) rest
      | none => .miss text .digit
    match rest with
    | '.' :: afterPoint =>
      let (fraction, tail) := Digits.scan afterPoint
      if fraction.isEmpty then integer
      else .done (.float (Numeral.double { negative := false, whole, fraction })) tail
    | _ => integer

/-- A text literal. Once its quote is open nothing else can be meant. -/
def textLiteral : Reader Value
  | '\'' :: rest =>
    match Text.Quoted.scanBody rest with
    | some (text, tail) => .done (.text (String.ofList text)) tail
    | none => .halt ('\'' :: rest) .unclosed
  | text => .miss text .char

/-- A literal value. -/
def literal : Reader Value := fun text =>
  ((keyword "null" text).map fun _ => .null).orElse fun _ =>
  ((keyword "true" text).map fun _ => .bool true).orElse fun _ =>
  ((keyword "false" text).map fun _ => .bool false).orElse fun _ =>
  (number text).orElse fun _ => textLiteral text

end ColumnQuery.Grammar
