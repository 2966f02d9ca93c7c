import ColumnQuery.Toml.Quoted
import ColumnQuery.Toml.Scalar

/-!
# Reading TOML

`Toml.ofText?` reads a document: lines of keys with values, headers of tables, comments. Values nest
at most `maxNesting` deep, and a key has at most `maxParts` parts.
-/
namespace ColumnQuery.Toml

/-- The greatest nesting of brackets and braces. -/
def maxNesting : Nat := 79

/-- The greatest number of parts of a key. -/
def maxParts : Nat := 79

/-- What follows blanks. -/
def skipBlanks (text : List Char) : List Char := text.dropWhile fun c => c == ' ' || c == '\t'

/-- What follows blanks, line breaks and comments; the flag tells that this is inside a comment. -/
def skipLines : Bool → List Char → Option (List Char)
  | _, [] => some []
  | _, '\n' :: rest => skipLines false rest
  | _, '\r' :: '\n' :: rest => skipLines false rest
  | true, c :: rest => if Quoted.isPlain c then skipLines true rest else none
  | false, '#' :: rest => skipLines true rest
  | false, c :: rest => if c = ' ' ∨ c = '\t' then skipLines false rest else some (c :: rest)

/-- What follows the end of a line. -/
def endLine (text : List Char) : Option (List Char) :=
  match skipBlanks text with
  | [] => some []
  | '#' :: rest => skipLines true rest
  | rest => if Quoted.startsLine rest then skipLines false rest else none

/-- Whether a key may be written with a character outside quotes. -/
def isBareChar (c : Char) : Bool :=
  c.isAlpha || c.isDigit || c == '-' || c == '_'

/-- One part of a key. -/
def scanPart : Scan String := fun text =>
  match Quoted.scanLine text with
  | some (part, rest) => some (String.ofList part, rest)
  | none =>
    let part := text.takeWhile isBareChar
    if part.isEmpty then none else some (String.ofList part, text.dropWhile isBareChar)

/-- As many things as there are, each after a certain character. -/
def scanMany {α : Type} (mark : Char) (item : Scan α) (text : List Char) : List α × List Char :=
  match text with
  | [] => ([], [])
  | c :: rest =>
    if c = mark then
      match item rest with
      | none => ([], c :: rest)
      | some (first, tail) =>
        if _shorter : tail.length ≤ rest.length then
          let (others, tail) := scanMany mark item tail
          (first :: others, tail)
        else ([], c :: rest)
    else ([], c :: rest)
termination_by text.length

/-- A part of a key with blanks around it. -/
def scanSpacedPart : Scan String := fun text =>
  (scanPart (skipBlanks text)).map fun (part, rest) => (part, skipBlanks rest)

/-- A key with points between its parts. -/
def scanKey : Scan Key := fun text => do
  let (first, rest) ← scanSpacedPart text
  let (others, rest) := scanMany '.' scanSpacedPart rest
  let parts := first :: others
  if parts.length ≤ maxParts then
    some (⟨parts.dropLast, (parts.getLast?).getD first⟩, rest)
  else none

/-- A value of an array, with blanks, line breaks and comments around it. -/
def scanElement (value : Scan Item) : Scan Item := fun text => do
  let text ← skipLines false text
  let (item, text) ← value text
  let text ← skipLines false text
  some (item, text)

/-- An array after its opening bracket. The last value may be followed by a comma. -/
def scanArray (value : Scan Item) : Scan Item := fun text =>
  match scanElement value text with
  | none => do
    let rest ← skipLines false text
    let rest ← dropChar ']' rest
    some (.array [], rest)
  | some (first, rest) => do
    let (others, rest) := scanMany ',' (scanElement value) rest
    let rest := (dropChar ',' rest).getD rest
    let rest ← skipLines false rest
    let rest ← dropChar ']' rest
    some (.array (first :: others), rest)

/-- A key and its value in a table between braces. -/
def scanBinding (value : Scan Item) : Scan (Key × Item) := fun text => do
  let (key, text) ← scanKey text
  let text ← dropChar '=' text
  let (item, text) ← value (skipBlanks text)
  some ((key, item), skipBlanks text)

/-- A table after its opening brace. -/
def scanBraced (value : Scan Item) : Scan Item := fun text =>
  match scanBinding value text with
  | none => do
    let rest ← dropChar '\x7d' (skipBlanks text)
    some (.braced [], rest)
  | some (first, rest) => do
    let (others, rest) := scanMany ',' (scanBinding value) rest
    let rest ← dropChar '\x7d' rest
    let entries ←
      (first :: others).foldlM (fun entries (key, item) => Entry.assign? key item entries) []
    some (.braced entries, rest)

/-- A value, with so many brackets and braces left to open. -/
def scanValue : Nat → Scan Item
  | levels, text =>
    match text with
    | '"' :: _ | '\'' :: _ =>
      (Quoted.scan text).map fun (found, rest) => (.text (String.ofList found), rest)
    | 't' :: 'r' :: 'u' :: 'e' :: rest => some (.bool true, rest)
    | 'f' :: 'a' :: 'l' :: 's' :: 'e' :: rest => some (.bool false, rest)
    | '[' :: rest =>
      match levels with
      | 0 => none
      | inner + 1 => scanArray (scanValue inner) rest
    | '\x7b' :: rest =>
      match levels with
      | 0 => none
      | inner + 1 => scanBraced (scanValue inner) rest
    | text => (scanTime text).orElse fun _ => scanNumber text

/-- The header of a table or of a further table in a list. -/
def scanHeader : Scan Line := fun text =>
  match text with
  | '[' :: '[' :: rest => do
    let (key, rest) ← scanKey rest
    let rest ← dropChar ']' rest
    let rest ← dropChar ']' rest
    some (.element key, rest)
  | '[' :: rest => do
    let (key, rest) ← scanKey rest
    let rest ← dropChar ']' rest
    some (.header key, rest)
  | _ => none

/-- A line that is no comment, and the lines after it without blanks in front. -/
def scanLine : Scan Line := fun text => do
  let (line, rest) ← match text with
    | '[' :: _ => scanHeader text
    | text => do
      let (key, rest) ← scanKey text
      let rest ← dropChar '=' rest
      let (item, rest) ← scanValue maxNesting (skipBlanks rest)
      some (.assign key item, rest)
  let rest ← endLine rest
  some (line, rest)

/-- The lines of a text that starts with none of blanks and comments. -/
def scanLines (text : List Char) : Option (List Line) :=
  match text with
  | [] => some []
  | text => do
    let (line, rest) ← scanLine text
    if _shorter : rest.length < text.length then
      let lines ← scanLines rest
      some (line :: lines)
    else none
termination_by text.length

/-- The entries of the document that a text holds. A byte order mark in front is skipped. -/
def ofText? (text : String) : Option (List Entry) := do
  let text := match text.toList with
    | '\ufeff' :: rest => rest
    | text => text
  let text ← skipLines false text
  let lines ← scanLines text
  Line.entries? [] [] lines

end ColumnQuery.Toml
