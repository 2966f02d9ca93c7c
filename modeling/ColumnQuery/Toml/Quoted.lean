import ColumnQuery.Text.Literal

/-!
# TOML strings

A string stands between double or single quotes, or between three of them when it runs over several
lines. Between double quotes a backslash starts an escape; between single quotes every character
stands for itself. Up to two quotes may stand right before three closing ones.
-/
namespace ColumnQuery.Toml.Quoted

/-- Whether a character may stand for itself, here and in comments: no control character except
the tab. -/
def isPlain (c : Char) : Bool := c == '\t' || (32 ≤ c.toNat && c.toNat != 127)

/-- The character of an escape by letter. -/
def escape? : Char → Option Char
  | '"' => some '"'
  | '\\' => some '\\'
  | 'b' => some '\x08'
  | 'f' => some '\x0c'
  | 'n' => some '\n'
  | 'r' => some '\r'
  | 't' => some '\t'
  | _ => none

/-- The character whose number is written in hexadecimal digits. -/
def numbered? (digits : List Char) : Option Char := do
  let digits ← digits.mapM Text.Hex.digit?
  let n := digits.foldl (fun n digit => n * 16 + digit.val) 0
  if n < 0xd800 ∨ (0xdfff < n ∧ n < 0x110000) then some (Char.ofNat n) else none

/-- A string with a further character in front. -/
def withChar (c : Char) (found : Option (List Char × List Char)) : Option (List Char × List Char) :=
  found.map fun (text, tail) => (c :: text, tail)

/-- A string after its double quote, and what follows it. -/
def scanBasic : List Char → Option (List Char × List Char)
  | [] => none
  | '"' :: rest => some ([], rest)
  | '\\' :: 'u' :: a :: b :: c :: d :: rest => do
    let char ← numbered? [a, b, c, d]
    withChar char (scanBasic rest)
  | '\\' :: 'U' :: a :: b :: c :: d :: e :: f :: g :: h :: rest => do
    let char ← numbered? [a, b, c, d, e, f, g, h]
    withChar char (scanBasic rest)
  | '\\' :: c :: rest => do
    let char ← escape? c
    withChar char (scanBasic rest)
  | c :: rest => if isPlain c then withChar c (scanBasic rest) else none

/-- A string after its single quote, and what follows it. -/
def scanLiteral : List Char → Option (List Char × List Char)
  | [] => none
  | c :: rest =>
    if c = '\'' then some ([], rest)
    else if isPlain c then withChar c (scanLiteral rest)
    else none

/-- The quotes that belong to a text in front of three closing ones, and what follows these. -/
def closing? (quote : Char) (text : List Char) : Option (List Char × List Char) :=
  let run := (text.takeWhile (· == quote)).take 5
  if run.length < 3 then none else some (run.drop 3, text.drop run.length)

/-- Whether a line ends here. -/
def startsLine : List Char → Bool
  | '\n' :: _ | '\r' :: '\n' :: _ => true
  | _ => false

/-- Whether only blanks follow on the line. -/
def endsLine (text : List Char) : Bool :=
  startsLine (text.dropWhile fun c => c == ' ' || c == '\t')

/-- A text of several lines after three double quotes, and what follows it. A backslash at the end
of a line joins it with what the next lines start with; the flag tells that blanks and line breaks
are being skipped. -/
def scanBlock : Bool → List Char → Option (List Char × List Char)
  | _, [] => none
  | true, ' ' :: rest => scanBlock true rest
  | true, '\t' :: rest => scanBlock true rest
  | true, '\n' :: rest => scanBlock true rest
  | true, '\r' :: '\n' :: rest => scanBlock true rest
  | _, '\r' :: '\n' :: rest => withChar '\n' (scanBlock false rest)
  | _, '\n' :: rest => withChar '\n' (scanBlock false rest)
  | _, '"' :: rest =>
    match closing? '"' ('"' :: rest) with
    | some found => some found
    | none => withChar '"' (scanBlock false rest)
  | _, '\\' :: 'u' :: a :: b :: c :: d :: rest => do
    let char ← numbered? [a, b, c, d]
    withChar char (scanBlock false rest)
  | _, '\\' :: 'U' :: a :: b :: c :: d :: e :: f :: g :: h :: rest => do
    let char ← numbered? [a, b, c, d, e, f, g, h]
    withChar char (scanBlock false rest)
  | _, '\\' :: c :: rest =>
    if endsLine (c :: rest) then scanBlock true (c :: rest)
    else do
      let char ← escape? c
      withChar char (scanBlock false rest)
  | _, c :: rest => if isPlain c then withChar c (scanBlock false rest) else none

/-- A text of several lines after three single quotes, and what follows it. -/
def scanLiteralBlock : List Char → Option (List Char × List Char)
  | [] => none
  | '\r' :: '\n' :: rest => withChar '\n' (scanLiteralBlock rest)
  | '\n' :: rest => withChar '\n' (scanLiteralBlock rest)
  | '\'' :: rest =>
    match closing? '\'' ('\'' :: rest) with
    | some found => some found
    | none => withChar '\'' (scanLiteralBlock rest)
  | c :: rest => if isPlain c then withChar c (scanLiteralBlock rest) else none

/-- The text without a line break at its start. -/
def dropBreak : List Char → List Char
  | '\n' :: rest => rest
  | '\r' :: '\n' :: rest => rest
  | text => text

/-- A string on one line at the front of a text. -/
def scanLine : List Char → Option (List Char × List Char)
  | '"' :: rest => scanBasic rest
  | '\'' :: rest => scanLiteral rest
  | _ => none

/-- A string of either size at the front of a text. -/
def scan : List Char → Option (List Char × List Char)
  | '"' :: '"' :: '"' :: rest => scanBlock false (dropBreak rest)
  | '\'' :: '\'' :: '\'' :: rest => scanLiteralBlock (dropBreak rest)
  | text => scanLine text

end ColumnQuery.Toml.Quoted
