import ColumnQuery.Text.Literal

/-!
# JSON strings

A string stands between double quotes. A backslash starts an escape: one of eight letters and signs,
or `u` with the four hexadecimal digits of a UTF-16 unit. Two such units make one character when
they are the halves of a surrogate pair; a half on its own makes none, and a string that holds one
has no text. `encode` escapes only what has to be escaped.
-/
namespace ColumnQuery.Json.Quoted

/-- What a string is written with. -/
inductive Piece where
  /-- A character that stands for itself, or an escape by letter. -/
  | char (c : Char)
  /-- An escape by the number of a UTF-16 unit. -/
  | unit (n : Nat)
deriving DecidableEq

/-- The character of an escape by letter. -/
def escape? : Char → Option Char
  | '"' => some '"'
  | '\\' => some '\\'
  | '/' => some '/'
  | 'b' => some '\x08'
  | 'f' => some '\x0c'
  | 'n' => some '\n'
  | 'r' => some '\r'
  | 't' => some '\t'
  | _ => none

/-- The UTF-16 unit of four hexadecimal digits. -/
def unit? (a b c d : Char) : Option Nat := do
  let a ← Text.Hex.digit? a
  let b ← Text.Hex.digit? b
  let c ← Text.Hex.digit? c
  let d ← Text.Hex.digit? d
  some (((a.val * 16 + b.val) * 16 + c.val) * 16 + d.val)

/-- The pieces up to the closing quote, and what follows it. Control characters must be escaped. -/
def scanPieces : List Char → Option (List Piece × List Char)
  | [] => none
  | '"' :: rest => some ([], rest)
  | '\\' :: 'u' :: a :: b :: c :: d :: rest => do
    let n ← unit? a b c d
    let (pieces, tail) ← scanPieces rest
    some (.unit n :: pieces, tail)
  | '\\' :: c :: rest => do
    let c ← escape? c
    let (pieces, tail) ← scanPieces rest
    some (.char c :: pieces, tail)
  | c :: rest => do
    let (pieces, tail) ← scanPieces rest
    if c.toNat < 32 then none else some (.char c :: pieces, tail)

/-- The text that pieces make, unless one is half of a surrogate pair on its own. -/
def join? : List Piece → Option (List Char)
  | [] => some []
  | .char c :: pieces => (join? pieces).map (c :: ·)
  | .unit n :: pieces =>
    if n < 0xd800 ∨ 0xdfff < n then (join? pieces).map (Char.ofNat n :: ·)
    else match pieces with
      | .unit m :: pieces =>
        if n < 0xdc00 ∧ 0xdc00 ≤ m ∧ m ≤ 0xdfff then
          (join? pieces).map (Char.ofNat (0x10000 + (n - 0xd800) * 1024 + (m - 0xdc00)) :: ·)
        else none
      | _ => none

/-- How a character is written. -/
def encodeChar (c : Char) : List Char :=
  if c = '"' then ['\\', '"']
  else if c = '\\' then ['\\', '\\']
  else if c = '\x08' then ['\\', 'b']
  else if c = '\t' then ['\\', 't']
  else if c = '\n' then ['\\', 'n']
  else if c = '\x0c' then ['\\', 'f']
  else if c = '\r' then ['\\', 'r']
  else if c.toNat < 32 then '\\' :: 'u' :: '0' :: '0' :: Text.Hex.byteChars (UInt8.ofNat c.toNat)
  else [c]

/-- The string of a text. -/
def encode (text : List Char) : List Char := '"' :: (text.flatMap encodeChar ++ ['"'])

end ColumnQuery.Json.Quoted
