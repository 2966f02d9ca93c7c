import ColumnQuery.Text.Literal

/-!
# Universally unique identifiers

Sixteen bytes, written as lowercase hexadecimal digits in groups of eight, four, four, four and
twelve. They are also read without hyphens, in braces and as a URN.
-/
namespace ColumnQuery

/-- The values of the column type `uuid`. -/
structure Uuid where
  /-- The bytes in the order they are written. -/
  bytes : List UInt8
  /-- There are sixteen of them. -/
  sixteen : bytes.length = 16
deriving DecidableEq

namespace Uuid

/-- The identifier of sixteen bytes. -/
def ofBytes? (bytes : List UInt8) : Option Uuid :=
  if sixteen : bytes.length = 16 then some ⟨bytes, sixteen⟩ else none

/-- The hyphenated digits. -/
def chars (uuid : Uuid) : List Char :=
  let group (first count : Nat) := Text.Hex.chars ((uuid.bytes.drop first).take count)
  group 0 4 ++ '-' :: group 4 2 ++ '-' :: group 6 2 ++ '-' :: group 8 2 ++ '-' :: group 10 6

/-- The hyphenated text. -/
def text (uuid : Uuid) : String := String.ofList uuid.chars

/-- Reads thirty-two digits without hyphens. -/
def ofDigits? (text : List Char) : Option Uuid := Text.Hex.bytes? text >>= ofBytes?

/-- Reads digits with hyphens after the eighth, twelfth, sixteenth and twentieth. -/
def ofHyphenated? (text : List Char) : Option Uuid :=
  if text.length = 36 ∧ [8, 13, 18, 23].all (fun place => text[place]? == some '-') then
    ofDigits? (text.take 8 ++ (text.drop 9).take 4 ++ (text.drop 14).take 4 ++
      (text.drop 19).take 4 ++ text.drop 24)
  else none

/-- The URN namespace. -/
def namespaceChars : List Char := ['u', 'r', 'n', ':', 'u', 'u', 'i', 'd', ':']

/-- What follows the URN namespace in any case, or the whole text without one. -/
def dropNamespace (text : List Char) : List Char :=
  if (text.take namespaceChars.length).map Char.toLower = namespaceChars then
    text.drop namespaceChars.length
  else text

/-- Reads any of the four written forms: digits alone, hyphenated digits, hyphenated digits in
braces, and hyphenated digits after the URN namespace. -/
def ofChars? : List Char → Option Uuid
  | '\x7b' :: rest =>
    if rest.getLast? = some '\x7d' then ofHyphenated? rest.dropLast else none
  | text => if text.length = 32 then ofDigits? text else ofHyphenated? (dropNamespace text)

/-- Reads an identifier from its text. -/
def ofText? (text : String) : Option Uuid := ofChars? text.toList

end Uuid

end ColumnQuery
