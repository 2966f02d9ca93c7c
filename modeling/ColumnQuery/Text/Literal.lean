/-!
# Literals of texts and bytes

A text literal stands between single quotes, and a single quote inside it is written twice.
`Quoted.encode` writes it; `Quoted.scanBody` reads what follows the opening quote and returns what
follows the closing one. Bytes are written as two lowercase hexadecimal digits each; digits are read
in either case.
-/
namespace ColumnQuery.Text

/-! ## Quoted text -/

namespace Quoted

/-- Every single quote written twice. -/
def double : List Char → List Char
  | [] => []
  | c :: rest => if c = '\'' then '\'' :: '\'' :: double rest else c :: double rest

/-- The literal of a text. -/
def encode (text : List Char) : List Char := '\'' :: (double text ++ ['\''])

/-- Reads up to the closing quote; without one there is no literal. -/
def scanBody : List Char → Option (List Char × List Char)
  | [] => none
  | '\'' :: '\'' :: rest => (scanBody rest).map fun (text, tail) => ('\'' :: text, tail)
  | c :: rest =>
    if c = '\'' then some ([], rest)
    else (scanBody rest).map fun (text, tail) => (c :: text, tail)

end Quoted

/-! ## Hexadecimal text -/

namespace Hex

/-- The lowercase digit of a number below sixteen. -/
def digitChar (digit : Fin 16) : Char :=
  if digit.val < 10 then Char.ofNat (48 + digit.val) else Char.ofNat (87 + digit.val)

/-- The number that a digit of either case stands for. -/
def digit? (c : Char) : Option (Fin 16) :=
  if decimal : 48 ≤ c.toNat ∧ c.toNat < 58 then some ⟨c.toNat - 48, by omega⟩
  else if lower : 97 ≤ c.toNat ∧ c.toNat < 103 then some ⟨c.toNat - 87, by omega⟩
  else if upper : 65 ≤ c.toNat ∧ c.toNat < 71 then some ⟨c.toNat - 55, by omega⟩
  else none

/-- A digit is read back from its character. -/
theorem digit?_digitChar (digit : Fin 16) : digit? (digitChar digit) = some digit := by
  revert digit
  decide

/-- The two digits of a byte, high digit first. -/
def byteChars (byte : UInt8) : List Char :=
  [digitChar ⟨byte.toNat / 16, by have := byte.toNat_lt; omega⟩,
   digitChar ⟨byte.toNat % 16, by omega⟩]

/-- The digits of bytes in order. -/
def chars (bytes : List UInt8) : List Char := bytes.flatMap byteChars

/-- The bytes of a text of digits, two for each byte. -/
def bytes? : List Char → Option (List UInt8)
  | [] => some []
  | [_] => none
  | high :: low :: rest => do
    let high ← digit? high
    let low ← digit? low
    let bytes ← bytes? rest
    pure (UInt8.ofNat (high.val * 16 + low.val) :: bytes)

/-- Bytes are read back from their digits. -/
theorem bytes?_chars (bytes : List UInt8) : bytes? (chars bytes) = some bytes := by
  induction bytes with
  | nil => rfl
  | cons byte bytes ih =>
    have whole : byte.toNat / 16 * 16 + byte.toNat % 16 = byte.toNat := by omega
    show bytes? (_ :: _ :: chars bytes) = _
    simp only [bytes?, digit?_digitChar, ih, whole, UInt8.ofNat_toNat, bind, Option.bind, pure]

end Hex

end ColumnQuery.Text
