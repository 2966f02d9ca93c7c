/-!
# Decimal digits

Digits are numbers below ten, written most significant first. A natural is written by
`Digits.ofNat` without leading zeros and read back by `Digits.value`; `Digits.scan` takes the
longest run of digit characters from the front of a text.
-/
namespace ColumnQuery

/-- One decimal digit. -/
abbrev Digit := Fin 10

namespace Digit

/-- The ASCII character of a digit. -/
def char (digit : Digit) : Char := Char.ofNat (48 + digit.val)

/-- The digit an ASCII character stands for. -/
def ofChar? (c : Char) : Option Digit :=
  if inside : 48 ≤ c.toNat ∧ c.toNat < 58 then some ⟨c.toNat - 48, by omega⟩ else none

/-- A digit is read back from its character. -/
theorem ofChar?_char (digit : Digit) : ofChar? digit.char = some digit := by
  revert digit
  decide

/-- Only the character of a digit is read as that digit. -/
theorem char_of_ofChar? {c : Char} {digit : Digit} (read : ofChar? c = some digit) :
    digit.char = c := by
  unfold ofChar? at read
  split at read
  · rename_i inside
    obtain rfl := Option.some.inj read
    unfold char
    have whole : 48 + (c.toNat - 48) = c.toNat := by omega
    simp only [whole, Char.ofNat_toNat]
  · contradiction

end Digit

namespace Digits

/-- The number that digits denote, most significant first. -/
def value (digits : List Digit) : Nat := digits.foldl (fun n digit => n * 10 + digit.val) 0

/-- The digits of a natural, most significant first; zero has one digit. -/
def ofNat (n : Nat) : List Digit :=
  if small : n < 10 then [⟨n, small⟩] else ofNat (n / 10) ++ [⟨n % 10, by omega⟩]
termination_by n
decreasing_by omega

/-- A further digit multiplies by ten and adds. -/
theorem value_append_singleton (digits : List Digit) (digit : Digit) :
    value (digits ++ [digit]) = value digits * 10 + digit.val := by
  simp [value, List.foldl_append]

/-- The digits of a natural denote it. -/
theorem value_ofNat (n : Nat) : value (ofNat n) = n := by
  rw [ofNat]
  split
  · simp [value]
  · rw [value_append_singleton, value_ofNat (n / 10)]
    show n / 10 * 10 + n % 10 = n
    omega
termination_by n
decreasing_by omega

/-- Every natural has a digit. -/
theorem ofNat_ne_nil (n : Nat) : ofNat n ≠ [] := by
  rw [ofNat]
  split <;> simp

/-- The characters of digits. -/
def chars (digits : List Digit) : List Char := digits.map Digit.char

/-- The longest run of digits at the front of a text, and what follows it. -/
def scan : List Char → List Digit × List Char
  | [] => ([], [])
  | c :: rest =>
    match Digit.ofChar? c with
    | none => ([], c :: rest)
    | some digit =>
      let (digits, tail) := scan rest
      (digit :: digits, tail)

/-- The text is the characters of the digits found, then the rest. -/
theorem chars_append_scan (text : List Char) : chars (scan text).1 ++ (scan text).2 = text := by
  induction text with
  | nil => rfl
  | cons c rest ih =>
    unfold scan
    cases read : Digit.ofChar? c with
    | none => rfl
    | some digit =>
      have head := Digit.char_of_ofChar? read
      simp only [chars, List.map_cons, List.cons_append, head]
      exact congrArg (List.cons c) ih

/-- Digits followed by a text that starts with none are found whole. -/
theorem scan_chars_append (digits : List Digit) (rest : List Char)
    (ended : ∀ c tail, rest = c :: tail → Digit.ofChar? c = none) :
    scan (chars digits ++ rest) = (digits, rest) := by
  induction digits with
  | nil =>
    cases rest with
    | nil => rfl
    | cons c tail =>
      show scan (c :: tail) = _
      unfold scan
      rw [ended c tail rfl]
  | cons digit digits ih =>
    show scan (digit.char :: (chars digits ++ rest)) = _
    unfold scan
    rw [Digit.ofChar?_char, ih]

end Digits

/-- The decimal text of an integer: a minus sign below zero, and no leading zeros. -/
def decimalText (n : Int) : List Char :=
  let digits := Digits.chars (Digits.ofNat n.natAbs)
  if n < 0 then '-' :: digits else digits

end ColumnQuery
