import ColumnQuery.Uuid

/-!
# Identifiers are read back

The text of an identifier is the hyphenated form, which no other form is taken for: its first
character is a hexadecimal digit, so it opens no brace and begins no URN.
-/
namespace ColumnQuery

/-- A hexadecimal digit is neither a brace nor the first letter of the namespace. -/
theorem Text.Hex.digitChar_apart (digit : Fin 16) :
    digitChar digit ≠ '\x7b' ∧ (digitChar digit).toLower ≠ 'u' := by
  revert digit
  decide

/-- Every byte has two digits. -/
theorem Text.Hex.length_chars (bytes : List UInt8) : (chars bytes).length = 2 * bytes.length := by
  induction bytes with
  | nil => rfl
  | cons byte bytes ih =>
    have step : (chars (byte :: bytes)).length = (chars bytes).length + 2 := rfl
    rw [step, ih, List.length_cons]
    omega

namespace Uuid

/-- A text that begins otherwise than the namespace is left whole. -/
theorem dropNamespace_cons {c : Char} (other : c.toLower ≠ 'u') (tail : List Char) :
    dropNamespace (c :: tail) = c :: tail := by
  unfold dropNamespace
  rw [if_neg]
  intro same
  exact other (List.cons.inj same).1

/-- A text of thirty-six characters that begins with a hexadecimal digit is read as hyphenated. -/
theorem ofChars?_hyphenated {digit : Fin 16} {tail : List Char} (length : tail.length = 35) :
    ofChars? (Text.Hex.digitChar digit :: tail) =
      ofHyphenated? (Text.Hex.digitChar digit :: tail) := by
  obtain ⟨brace, letter⟩ := Text.Hex.digitChar_apart digit
  have long : (Text.Hex.digitChar digit :: tail).length ≠ 32 := by
    rw [List.length_cons, length]
    decide
  rw [ofChars?, if_neg long, dropNamespace_cons letter]
  intro rest same
  exact brace (List.cons.inj same).1

/-- Groups with hyphens between them are read as their digits. -/
theorem ofHyphenated?_groups {first second third fourth fifth : List Char}
    (eight : first.length = 8) (four : second.length = 4) (four' : third.length = 4)
    (four'' : fourth.length = 4) (twelve : fifth.length = 12) :
    ofHyphenated? (first ++ '-' :: second ++ '-' :: third ++ '-' :: fourth ++ '-' :: fifth) =
      ofDigits? (first ++ second ++ third ++ fourth ++ fifth) := by
  unfold ofHyphenated?
  rw [if_pos]
  · simp [List.drop_append, List.drop_of_length_le, eight, four, four', four'']
  · simp [List.getElem?_append, List.getElem?_cons, eight, four, four', four'', twelve]

/-- The groups hold the digits of all bytes in order. -/
theorem chars_groups (bytes : List UInt8) :
    Text.Hex.chars (bytes.take 4) ++ Text.Hex.chars ((bytes.drop 4).take 2) ++
      Text.Hex.chars ((bytes.drop 6).take 2) ++ Text.Hex.chars ((bytes.drop 8).take 2) ++
        Text.Hex.chars (bytes.drop 10) = Text.Hex.chars bytes := by
  have next (count first : Nat) : (bytes.drop first).take count ++ bytes.drop (first + count) =
      bytes.drop first := by
    rw [← List.drop_drop, List.take_append_drop]
  simp only [Text.Hex.chars, ← List.flatMap_append, List.append_assoc]
  rw [next 2 8, next 2 6, next 2 4, List.take_append_drop]

/-- **An identifier is read back from its text.** -/
theorem ofText?_text (uuid : Uuid) : ofText? uuid.text = some uuid := by
  rw [ofText?, text, String.toList_ofList]
  obtain ⟨bytes, sixteen⟩ := uuid
  have last : (bytes.drop 10).take 6 = bytes.drop 10 := by
    have six : (bytes.drop 10).length = 6 := by rw [List.length_drop, sixteen]
    exact List.take_of_length_le (Nat.le_of_eq six)
  have hyphenated : ofHyphenated? (chars ⟨bytes, sixteen⟩) =
      ofDigits? (Text.Hex.chars bytes) := by
    rw [chars, ofHyphenated?_groups]
    · dsimp only
      rw [List.drop_zero, last, chars_groups]
    all_goals simp [Text.Hex.length_chars, sixteen]
  have length : (chars ⟨bytes, sixteen⟩).length = 36 := by
    simp [chars, Text.Hex.length_chars, sixteen]
  obtain ⟨digit, tail, begins⟩ : ∃ digit tail,
      chars ⟨bytes, sixteen⟩ = Text.Hex.digitChar digit :: tail := by
    cases bytes with
    | nil => contradiction
    | cons byte others => exact ⟨_, _, rfl⟩
  rw [begins] at hyphenated length ⊢
  rw [ofChars?_hyphenated (Nat.succ.inj length), hyphenated, ofDigits?, Text.Hex.bytes?_chars]
  exact dif_pos sixteen

end Uuid

end ColumnQuery
