import Mathlib.Tactic.SplitIfs
import ColumnQuery.Json.Reader

/-!
# JSON strings are read back

Each character is written as one piece: itself, a letter after a backslash, or the number of a
control character. Whatever a text holds, its pieces end where its closing quote stands, and they
make the text again.
-/
namespace ColumnQuery.Json

namespace Quoted

/-- Whether a control character is written by its number, for want of a letter. -/
def isNumbered (c : Char) : Bool :=
  c.toNat < 32 && !(['\x08', '\t', '\n', '\x0c', '\r'].contains c)

/-- The piece that a character is written as. -/
def pieceOf (c : Char) : Piece := if isNumbered c then .unit c.toNat else .char c

/-- A control character is read back from the two digits of its number. -/
theorem unit?_byteChars {c : Char} (control : c.toNat < 32) :
    ∃ high low, Text.Hex.byteChars (UInt8.ofNat c.toNat) = [high, low] ∧
      unit? '0' '0' high low = some c.toNat := by
  refine ⟨_, _, rfl, ?_⟩
  have zero : Text.Hex.digit? '0' = some 0 := by decide
  have small : (UInt8.ofNat c.toNat).toNat = c.toNat := by
    rw [UInt8.toNat_ofNat']
    omega
  simp only [unit?, zero, Text.Hex.digit?_digitChar, bind, Option.bind, small, Option.some.injEq]
  show ((0 * 16 + 0) * 16 + c.toNat / 16) * 16 + c.toNat % 16 = c.toNat
  omega

/-- An escape by letter is read as the character of the letter. -/
theorem scanPieces_letter {letter c : Char} (found : escape? letter = some c) (rest : List Char) :
    scanPieces ('\\' :: letter :: rest) =
      (scanPieces rest).map fun found => (.char c :: found.1, found.2) := by
  have other : letter ≠ 'u' := by
    rintro rfl
    contradiction
  rw [scanPieces, found]
  · cases scanPieces rest <;> rfl
  · intro a b c d tail same
    exact absurd same other

/-- A character that needs no escape is read as itself. -/
theorem scanPieces_plain {c : Char} (quote : c ≠ '"') (backslash : c ≠ '\\')
    (printed : ¬ c.toNat < 32) (rest : List Char) :
    scanPieces (c :: rest) =
      (scanPieces rest).map fun found => (.char c :: found.1, found.2) := by
  rw [scanPieces]
  · cases scanPieces rest with
    | none => rfl
    | some found => exact if_neg printed
  · exact quote
  · intro _ _ _ _ _ same
    exact absurd same backslash
  · intro _ _ same
    exact absurd same backslash

/-- A character that is not numbered is its own piece. -/
theorem pieceOf_of_printed {c : Char} (printed : ¬ c.toNat < 32) : pieceOf c = .char c := by
  simp [pieceOf, isNumbered, printed]

/-- A written character is read as its piece, whatever follows. -/
theorem scanPieces_encodeChar (c : Char) (rest : List Char) :
    scanPieces (encodeChar c ++ rest) =
      (scanPieces rest).map fun found => (pieceOf c :: found.1, found.2) := by
  unfold encodeChar
  split_ifs with quote backslash backspace tab newline formFeed carriageReturn control
  · subst quote
    exact scanPieces_letter (by decide) rest
  · subst backslash
    exact scanPieces_letter (by decide) rest
  · subst backspace
    exact scanPieces_letter (by decide) rest
  · subst tab
    exact scanPieces_letter (by decide) rest
  · subst newline
    exact scanPieces_letter (by decide) rest
  · subst formFeed
    exact scanPieces_letter (by decide) rest
  · subst carriageReturn
    exact scanPieces_letter (by decide) rest
  · have piece : pieceOf c = .unit c.toNat := by
      simp [pieceOf, isNumbered, control, backspace, tab, newline, formFeed, carriageReturn]
    obtain ⟨high, low, written, read⟩ := unit?_byteChars control
    rw [written, piece]
    show scanPieces ('\\' :: 'u' :: '0' :: '0' :: high :: low :: rest) = _
    rw [scanPieces, read]
    cases scanPieces rest <;> rfl
  · rw [pieceOf_of_printed control]
    exact scanPieces_plain quote backslash control rest

/-- The pieces of a written text end at its closing quote. -/
theorem scanPieces_encode (text rest : List Char) :
    scanPieces (text.flatMap encodeChar ++ '"' :: rest) = some (text.map pieceOf, rest) := by
  induction text with
  | nil => simp [scanPieces]
  | cons c text ih =>
    rw [List.flatMap_cons, List.append_assoc, scanPieces_encodeChar, ih]
    rfl

/-- A unit below the surrogates makes its character. -/
theorem join?_unit {n : Nat} (low : n < 0xd800) (pieces : List Piece) :
    join? (.unit n :: pieces) = (join? pieces).map (Char.ofNat n :: ·) := by
  have inside : n < 0xd800 ∨ 0xdfff < n := .inl low
  cases pieces with
  | nil => simp [join?, inside]
  | cons piece pieces =>
    cases piece with
    | char c => simp [join?, inside]
    | unit m => simp [join?, inside]

/-- The pieces of a text make the text. -/
theorem join?_pieceOf (text : List Char) : join? (text.map pieceOf) = some text := by
  induction text with
  | nil => rfl
  | cons c text ih =>
    rw [List.map_cons, pieceOf]
    by_cases numbered : isNumbered c
    · have control : c.toNat < 32 := by
        simp only [isNumbered, Bool.and_eq_true, decide_eq_true_eq] at numbered
        exact numbered.1
      rw [if_pos numbered, join?_unit (by omega), ih, Char.ofNat_toNat]
      rfl
    · rw [if_neg numbered, join?, ih]
      rfl

end Quoted

/-- A written string is read as its text, whatever follows. -/
theorem scanString_encode (text : String) (rest : List Char) :
    scanString (text.toList.flatMap Quoted.encodeChar ++ '"' :: rest) = some (some text, rest) := by
  rw [scanString, Quoted.scanPieces_encode, Option.map_some]
  show some ((Quoted.join? (text.toList.map Quoted.pieceOf)).map String.ofList, rest) = _
  rw [Quoted.join?_pieceOf, Option.map_some, String.ofList_toList]

end ColumnQuery.Json
