import ColumnQuery.Proofs.Grammar.Token
import ColumnQuery.Proofs.Text.Blank
import ColumnQuery.Proofs.Time.Calendar
import ColumnQuery.Time.Timestamp

/-!
# Timestamps are read back

Each field of a timestamp is written in digits that nothing before or after it can be taken for, so
the fields are read back one by one; the date of the day counts the same days, and the seconds of
the clock make the second again. A leap second is written as second 60.
-/
namespace ColumnQuery

open Grammar Phrase

/-! ## Digits -/

/-- A number below a power of ten has at most so many digits. -/
theorem Digits.length_ofNat_le {n width : Nat} (small : n < Nat.pow 10 (width + 1)) :
    (ofNat n).length ≤ width + 1 := by
  induction width generalizing n with
  | zero =>
    have single : n < 10 := small
    rw [ofNat, dif_pos single]
    exact Nat.le_refl 1
  | succ width ih =>
    rw [ofNat]
    split
    · exact Nat.le_add_left 1 _
    · have less := ih (n := n / 10) (Nat.div_lt_of_lt_mul (Nat.mul_comm _ 10 ▸ small))
      rw [List.length_append]
      exact Nat.succ_le_succ less

/-- Zeros in front do not change a number. -/
theorem Digits.value_zeros (count : Nat) (digits : List Digit) :
    value (List.replicate count 0 ++ digits) = value digits := by
  induction count with
  | zero => rfl
  | succ count ih => exact ih

/-- A digit is no white space. -/
theorem Digit.isWhiteSpace_char (digit : Digit) : Text.isWhiteSpace digit.char = false := by
  revert digit
  decide

/-- A text that begins with no white space is not trimmed at its front. -/
theorem Text.trimStart_cons {c : Char} (solid : isWhiteSpace c = false) (tail : List Char) :
    trimStart (c :: tail) = c :: tail := by
  simp [trimStart, solid]

/-- Digits are not trimmed. -/
theorem Digits.trimStart_chars {digits : List Digit} (filled : digits ≠ []) (rest : List Char) :
    Text.trimStart (chars digits ++ rest) = chars digits ++ rest := by
  cases digits with
  | nil => exact absurd rfl filled
  | cons first others => exact Text.trimStart_cons first.isWhiteSpace_char _

namespace Timestamp

/-- The digits that a number is written in with zeros in front up to a width. -/
structure IsPadded (width n : Nat) (digits : List Digit) : Prop where
  /-- The characters are those of the digits. -/
  written : padded width n = Digits.chars digits
  /-- There is a digit. -/
  filled : digits ≠ []
  /-- The digits denote the number. -/
  value : Digits.value digits = n
  /-- There are as many digits as the width says, if the number fits. -/
  length : 0 < width → n < Nat.pow 10 width → digits.length = width

/-- A number is written in digits. -/
theorem exists_isPadded (width n : Nat) : ∃ digits, IsPadded width n digits := by
  refine ⟨List.replicate (width - (Digits.ofNat n).length) 0 ++ Digits.ofNat n, ?_, ?_, ?_, ?_⟩
  · simp only [padded, Digits.chars, List.map_append, List.map_replicate, List.length_map]
    rfl
  · intro none
    exact Digits.ofNat_ne_nil n (List.append_eq_nil_iff.mp none).2
  · rw [Digits.value_zeros, Digits.value_ofNat]
  · intro positive small
    obtain ⟨width, rfl⟩ := Nat.exists_eq_succ_of_ne_zero (Nat.ne_of_gt positive)
    have fits := Digits.length_ofNat_le small
    rw [List.length_append, List.length_replicate]
    exact Nat.sub_add_cancel fits

/-! ## Fields -/

/-- Digits are read back as their number. -/
theorem scanNumber_chars {most : Nat} {digits : List Digit} (filled : digits ≠ [])
    (short : digits.length ≤ most) {rest : List Char} (ended : Ended isDigit rest) :
    scanNumber most (Digits.chars digits ++ rest) = some (Digits.value digits, rest) := by
  have kept : digits.isEmpty = false := List.isEmpty_eq_false_iff.mpr filled
  have dropped : (Digits.chars digits ++ rest).drop digits.length = rest :=
    List.drop_left' (List.length_map _)
  unfold scanNumber
  rw [Digits.trimStart_chars filled]
  dsimp only
  rw [scan_of_ended ended, List.take_of_length_le short, dropped, kept]
  rfl

/-- A field of two digits is read back. -/
theorem scanField_padded {low high n : Nat} (inside : low ≤ n ∧ n ≤ high) (small : n < 100)
    {rest : List Char} (ended : Ended isDigit rest) :
    scanField low high (padded 2 n ++ rest) = some (n, rest) := by
  obtain ⟨digits, pad⟩ := exists_isPadded 2 n
  have two := Nat.le_of_eq (pad.length (by decide) small)
  rw [scanField, pad.written, scanNumber_chars pad.filled two ended, pad.value]
  exact if_pos inside

/-- A mark is read back. -/
theorem scanMark_cons {mark : Char} (solid : Text.isWhiteSpace mark = false) (rest : List Char) :
    scanMark mark (mark :: rest) = some rest := by
  rw [scanMark, Text.trimStart_cons solid]
  exact if_pos rfl

/-- A year without a sign is read as a number of four digits. -/
theorem scanYear_chars {digits : List Digit} (filled : digits ≠ []) (rest : List Char) :
    scanYear (Digits.chars digits ++ rest) =
      (scanNumber 4 (Digits.chars digits ++ rest)).map fun found => ((found.1 : Int), found.2) := by
  have solid := Digits.trimStart_chars filled rest
  cases digits with
  | nil => exact absurd rfl filled
  | cons first others =>
    unfold scanYear
    rw [solid]
    split
    · exact absurd ‹_› (char_cons_ne first (by decide) _ _)
    · exact absurd ‹_› (char_cons_ne first (by decide) _ _)
    · rfl

/-- Digits after the sign of a year are read as a number. -/
theorem scanYear_sign {sign : Char} {factor : Int}
    (spelled : sign = '-' ∧ factor = -1 ∨ sign = '+' ∧ factor = 1) {digits : List Digit}
    (filled : digits ≠ []) {rest : List Char} (ended : Ended isDigit rest) :
    scanYear (sign :: (Digits.chars digits ++ rest)) =
      some (factor * Digits.value digits, rest) := by
  have kept : digits.isEmpty = false := List.isEmpty_eq_false_iff.mpr filled
  have dropped : (Digits.chars digits ++ rest).drop digits.length = rest :=
    List.drop_left' (List.length_map _)
  have signed (factor : Int) :
      (let found := (Digits.scan (Digits.chars digits ++ rest)).1
        if found.isEmpty then none
        else some (factor * Digits.value found, (Digits.chars digits ++ rest).drop found.length)) =
      some (factor * Digits.value digits, rest) := by
    dsimp only
    rw [scan_of_ended ended, kept, dropped]
    rfl
  unfold scanYear
  obtain ⟨rfl, rfl⟩ | ⟨rfl, rfl⟩ := spelled
  · rw [Text.trimStart_cons (by decide)]
    exact signed (-1)
  · rw [Text.trimStart_cons (by decide)]
    exact signed 1

/-- A year is read back. -/
theorem scanYear_yearChars (year : Int) {rest : List Char} (ended : Ended isDigit rest) :
    scanYear (yearChars year ++ rest) = some (year, rest) := by
  unfold yearChars
  by_cases plain : 0 ≤ year ∧ year ≤ 9999
  · obtain ⟨digits, pad⟩ := exists_isPadded 4 year.toNat
    have small : year.toNat < 10000 := by omega
    have four := Nat.le_of_eq (pad.length (by decide) small)
    have whole : (year.toNat : Int) = year := Int.toNat_of_nonneg plain.1
    rw [if_pos plain, pad.written, scanYear_chars pad.filled,
      scanNumber_chars pad.filled four ended, pad.value, Option.map_some, whole]
  · obtain ⟨digits, pad⟩ := exists_isPadded 4 year.natAbs
    rw [if_neg plain, pad.written, List.cons_append]
    by_cases negative : year < 0
    · have whole : -1 * (year.natAbs : Int) = year := by omega
      rw [if_pos negative, scanYear_sign (.inl ⟨rfl, rfl⟩) pad.filled ended, pad.value, whole]
    · have whole : 1 * (year.natAbs : Int) = year := by omega
      rw [if_neg negative, scanYear_sign (.inr ⟨rfl, rfl⟩) pad.filled ended, pad.value, whole]

/-- Places of a second are read as nanoseconds. -/
theorem scanFraction_padded {width n : Nat} (placed : 0 < width) (short : width ≤ 9)
    (small : n < Nat.pow 10 width) {rest : List Char} (ended : Ended isDigit rest) :
    scanFraction ('.' :: padded width n ++ rest) = some (n * Nat.pow 10 (9 - width), rest) := by
  obtain ⟨digits, pad⟩ := exists_isPadded width n
  have all := pad.length placed small
  have kept : digits.isEmpty = false := List.isEmpty_eq_false_iff.mpr pad.filled
  rw [pad.written, List.cons_append, scanFraction, scan_of_ended ended]
  dsimp only
  rw [kept, List.take_of_length_le (by omega), pad.value, all]
  rfl

/-- The places of a second are read back. -/
theorem scanFraction_fractionChars {nanos : Nat} (small : nanos < 1000000000) {rest : List Char}
    (ended : Ended isDigit rest) (point : ∀ tail, rest ≠ '.' :: tail) :
    scanFraction (fractionChars nanos ++ rest) = some (nanos, rest) := by
  unfold fractionChars
  by_cases none : nanos = 0
  · rw [if_pos none, none]
    show scanFraction rest = _
    unfold scanFraction
    split
    · exact absurd rfl (point _)
    · rfl
  · rw [if_neg none]
    by_cases millis : nanos % 1000000 = 0
    · have fits : nanos / 1000000 < 1000 := by omega
      have whole : nanos / 1000000 * 1000000 = nanos := by omega
      rw [if_pos millis, scanFraction_padded (by decide) (by decide) fits ended]
      exact congrArg (fun n => some (n, rest)) whole
    · rw [if_neg millis]
      by_cases micros : nanos % 1000 = 0
      · have fits : nanos / 1000 < 1000000 := by omega
        have whole : nanos / 1000 * 1000 = nanos := by omega
        rw [if_pos micros, scanFraction_padded (by decide) (by decide) fits ended]
        exact congrArg (fun n => some (n, rest)) whole
      · rw [if_neg micros, scanFraction_padded (by decide) (by decide) small ended]
        exact congrArg (fun n => some (n, rest)) (Nat.mul_one nanos)

/-! ## Whole texts -/

/-- Months and days of the calendar have two digits. -/
theorem bounds_of_isValid {date : Date} (valid : date.isValid = true) :
    (1 ≤ date.month ∧ date.month ≤ 12) ∧ 1 ≤ date.day ∧ date.day ≤ 31 := by
  unfold Date.isValid at valid
  simp only [Bool.and_eq_true, decide_eq_true_eq] at valid
  obtain ⟨⟨⟨first, last⟩, early⟩, late⟩ := valid
  have longest : Date.daysInMonth date.year date.month ≤ 31 := by
    unfold Date.daysInMonth
    split_ifs <;> omega
  exact ⟨⟨first, last⟩, early, Nat.le_trans late longest⟩

/-- The fields of a date and a clock in Universal Time are read as the timestamp that they count,
second 60 as a leap second. -/
theorem ofChars?_fields {timestamp : Timestamp} {date : Date} {hour minute second nanos : Nat}
    (valid : date.isValid = true) (hours : hour ≤ 23) (minutes : minute ≤ 59)
    (seconds : second ≤ 60) (small : nanos < 1000000000)
    (counted : date.toDays * 86400 +
      ((hour * 3600 + minute * 60 + if second = 60 then 59 else second : Nat) : Int) =
        timestamp.seconds)
    (places : (if second = 60 then nanos + 1000000000 else nanos) = timestamp.nanos) :
    ofChars? (yearChars date.year ++ '-' :: padded 2 date.month ++ '-' :: padded 2 date.day ++
        'T' :: padded 2 hour ++ ':' :: padded 2 minute ++ ':' :: padded 2 second ++
          fractionChars nanos ++ ['Z']) = some timestamp := by
  obtain ⟨month, day⟩ := bounds_of_isValid valid
  have afterSecond : Ended isDigit (fractionChars nanos ++ ['Z']) := by
    unfold fractionChars
    split_ifs
    all_goals exact ended_cons.mpr (by decide)
  have digits (c : Char) (other : isDigit c = false) (tail : List Char) :
      Ended isDigit (c :: tail) := ended_cons.mpr other
  have noPoint (tail : List Char) : ['Z'] ≠ '.' :: tail := fun same => by cases same
  simp only [List.append_assoc, List.cons_append]
  unfold ofChars?
  dsimp only [Option.bind_eq_bind]
  rw [scanYear_yearChars _ (digits '-' rfl _), Option.bind_some,
    scanMark_cons (by decide), Option.bind_some,
    scanField_padded month (by omega) (digits '-' rfl _), Option.bind_some,
    scanMark_cons (by decide), Option.bind_some,
    scanField_padded day (by omega) (digits 'T' rfl _), Option.bind_some]
  -- Between the date and the clock stands a letter, which is matched and not scanned.
  show (scanField 0 23 (padded 2 hour ++ _)).bind _ = _
  rw [scanField_padded ⟨Nat.zero_le _, hours⟩ (by omega) (digits ':' rfl _), Option.bind_some,
    scanMark_cons (by decide), Option.bind_some,
    scanField_padded ⟨Nat.zero_le _, minutes⟩ (by omega) (digits ':' rfl _), Option.bind_some,
    scanMark_cons (by decide), Option.bind_some,
    scanField_padded ⟨Nat.zero_le _, seconds⟩ (by omega) afterSecond, Option.bind_some,
    scanFraction_fractionChars small (digits 'Z' rfl _) noPoint, Option.bind_some]
  have offset : scanOffset ['Z'] = some (0, []) := by decide
  rw [offset, Option.bind_some]
  refine (if_pos ⟨rfl, valid, by decide⟩).trans ?_
  show (ofParts? (date.toDays * 86400 + _) _).bind _ = some timestamp
  rw [counted, places, ofParts?_parts]
  show ofParts? (timestamp.seconds - 0) timestamp.nanos = some timestamp
  rw [Int.sub_zero, ofParts?_parts]

/-- **A timestamp is read back from its text.** -/
theorem ofText?_text (timestamp : Timestamp) : ofText? timestamp.text = some timestamp := by
  obtain ⟨valid, days⟩ := Date.ofDays_spec (timestamp.seconds / 86400)
  have short := timestamp.short
  have hours : (timestamp.seconds % 86400).toNat / 3600 ≤ 23 := by omega
  have minutes : (timestamp.seconds % 86400).toNat / 60 % 60 ≤ 59 := by omega
  rw [ofText?, text, String.toList_ofList, chars]
  by_cases leap : 1000000000 ≤ timestamp.nanos
  · -- The second before a leap second is the last of its minute.
    have last := timestamp.leap leap
    have sixty : (timestamp.seconds % 86400).toNat % 60 + 1 = 60 := by omega
    simp only [if_pos leap, sixty]
    refine ofChars?_fields valid hours minutes (Nat.le_refl 60) (by omega) ?_ ?_
    · rw [days, if_pos rfl]
      omega
    · rw [if_pos rfl]
      omega
  · have plain : (timestamp.seconds % 86400).toNat % 60 ≠ 60 := by omega
    simp only [if_neg leap]
    refine ofChars?_fields valid hours minutes (by omega) (by omega) ?_ (if_neg plain)
    rw [days, if_neg plain]
    omega

end Timestamp

end ColumnQuery
