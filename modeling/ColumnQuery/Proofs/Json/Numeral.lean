import Mathlib.Tactic.SplitIfs
import ColumnQuery.Json.Encode
import ColumnQuery.Json.Reader
import ColumnQuery.Proofs.Grammar.Token

/-!
# JSON numerals are read back

A numeral of JSON has no zero in front of other whole digits, and digits in its exponent if it has
one. Such a numeral is read back whole in front of any text that does not go on with it. The
numerals of integers are of JSON, and so are those of finite numbers in any layout: the shortest
decimal of a number is zero only for zero, and then its exponent is zero.
-/
namespace ColumnQuery

open Grammar Phrase

/-! ## Leading digits -/

/-- Digits that start with a zero only if there is no other. -/
def Digits.Normal (digits : List Digit) : Prop :=
  ∃ first others, digits = first :: others ∧ (first.val = 0 → others = [])

/-- One digit stands as it is. -/
theorem Digits.normal_singleton (digit : Digit) : Normal [digit] :=
  ⟨digit, [], rfl, fun _ => rfl⟩

/-- The digits of a positive number do not start with a zero. -/
theorem Digits.leading_ofNat {n : Nat} (positive : 0 < n) :
    ∃ first others, ofNat n = first :: others ∧ first.val ≠ 0 := by
  rw [ofNat]
  split
  · exact ⟨_, [], rfl, Nat.ne_of_gt positive⟩
  · obtain ⟨first, others, written, leading⟩ := leading_ofNat (n := n / 10) (by omega)
    rw [written]
    exact ⟨first, _, rfl, leading⟩
termination_by n
decreasing_by omega

/-- The digits of a positive number stay normal with further digits. -/
theorem Digits.normal_ofNat_append {n : Nat} (positive : 0 < n) (digits : List Digit) :
    Normal (ofNat n ++ digits) := by
  obtain ⟨first, others, written, leading⟩ := leading_ofNat positive
  rw [written]
  exact ⟨first, others ++ digits, rfl, fun zero => absurd zero leading⟩

/-- The digits of a number are normal. -/
theorem Digits.normal_ofNat (n : Nat) : Normal (ofNat n) := by
  by_cases zero : n = 0
  · subst zero
    rw [ofNat]
    exact normal_singleton _
  · have normal := normal_ofNat_append (Nat.pos_of_ne_zero zero) []
    rwa [List.append_nil] at normal

/-! ## Reading -/

/-- A numeral as JSON has it. -/
structure Numeral.IsJson (numeral : Numeral) : Prop where
  /-- No zero stands in front of other digits. -/
  whole : Digits.Normal numeral.whole
  /-- An exponent has digits. -/
  power : ∀ exponent, numeral.exponent = some exponent → exponent.digits ≠ []

namespace Json

/-- Whether the places of a number could go on with a character, or begin with it. -/
def prolongsPlaces (c : Char) : Bool := isDigit c || c == '.'

/-- Whether a numeral could go on with a character. -/
def prolongsNumeral (c : Char) : Bool := prolongsPlaces c || c == 'e' || c == 'E'

/-- Where places have ended digits have. -/
theorem ended_digits {text : List Char} (ended : Ended prolongsPlaces text) :
    Ended isDigit text := by
  refine ended.mono fun c digit => ?_
  rw [prolongsPlaces, digit, Bool.true_or]

/-- Where a numeral has ended its places have. -/
theorem ended_places {text : List Char} (ended : Ended prolongsNumeral text) :
    Ended prolongsPlaces text := by
  refine ended.mono fun c inside => ?_
  rw [prolongsNumeral, inside, Bool.true_or, Bool.true_or]

/-- Written whole digits are read back. -/
theorem scanWhole_chars {whole : List Digit} (normal : Digits.Normal whole) {rest : List Char}
    (ended : Ended isDigit rest) :
    scanWhole (Digits.chars whole ++ rest) = some (whole, rest) := by
  obtain ⟨first, others, rfl, alone⟩ := normal
  rw [scanWhole, scan_of_ended ended]
  have single : ¬ (first.val = 0 ∧ others ≠ []) := by
    rintro ⟨zero, more⟩
    exact more (alone zero)
  exact if_neg single

/-- The written places of a number. -/
def fractionChars (fraction : List Digit) : List Char :=
  if fraction.isEmpty then [] else '.' :: Digits.chars fraction

/-- Written places are read back. -/
theorem scanFraction_chars (fraction : List Digit) {rest : List Char}
    (ended : Ended prolongsPlaces rest) :
    scanFraction (fractionChars fraction ++ rest) = some (fraction, rest) := by
  cases fraction with
  | nil =>
    show scanFraction rest = some ([], rest)
    unfold scanFraction
    split
    · have impossible := ended '.' _ rfl
      contradiction
    · rfl
  | cons first others =>
    show scanFraction ('.' :: (Digits.chars (first :: others) ++ rest)) = _
    rw [scanFraction, scan_of_ended (ended_digits ended)]

/-- Written places begin with no digit. -/
theorem ended_fractionChars (fraction : List Digit) {rest : List Char}
    (ended : Ended isDigit rest) : Ended isDigit (fractionChars fraction ++ rest) := by
  cases fraction with
  | nil => exact ended
  | cons first others => exact ended_cons.mpr (by decide)

/-- The digits of an exponent are read back. -/
theorem scanPower_chars (sign : Option Bool) {digits : List Digit} (filled : digits ≠ [])
    {rest : List Char} (ended : Ended isDigit rest) :
    scanPower sign (Digits.chars digits ++ rest) = some (some ⟨sign, digits⟩, rest) := by
  rw [scanPower, scan_of_ended ended]
  cases digits with
  | nil => exact absurd rfl filled
  | cons first others => rfl

/-- A written exponent is read back. -/
theorem scanExponent_chars {exponent : Option Exponent}
    (power : ∀ found, exponent = some found → found.digits ≠ []) {rest : List Char}
    (ended : Ended prolongsNumeral rest) :
    scanExponent (Numeral.exponentChars exponent ++ rest) = some (exponent, rest) := by
  cases exponent with
  | none =>
    show scanExponent rest = _
    unfold scanExponent
    have other (c : Char) (tail : List Char) (prolongs : prolongsNumeral c = true) :
        rest ≠ c :: tail := by
      intro same
      rw [ended c tail same] at prolongs
      contradiction
    split
    all_goals first | rfl | exact absurd rfl (other _ _ (by decide))
  | some found =>
    obtain ⟨sign, digits⟩ := found
    have filled : digits ≠ [] := power _ rfl
    have last := ended_digits (ended_places ended)
    have read (sign : Option Bool) := scanPower_chars sign filled last
    rcases sign with _ | _ | _
    · -- Without a sign the first digit follows the letter, which is no sign.
      cases digits with
      | nil => exact absurd rfl filled
      | cons first others =>
        rw [← read none]
        show scanExponent ('e' :: first.char :: (Digits.chars others ++ rest)) =
          scanPower none (first.char :: (Digits.chars others ++ rest))
        rw [scanExponent]
        · exact fun tail => char_cons_ne first (by decide) _ tail
        · exact fun tail => char_cons_ne first (by decide) _ tail
    · exact read (some false)
    · exact read (some true)

/-- A written exponent begins with no digit and no point. -/
theorem ended_exponentChars (exponent : Option Exponent) {rest : List Char}
    (ended : Ended prolongsPlaces rest) :
    Ended prolongsPlaces (Numeral.exponentChars exponent ++ rest) := by
  rcases exponent with _ | ⟨_ | _ | _, digits⟩
  · exact ended
  all_goals exact ended_cons.mpr (by decide)

/-- A numeral is read back after its sign. -/
theorem scanUnsigned_chars {numeral : Numeral} (json : numeral.IsJson) {rest : List Char}
    (ended : Ended prolongsNumeral rest) :
    scanUnsigned numeral.negative (Digits.chars numeral.whole ++
      (fractionChars numeral.fraction ++ (Numeral.exponentChars numeral.exponent ++ rest))) =
        some (numeral, rest) := by
  have afterPlaces := ended_exponentChars numeral.exponent (ended_places ended)
  have afterWhole := ended_fractionChars numeral.fraction (ended_digits afterPlaces)
  rw [scanUnsigned, scanWhole_chars json.whole afterWhole]
  show (scanFraction (fractionChars numeral.fraction ++ _)).bind _ = _
  rw [scanFraction_chars _ afterPlaces]
  show (scanExponent (Numeral.exponentChars numeral.exponent ++ rest)).bind _ = _
  rw [scanExponent_chars json.power ended]
  rfl

/-- **A numeral of JSON is read back.** -/
theorem scanNumeral_chars {numeral : Numeral} (json : numeral.IsJson) {rest : List Char}
    (ended : Ended prolongsNumeral rest) :
    scanNumeral (numeral.chars ++ rest) = some (numeral, rest) := by
  have unsigned := scanUnsigned_chars json ended
  have written : numeral.chars ++ rest = (if numeral.negative then ['-'] else []) ++
      (Digits.chars numeral.whole ++
        (fractionChars numeral.fraction ++ (Numeral.exponentChars numeral.exponent ++ rest))) := by
    simp only [Numeral.chars, fractionChars, List.append_assoc]
  rw [written]
  cases sign : numeral.negative with
  | true =>
    rw [sign] at unsigned
    exact unsigned
  | false =>
    rw [sign] at unsigned
    obtain ⟨first, others, filled, _⟩ := json.whole
    rw [filled] at unsigned ⊢
    show scanNumeral (first.char :: _) = _
    rw [scanNumeral]
    · exact unsigned
    · exact fun tail => char_cons_ne first (by decide) _ tail

end Json

/-! ## Writing -/

/-- The numeral of an integer is of JSON. -/
theorem Numeral.isJson_ofInt (n : Int) : (ofInt n).IsJson where
  whole := Digits.normal_ofNat _
  power exponent written := by cases written

/-- A number that is not zero has units. -/
theorem Magnitude.units_pos {magnitude : Magnitude} (filled : magnitude.pattern ≠ 0) :
    0 < magnitude.units := by
  unfold units
  extract_lets exponent fraction
  have power (n : Nat) : 0 < Nat.pow 2 n := Nat.pow_pos (by decide)
  by_cases small : exponent = 0
  · rw [if_pos small]
    have whole : Nat.pow 2 52 * exponent + fraction = magnitude.pattern := Nat.div_add_mod _ _
    rw [small, Nat.mul_zero, Nat.zero_add] at whole
    omega
  · rw [if_neg small]
    exact Nat.mul_pos (Nat.add_pos_left (power 52) fraction) (power _)

/-- The exact decimal of a number that is not zero is not zero. -/
theorem Magnitude.exactDecimal_digits_pos {magnitude : Magnitude}
    (filled : magnitude.pattern ≠ 0) : 0 < magnitude.exactDecimal.digits := by
  have scaled (places : Nat) : 0 < magnitude.units * Nat.pow 5 places :=
    Nat.mul_pos (units_pos filled) (Nat.pow_pos (by decide))
  unfold exactDecimal
  generalize 1074 = places
  exact scaled places

/-- Moving zeros into the exponent does not make zero of another number. -/
theorem Decimal.trim_digits_pos {decimal : Decimal} (filled : 0 < decimal.digits) :
    0 < decimal.trim.digits := by
  fun_induction trim decimal with
  | case1 decimal reducible ih =>
    have tenth : 0 < decimal.digits / 10 := by omega
    exact ih tenth
  | case2 decimal irreducible => exact filled

/-- A decimal found on a grid is one of the two next to its magnitude, and reads back as it. -/
theorem Magnitude.grid_of_nearestAt {tie : Tie} {magnitude : Magnitude} {power : Int}
    {decimal : Decimal} (found : magnitude.nearestAt tie power = some decimal) :
    decimal.exponent = power ∧
      decimal.digits ≤ magnitude.units * Nat.pow 10 (-power).toNat /
        (Nat.pow 2 1074 * Nat.pow 10 power.toNat) + 1 ∧
      decimal.magnitude = magnitude := by
  unfold nearestAt at found
  extract_lets numerator denominator low twice below above at found
  have whole : low = magnitude.units * Nat.pow 10 (-power).toNat /
      (Nat.pow 2 1074 * Nat.pow 10 power.toNat) := rfl
  rw [← whole]
  clear_value low
  have lower : below.exponent = power ∧ below.digits ≤ low + 1 := ⟨rfl, Nat.le_succ low⟩
  have upper : above.exponent = power ∧ above.digits ≤ low + 1 := ⟨rfl, Nat.le_refl _⟩
  by_cases first : below.magnitude = magnitude
  · by_cases second : above.magnitude = magnitude
    · have either : decimal = below ∨ decimal = above := by
        rw [if_pos first, if_pos second] at found
        split_ifs at found
        · exact .inl (Option.some.inj found).symm
        · exact .inr (Option.some.inj found).symm
        · cases tie
          · exact .inr (Option.some.inj found).symm
          · exact .inl (Option.some.inj found).symm
        · cases tie
          · exact .inr (Option.some.inj found).symm
          · exact .inr (Option.some.inj found).symm
      rcases either with rfl | rfl
      · exact ⟨lower.1, lower.2, first⟩
      · exact ⟨upper.1, upper.2, second⟩
    · rw [if_pos first, if_neg second] at found
      obtain rfl := Option.some.inj found
      exact ⟨lower.1, lower.2, first⟩
  · by_cases second : above.magnitude = magnitude
    · rw [if_neg first, if_pos second] at found
      obtain rfl := Option.some.inj found
      exact ⟨upper.1, upper.2, second⟩
    · rw [if_neg first, if_neg second] at found
      contradiction

/-- The shortest decimal of a number that is not zero is searched for from coarse to fine grids. -/
theorem Magnitude.shortest_of_filled (tie : Tie) {magnitude : Magnitude}
    (filled : magnitude.pattern ≠ 0) :
    magnitude.shortest tie =
      (((List.range 17).findSome? fun count : Nat =>
        magnitude.nearestAt tie (magnitude.leadingPower - count)).getD
          magnitude.exactDecimal).trim := if_neg filled

/-- The shortest decimal of a number that is not zero is one found on a grid, or the exact one. -/
theorem Magnitude.exists_shortest (tie : Tie) {magnitude : Magnitude}
    (filled : magnitude.pattern ≠ 0) :
    ∃ decimal : Decimal, magnitude.shortest tie = decimal.trim ∧
      (decimal = magnitude.exactDecimal ∨ decimal.magnitude = magnitude) := by
  refine ⟨_, shortest_of_filled tie filled, ?_⟩
  cases same : (List.range 17).findSome? fun count : Nat =>
      magnitude.nearestAt tie (magnitude.leadingPower - count) with
  | none => exact .inl (by rw [Option.getD_none])
  | some decimal =>
    obtain ⟨count, _, near⟩ := List.exists_of_findSome?_eq_some same
    rw [Option.getD_some]
    exact .inr (grid_of_nearestAt near).2.2

/-- Only zero has zero as its shortest decimal. -/
theorem Magnitude.shortest_digits_pos (tie : Tie) {magnitude : Magnitude}
    (filled : magnitude.pattern ≠ 0) : 0 < (magnitude.shortest tie).digits := by
  obtain ⟨decimal, same, either⟩ := exists_shortest tie filled
  rw [same]
  apply Decimal.trim_digits_pos
  rcases either with rfl | reads
  · exact exactDecimal_digits_pos filled
  · apply Nat.pos_of_ne_zero
    intro zero
    rw [Decimal.magnitude, if_pos zero] at reads
    apply filled
    rw [← reads]
    rfl

/-- Digits with zeros in front up to more than some places, without those places, are normal. -/
theorem Digits.normal_take_padded {n places : Nat} (filled : n ≠ 0) :
    Normal ((List.replicate (places + 1 - (ofNat n).length) 0 ++ ofNat n).take
      ((List.replicate (places + 1 - (ofNat n).length) 0 ++ ofNat n).length - places)) := by
  obtain ⟨first, others, written, leading⟩ := leading_ofNat (Nat.pos_of_ne_zero filled)
  rw [written, List.length_append, List.length_replicate]
  by_cases short : others.length + 1 ≤ places
  · -- One zero stands before the places.
    obtain ⟨more, zeros⟩ : ∃ more, places + 1 - (first :: others).length = more + 1 :=
      ⟨places - (first :: others).length, by simp only [List.length_cons]; omega⟩
    have one : more + 1 + (first :: others).length - places = 1 := by
      simp only [List.length_cons] at zeros ⊢
      omega
    rw [zeros, one]
    exact normal_singleton 0
  · obtain ⟨more, digits⟩ : ∃ more, (first :: others).length - places = more + 1 :=
      ⟨others.length - places, by simp only [List.length_cons]; omega⟩
    have zeros : places + 1 - (first :: others).length = 0 := by
      simp only [List.length_cons]
      omega
    rw [zeros, Nat.zero_add, digits]
    exact ⟨first, others.take more, rfl, fun zero => absurd zero leading⟩

/-- A decimal that is not zero, or has no exponent, is written in JSON without an exponent. -/
theorem Layout.isJson_positionalNumeral (layout : Layout) (negative : Bool) {decimal : Decimal}
    (plain : decimal.digits = 0 → decimal.exponent = 0) :
    (layout.positionalNumeral negative decimal).IsJson := by
  unfold positionalNumeral
  split
  · rename_i whole
    refine ⟨?_, fun exponent written => by cases written⟩
    by_cases zero : decimal.digits = 0
    · rw [plain zero]
      show Digits.Normal (Digits.ofNat decimal.digits ++ [])
      rw [List.append_nil]
      exact Digits.normal_ofNat _
    · exact Digits.normal_ofNat_append (Nat.pos_of_ne_zero zero) _
  · rename_i fractional
    refine ⟨?_, fun exponent written => by cases written⟩
    refine Digits.normal_take_padded fun zero => ?_
    rw [plain zero] at fractional
    omega

/-- A decimal is written in JSON with an exponent. -/
theorem Layout.isJson_scientificNumeral (layout : Layout) (negative : Bool) (decimal : Decimal)
    (power : Int) : (layout.scientificNumeral negative decimal power).IsJson := by
  obtain ⟨first, others, written, _⟩ := Digits.normal_ofNat decimal.digits
  constructor
  · show Digits.Normal ((Digits.ofNat decimal.digits).take 1)
    rw [written]
    exact Digits.normal_singleton first
  · intro exponent same
    cases same
    exact Digits.ofNat_ne_nil _

/-- **Finite numbers are written in JSON in any layout.** -/
theorem Layout.isJson_numeral (layout : Layout) (negative : Bool) (magnitude : Magnitude) :
    (layout.numeral negative magnitude).IsJson := by
  have plain : (magnitude.shortest layout.tie).digits = 0 →
      (magnitude.shortest layout.tie).exponent = 0 := by
    intro zero
    by_cases filled : magnitude.pattern = 0
    · rw [Magnitude.shortest, if_pos filled]
    · have positive := Magnitude.shortest_digits_pos layout.tie filled
      omega
  unfold numeral
  dsimp only
  split
  · exact layout.isJson_positionalNumeral negative plain
  · exact layout.isJson_scientificNumeral negative _ _

end ColumnQuery
