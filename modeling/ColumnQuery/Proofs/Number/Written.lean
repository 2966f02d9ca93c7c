import ColumnQuery.Proofs.Json.Numeral
import ColumnQuery.Proofs.Number.Nearest
import ColumnQuery.Proofs.Time.Timestamp

/-!
# Written numbers

The shortest decimal of a finite magnitude has that magnitude, whether it was found on a grid or is
the exact one (`Magnitude.magnitude_shortest`), and layouts only move its point. So a finite number
written in any layout denotes a decimal to which the number is nearest (`Layout.double_numeral`).
-/
namespace ColumnQuery

/-! ## Shortest decimals -/

/-- Moving zeros into the exponent keeps the magnitude. -/
theorem Decimal.magnitude_trim (decimal : Decimal) :
    decimal.trim.magnitude = decimal.magnitude := by
  fun_induction trim decimal with
  | case1 decimal reducible ih =>
    have tens : decimal.digits / 10 * 10 = decimal.digits := by omega
    rw [ih, ← magnitude_shift, tens]
  | case2 decimal irreducible => rfl

/-- The exact decimal of a finite magnitude has that magnitude. -/
theorem Magnitude.magnitude_exactDecimal {magnitude : Magnitude}
    (finite : magnitude.isFinite = true) : magnitude.exactDecimal.magnitude = magnitude := by
  have none : (-1074 : Int).toNat = 0 := rfl
  have places : (- -1074 : Int).toNat = 1074 := rfl
  rw [Decimal.magnitude_eq, exactDecimal]
  dsimp only
  rw [none, places, Nat.pow_zero, Nat.mul_one]
  generalize 1074 = bits
  have ten : 5 ^ bits * 2 ^ bits = 10 ^ bits := (Nat.mul_pow 5 2 bits).symm
  show ofRatio (magnitude.units * 5 ^ bits * 2 ^ bits) (10 ^ bits) = magnitude
  rw [Nat.mul_assoc, ten, ← Nat.one_mul (10 ^ bits), ← Nat.mul_assoc, Nat.mul_one,
    ofRatio_mul_right _ _ (Nat.pow_pos (by decide)), ofRatio_units finite]

/-- **The shortest decimal of a finite magnitude has that magnitude.** -/
theorem Magnitude.magnitude_shortest (tie : Tie) {magnitude : Magnitude}
    (finite : magnitude.isFinite = true) : (magnitude.shortest tie).magnitude = magnitude := by
  by_cases filled : magnitude.pattern = 0
  · obtain ⟨pattern, bounded⟩ := magnitude
    cases filled
    rw [shortest, if_pos rfl]
    rfl
  · obtain ⟨decimal, same, either⟩ := exists_shortest tie filled
    rw [same, Decimal.magnitude_trim]
    rcases either with rfl | reads
    · exact magnitude_exactDecimal finite
    · exact reads

/-! ## Shortest decimals of integers -/

/-- A zero is written behind the digits of ten times a natural. -/
theorem Digits.length_ofNat_mul_ten {n : Nat} (filled : n ≠ 0) :
    (ofNat (n * 10)).length = (ofNat n).length + 1 := by
  rw [ofNat, dif_neg (by omega), List.length_append, Nat.mul_div_cancel n (by decide)]
  rfl

/-- Zeros are written behind the digits of a natural times a power of ten. -/
theorem Digits.length_ofNat_mul_pow {n : Nat} (filled : n ≠ 0) (zeros : Nat) :
    (ofNat (n * 10 ^ zeros)).length = (ofNat n).length + zeros := by
  induction zeros with
  | zero => rw [Nat.pow_zero, Nat.mul_one, Nat.add_zero]
  | succ zeros ih =>
    have positive : 0 < 10 ^ zeros := Nat.pow_pos (by decide)
    have still : n * 10 ^ zeros ≠ 0 := Nat.mul_ne_zero filled (Nat.ne_of_gt positive)
    rw [Nat.pow_succ, ← Nat.mul_assoc, length_ofNat_mul_ten still, ih, Nat.add_assoc]

/-- The leading digit of a natural counts a power of ten that is not above it. -/
theorem Digits.pow_length_ofNat_le {n : Nat} (filled : n ≠ 0) :
    10 ^ ((ofNat n).length - 1) ≤ n := by
  rw [ofNat]
  split
  · exact Nat.one_le_iff_ne_zero.mpr filled
  · rename_i large
    have next := pow_length_ofNat_le (n := n / 10) (by omega)
    have some : 0 < (ofNat (n / 10)).length := List.length_pos_iff.mpr (ofNat_ne_nil _)
    obtain ⟨others, length⟩ : ∃ others, (ofNat (n / 10)).length = others + 1 :=
      ⟨(ofNat (n / 10)).length - 1, by omega⟩
    rw [List.length_append, length, List.length_singleton, Nat.add_sub_cancel, Nat.pow_succ]
    rw [length, Nat.add_sub_cancel] at next
    omega
termination_by n
decreasing_by omega

/-- The leading power of a natural is given by its digits. -/
theorem Magnitude.leadingPower_ofNat {n : Nat} (filled : n ≠ 0) (small : n < 2 ^ 53) :
    (ofNat n).leadingPower = ((Digits.ofNat n).length - 1 : Nat) := by
  have some : 0 < (Digits.ofNat n).length := List.length_pos_iff.mpr (Digits.ofNat_ne_nil n)
  rw [leadingPower, units_ofNat_of_small small]
  generalize places : 324 = zeros
  generalize 1074 = bits
  have scaled : n * 2 ^ bits * 10 ^ zeros / 2 ^ bits = n * 10 ^ zeros := by
    rw [Nat.mul_right_comm, Nat.mul_div_cancel _ (Nat.two_pow_pos bits)]
  show ((Digits.ofNat (n * 2 ^ bits * 10 ^ zeros / 2 ^ bits)).length : Int) - 325 = _
  rw [scaled, Digits.length_ofNat_mul_pow filled]
  omega

/-- Moving zeros into the exponent keeps a natural. -/
theorem Decimal.trim_natural {decimal : Decimal} {exponent n : Nat}
    (whole : decimal.exponent = exponent) (value : decimal.digits * 10 ^ exponent = n) :
    ∃ exponent : Nat, decimal.trim.exponent = exponent ∧
      decimal.trim.digits * 10 ^ exponent = n := by
  fun_induction trim decimal generalizing exponent with
  | case1 decimal reducible ih =>
    have tens : decimal.digits / 10 * 10 = decimal.digits := by omega
    have next : decimal.exponent + 1 = (exponent + 1 : Nat) := by omega
    have kept : decimal.digits / 10 * 10 ^ (exponent + 1) = n := by
      rw [Nat.pow_succ', ← Nat.mul_assoc, tens, value]
    exact ih next kept
  | case2 decimal irreducible => exact ⟨exponent, whole, value⟩

/-- The units of a natural on a grid of powers of ten. -/
theorem Magnitude.grid_ofNat {n : Nat} (small : n < 2 ^ 53) {power : Int} {zeros : Nat}
    (whole : power = zeros) :
    (ofNat n).units * Nat.pow 10 (-power).toNat / (Nat.pow 2 1074 * Nat.pow 10 power.toNat) =
      n / 10 ^ zeros := by
  have none : (-power).toNat = 0 := by omega
  have some : power.toNat = zeros := by omega
  rw [units_ofNat_of_small small, none, some]
  generalize 1074 = bits
  show n * 2 ^ bits * 1 / (2 ^ bits * 10 ^ zeros) = _
  rw [Nat.mul_one, Nat.mul_comm n, Nat.mul_div_mul_left _ _ (Nat.two_pow_pos bits)]

/-- A grid with the magnitude on it has a decimal for it. -/
theorem Magnitude.exists_nearestAt (tie : Tie) {magnitude : Magnitude} {power : Int}
    (reads : Decimal.magnitude ⟨magnitude.units * Nat.pow 10 (-power).toNat /
      (Nat.pow 2 1074 * Nat.pow 10 power.toNat), power⟩ = magnitude) :
    ∃ decimal, magnitude.nearestAt tie power = some decimal := by
  unfold nearestAt
  extract_lets numerator denominator low twice below above
  have first : below.magnitude = magnitude := reads
  rw [if_pos first]
  split
  · split
    · exact ⟨_, rfl⟩
    · split
      · exact ⟨_, rfl⟩
      · cases tie <;> exact ⟨_, rfl⟩
  · exact ⟨_, rfl⟩

/-- The magnitude of a decimal without places is that of a natural. -/
theorem Decimal.magnitude_natural {decimal : Decimal} {exponent : Nat}
    (whole : decimal.exponent = exponent) :
    decimal.magnitude = .ofNat (decimal.digits * 10 ^ exponent) := by
  have none : (-decimal.exponent).toNat = 0 := by omega
  have some : decimal.exponent.toNat = exponent := by omega
  rw [magnitude_eq, none, some, Nat.pow_zero, Magnitude.ofNat_eq]

/-- The grid of ones has a decimal for a natural. -/
theorem Magnitude.exists_nearestAt_ones (tie : Tie) {n : Nat} (few : n < 2 ^ 53) {power : Int}
    (ones : power = (0 : Nat)) : ∃ decimal, (ofNat n).nearestAt tie power = some decimal := by
  apply exists_nearestAt
  rw [grid_ofNat few ones, Decimal.magnitude_natural ones, Nat.pow_zero, Nat.div_one, Nat.mul_one]

/-- What is found first among naturals is found no later than at a natural where there is
something. -/
theorem exists_le_of_findSome?_range {α : Type} {search : Nat → Option α} {limit last : Nat}
    {value : α} (inside : last < limit) (hit : search last = some value) :
    ∃ count ≤ last, ∃ found,
      (List.range limit).findSome? search = some found ∧ search count = some found := by
  have listed : last ∈ List.range limit := List.mem_range.mpr inside
  cases result : (List.range limit).findSome? search with
  | none =>
    have missing := List.findSome?_eq_none_iff.mp result last listed
    rw [hit] at missing
    contradiction
  | some found =>
    obtain ⟨before, count, behind, split, near, missing⟩ := List.findSome?_eq_some_iff.mp result
    refine ⟨count, ?_, found, rfl, near⟩
    have sorted : (List.range limit).Pairwise (· < ·) := List.pairwise_lt_range
    rw [split] at listed sorted
    rcases List.mem_append.mp listed with first | rest
    · have none := missing last first
      rw [hit] at none
      contradiction
    · rcases List.mem_cons.mp rest with rfl | later
      · exact Nat.le_refl _
      · have order := (List.pairwise_cons.mp (List.pairwise_append.mp sorted).2.1).1 last later
        exact Nat.le_of_lt order

/-- A decimal found for a natural on a grid that is not beyond it denotes the natural. -/
theorem Magnitude.value_of_nearestAt {tie : Tie} {n zeros : Nat} {power : Int} {decimal : Decimal}
    (small : 10 * n < 2 ^ 53) (whole : power = zeros) (inside : 10 ^ zeros ≤ n)
    (found : (ofNat n).nearestAt tie power = some decimal) :
    decimal.exponent = zeros ∧ decimal.digits * 10 ^ zeros = n := by
  have few : n < 2 ^ 53 := by omega
  obtain ⟨exponent, bound, reads⟩ := grid_of_nearestAt found
  rw [grid_ofNat few whole] at bound
  rw [whole] at exponent
  refine ⟨exponent, ofNat_injective ?_ few ?_⟩
  · calc decimal.digits * 10 ^ zeros
      _ ≤ (n / 10 ^ zeros + 1) * 10 ^ zeros := Nat.mul_le_mul_right _ bound
      _ = n / 10 ^ zeros * 10 ^ zeros + 10 ^ zeros := Nat.succ_mul _ _
      _ ≤ n + n := Nat.add_le_add (Nat.div_mul_le_self _ _) inside
      _ < 2 ^ 53 := by omega
  · rw [← Decimal.magnitude_natural exponent, reads]

/-- **The shortest decimal of an integer is that integer**, if it has up to fourteen digits. -/
theorem Magnitude.shortest_ofNat (tie : Tie) {n : Nat} (small : 10 * n < 2 ^ 53) :
    ∃ exponent : Nat, ((ofNat n).shortest tie).exponent = exponent ∧
      ((ofNat n).shortest tie).digits * 10 ^ exponent = n := by
  have few : n < 2 ^ 53 := by omega
  by_cases zero : n = 0
  · subst zero
    have same : ofNat 0 = Magnitude.zero := by
      rw [ofNat_eq, Nat.zero_mul, ofRatio_of_tiny (by decide)]
    have none : Magnitude.zero.pattern = 0 := rfl
    rw [same, shortest, if_pos none]
    exact ⟨0, rfl, rfl⟩
  have filled : (ofNat n).pattern ≠ 0 := by
    intro none
    have units := units_ofNat_of_small few
    rw [Magnitude.units, none] at units
    generalize 1074 = bits at units
    exact Nat.mul_ne_zero zero (Nat.ne_of_gt (Nat.two_pow_pos bits)) units.symm
  have length : (Digits.ofNat n).length ≤ 16 :=
    Digits.length_ofNat_le (Nat.lt_trans few (by decide))
  have leading := Digits.pow_length_ofNat_le zero
  have near : (Digits.ofNat n).length - 1 < 17 := by omega
  rw [shortest_of_filled tie filled, leadingPower_ofNat zero few]
  generalize (Digits.ofNat n).length - 1 = last at *
  -- The grid of ones holds the integer, so the search ends there or on a coarser grid.
  obtain ⟨one, ones⟩ := exists_nearestAt_ones tie few (by omega : (last - last : Int) = (0 : Nat))
  obtain ⟨count, early, decimal, search, found⟩ : ∃ count ≤ last, ∃ decimal,
      (List.range 17).findSome? (fun count : Nat => (ofNat n).nearestAt tie (last - count)) =
        some decimal ∧ (ofNat n).nearestAt tie (last - count) = some decimal :=
    exists_le_of_findSome?_range near ones
  have power : (last - count : Int) = (last - count : Nat) := by omega
  have scale : 10 ^ (last - count) ≤ 10 ^ last := Nat.pow_le_pow_right (by decide) (by omega)
  obtain ⟨whole, value⟩ := value_of_nearestAt small power (Nat.le_trans scale leading) found
  rw [search, Option.getD_some]
  exact Decimal.trim_natural whole value

/-! ## Layouts -/

/-- Zeros behind digits multiply by a power of ten. -/
theorem Digits.value_append_zeros (digits : List Digit) (count : Nat) :
    value (digits ++ List.replicate count 0) = value digits * 10 ^ count := by
  induction count with
  | zero => simp
  | succ count ih =>
    rw [List.replicate_succ', ← List.append_assoc, value_append_singleton, ih, Nat.pow_succ,
      Nat.mul_assoc]
    rfl

/-- What the digits of a numeral without an exponent denote. -/
theorem Numeral.decimal_of_digits {numeral : Numeral} {digits places : Nat}
    (value : Digits.value (numeral.whole ++ numeral.fraction) = digits)
    (length : numeral.fraction.length = places) (plain : numeral.exponent = none) :
    numeral.decimal = ⟨digits, -places⟩ := by
  rw [decimal, value, length, plain]
  simp

/-- What a written exponent denotes, whether a plus sign is written or not. -/
theorem Exponent.value_signed (power : Int) (plusSign : Bool) :
    value ⟨if power < 0 then some true else if plusSign then some false else none,
      Digits.ofNat power.natAbs⟩ = power := by
  unfold value
  rw [Digits.value_ofNat]
  dsimp only
  by_cases negative : power < 0
  · rw [if_pos negative, if_pos rfl]
    omega
  · have unsigned : (if plusSign then some false else none) ≠ some true := by
      cases plusSign <;> decide
    rw [if_neg negative, if_neg unsigned]
    omega

namespace Layout

variable (layout : Layout) (negative : Bool)

/-- A whole number is written with its zeros, and with one more behind a point if points are
kept. -/
theorem decimal_positionalNumeral_whole {decimal : Decimal} (whole : 0 ≤ decimal.exponent) :
    ∃ zeros : Nat, zeros ≤ 1 ∧ (layout.positionalNumeral negative decimal).decimal =
      ⟨decimal.digits * 10 ^ (decimal.exponent.toNat + zeros), -zeros⟩ := by
  obtain ⟨zeros, few, fraction⟩ : ∃ zeros, zeros ≤ 1 ∧
      (if layout.keepsPoint then [0] else []) = List.replicate zeros (0 : Digit) := by
    cases layout.keepsPoint with
    | true => exact ⟨1, Nat.le_refl 1, rfl⟩
    | false => exact ⟨0, Nat.zero_le 1, rfl⟩
  refine ⟨zeros, few, ?_⟩
  rw [positionalNumeral, if_pos whole, fraction]
  refine Numeral.decimal_of_digits ?_ List.length_replicate rfl
  rw [List.append_assoc, List.replicate_append_replicate, Digits.value_append_zeros,
    Digits.value_ofNat]

/-- A number with places is written with all of them. -/
theorem decimal_positionalNumeral_places {decimal : Decimal} (places : ¬ 0 ≤ decimal.exponent) :
    (layout.positionalNumeral negative decimal).decimal = decimal := by
  obtain ⟨count, same⟩ : ∃ count : Nat, decimal.exponent = -count :=
    ⟨(-decimal.exponent).toNat, by omega⟩
  obtain ⟨digits, exponent⟩ := decimal
  obtain rfl : exponent = -count := same
  rw [positionalNumeral, if_neg places]
  dsimp only
  rw [Int.neg_neg, Int.toNat_natCast]
  apply Numeral.decimal_of_digits
  · rw [List.take_append_drop, Digits.value_zeros, Digits.value_ofNat]
  · rw [List.length_drop, List.length_append, List.length_replicate]
    omega
  · rfl

/-- A number in positional notation denotes its decimal. -/
theorem magnitude_positionalNumeral (decimal : Decimal) :
    (layout.positionalNumeral negative decimal).decimal.magnitude = decimal.magnitude := by
  by_cases whole : 0 ≤ decimal.exponent
  · obtain ⟨zeros, _, written⟩ := layout.decimal_positionalNumeral_whole negative whole
    have scaled := Decimal.magnitude_scale decimal.digits (decimal.exponent.toNat + zeros)
      decimal.exponent
    have places : decimal.exponent - (decimal.exponent.toNat + zeros : Nat) = -zeros := by omega
    rw [places] at scaled
    rw [written, scaled]
  · rw [layout.decimal_positionalNumeral_places negative whole]

/-- A number with an exponent denotes its decimal. -/
theorem decimal_scientificNumeral (decimal : Decimal) :
    (layout.scientificNumeral negative decimal
      (decimal.exponent + (Digits.ofNat decimal.digits).length - 1)).decimal = decimal := by
  obtain ⟨digits, exponent⟩ := decimal
  have filled : 0 < (Digits.ofNat digits).length :=
    List.length_pos_iff.mpr (Digits.ofNat_ne_nil digits)
  rw [scientificNumeral, Numeral.decimal]
  simp only [Option.elim_some, List.take_append_drop, Digits.value_ofNat, List.length_drop,
    Exponent.value_signed]
  congr 1
  omega

/-- **A finite number is read to the nearest from what any layout writes for it.** -/
theorem double_numeral {magnitude : Magnitude} (finite : magnitude.isFinite = true) :
    (layout.numeral negative magnitude).double = .signed negative magnitude := by
  have shortest := Magnitude.magnitude_shortest layout.tie finite
  have sign : (layout.numeral negative magnitude).negative = negative := by
    unfold numeral positionalNumeral scientificNumeral
    dsimp only
    split
    · split <;> rfl
    · rfl
  have value : (layout.numeral negative magnitude).decimal.magnitude = magnitude := by
    unfold numeral
    dsimp only
    split
    · rw [magnitude_positionalNumeral, shortest]
    · rw [decimal_scientificNumeral, shortest]
  rw [Numeral.double, sign, value]

end Layout

end ColumnQuery
