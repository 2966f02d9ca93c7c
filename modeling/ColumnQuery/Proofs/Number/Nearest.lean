import Mathlib.Tactic.Ring
import ColumnQuery.Number.Numeral
import ColumnQuery.Proofs.Number.Overflow

/-!
# Nearest magnitudes

Rounding looks at a ratio only and not at the two numbers that make it, so decimals of one value
have one magnitude (`Decimal.magnitude_congr`), and the bounds beyond which the magnitude of a
decimal is taken without its power of ten change nothing (`Decimal.magnitude_eq`). What needs no
rounding stays: each finite magnitude is nearest to its own units, and naturals of up to 53 bits
are whole magnitudes.
-/
namespace ColumnQuery

namespace Magnitude

/-! ## Ratios -/

/-- A common factor does not change the nearest natural to a ratio. -/
theorem roundHalfEven_mul_right (numerator denominator : Nat) {factor : Nat}
    (positive : 0 < factor) :
    roundHalfEven (numerator * factor) (denominator * factor) =
      roundHalfEven numerator denominator := by
  have quotient : numerator * factor / (denominator * factor) = numerator / denominator :=
    Nat.mul_div_mul_right _ _ positive
  have twice : 2 * (numerator * factor % (denominator * factor)) =
      2 * (numerator % denominator) * factor := by
    rw [Nat.mul_mod_mul_right, Nat.mul_assoc]
  simp only [roundHalfEven, quotient, twice, Nat.mul_lt_mul_right positive]

/-- A common factor does not change the nearest magnitude to a ratio. -/
theorem ofRatio_mul_right (numerator denominator : Nat) {factor : Nat} (positive : 0 < factor) :
    ofRatio (numerator * factor) (denominator * factor) = ofRatio numerator denominator := by
  have quotient : numerator * factor / (denominator * factor) = numerator / denominator :=
    Nat.mul_div_mul_right _ _ positive
  have doubled (doublings : Nat) : denominator * factor * Nat.pow 2 doublings =
      denominator * Nat.pow 2 doublings * factor := Nat.mul_right_comm _ _ _
  simp only [ofRatio, quotient, doubled, roundHalfEven_mul_right _ _ positive]

/-- Equal ratios have the same nearest magnitude. -/
theorem ofRatio_congr {numerator denominator numerator' denominator' : Nat}
    (positive : 0 < denominator) (positive' : 0 < denominator')
    (same : numerator * denominator' = numerator' * denominator) :
    ofRatio numerator denominator = ofRatio numerator' denominator' := by
  rw [← ofRatio_mul_right numerator denominator positive', same, Nat.mul_comm denominator,
    ofRatio_mul_right numerator' denominator' positive]

/-- A ratio below half a unit is nearest to zero. -/
theorem ofRatio_of_tiny {numerator denominator : Nat} (tiny : 2 * numerator < denominator) :
    ofRatio numerator denominator = zero := by
  have quotient : numerator / denominator = 0 := Nat.div_eq_of_lt (by omega)
  have remainder : numerator % denominator = numerator := Nat.mod_eq_of_lt (by omega)
  have none : (0 : Nat).log2 - 52 = 0 := by decide
  have whole : denominator * Nat.pow 2 0 = denominator := Nat.mul_one _
  simp only [ofRatio, quotient, none, whole, roundHalfEven, remainder, if_pos tiny]
  rfl

/-- A magnitude that is not finite is infinity. -/
theorem eq_infinity {magnitude : Magnitude} (beyond : ¬ magnitude.isFinite = true) :
    magnitude = infinity := by
  obtain ⟨pattern, bounded⟩ := magnitude
  rw [isFinite, decide_eq_true_eq] at beyond
  obtain rfl : pattern = 2047 * Nat.pow 2 52 := Nat.le_antisymm bounded (Nat.le_of_not_lt beyond)
  rfl

/-! ## Whole numbers of units -/

/-- A few units are the pattern itself. -/
theorem ofRatio_of_few {units : Nat} (few : units < 2 ^ 53) :
    ofRatio units 1 = ofPattern units := by
  have none : units.log2 - 52 = 0 := by
    by_cases zero : units = 0
    · rw [zero]
      decide
    · have bits := (Nat.log2_lt zero).mpr few
      omega
  have rounded := roundHalfEven_mul units 1 (by decide)
  rw [Nat.mul_one] at rounded
  have one : 1 * Nat.pow 2 0 = 1 := rfl
  simp only [ofRatio, Nat.div_one, none, one, rounded, Nat.zero_mul, Nat.zero_add]

/-- A fraction with its leading bit, doubled so often, is the pattern of that exponent. -/
theorem ofRatio_binade {fraction : Nat} (doublings : Nat) (least : 2 ^ 52 ≤ fraction)
    (most : fraction < 2 ^ 53) :
    ofRatio (fraction * 2 ^ doublings) 1 = ofPattern (doublings * 2 ^ 52 + fraction) := by
  have power : 0 < 2 ^ doublings := Nat.two_pow_pos doublings
  have filled : fraction * 2 ^ doublings ≠ 0 := Nat.mul_ne_zero (by omega) (Nat.ne_of_gt power)
  have exponent : (fraction * 2 ^ doublings).log2 = 52 + doublings := by
    refine (Nat.log2_eq_iff filled).mpr ⟨?_, ?_⟩
    · rw [Nat.pow_add]
      exact Nat.mul_le_mul_right _ least
    · rw [Nat.add_right_comm, Nat.pow_add]
      exact Nat.mul_lt_mul_of_pos_right most power
  have rounded : roundHalfEven (fraction * 2 ^ doublings) (1 * Nat.pow 2 doublings) = fraction := by
    rw [Nat.one_mul]
    exact roundHalfEven_mul fraction (2 ^ doublings) power
  simp only [ofRatio, Nat.div_one, exponent, Nat.add_sub_cancel_left, rounded]
  rfl

/-- The units of the pattern of a fraction with its leading bit. -/
theorem units_binade {fraction doublings : Nat} (least : 2 ^ 52 ≤ fraction)
    (most : fraction < 2 ^ 53) (finite : doublings ≤ 2044) :
    (ofPattern (doublings * 2 ^ 52 + fraction)).units = fraction * 2 ^ doublings := by
  obtain ⟨rest, rfl⟩ := Nat.exists_eq_add_of_le least
  have pattern : (ofPattern (doublings * 2 ^ 52 + (2 ^ 52 + rest))).pattern =
      (doublings + 1) * 2 ^ 52 + rest := by
    show min _ (2047 * 2 ^ 52) = _
    omega
  have exponent : ((doublings + 1) * 2 ^ 52 + rest) / Nat.pow 2 52 = doublings + 1 := by
    show _ / 2 ^ 52 = _
    omega
  have bits : ((doublings + 1) * 2 ^ 52 + rest) % Nat.pow 2 52 = rest := by
    show _ % 2 ^ 52 = _
    omega
  simp only [units, pattern, exponent, bits, Nat.add_eq_zero_iff, Nat.one_ne_zero, and_false,
    if_false, Nat.add_sub_cancel]
  rfl

/-- **A finite magnitude is nearest to its own units.** -/
theorem ofRatio_units {magnitude : Magnitude} (finite : magnitude.isFinite = true) :
    ofRatio magnitude.units 1 = magnitude := by
  obtain ⟨pattern, bounded⟩ := magnitude
  rw [isFinite, decide_eq_true_eq] at finite
  have unit : Nat.pow 2 52 = 2 ^ 52 := rfl
  dsimp only at finite
  rw [unit] at finite
  have own : ofPattern pattern = ⟨pattern, bounded⟩ := by
    simp only [ofPattern, Nat.min_eq_left bounded]
  simp only [units, unit]
  split
  · rw [ofRatio_of_few (by omega), ← own]
    congr 1
    omega
  · have most : 2 ^ 52 + pattern % 2 ^ 52 < 2 ^ 53 := by omega
    refine (ofRatio_binade (pattern / 2 ^ 52 - 1) (Nat.le_add_right _ _) most).trans ?_
    rw [← own]
    congr 1
    omega

/-- The magnitude of a natural is nearest to its units. -/
theorem ofNat_eq (n : Nat) : ofNat n = ofRatio (n * 2 ^ 1074) 1 := by
  unfold ofNat
  generalize 1074 = bits
  rfl

/-- A natural of up to 53 bits, and its doubles, are whole numbers of units. -/
theorem units_ofNat {significant shift : Nat} (small : significant < 2 ^ 53) (near : shift ≤ 970) :
    (ofNat (significant * 2 ^ shift)).units = significant * 2 ^ shift * 2 ^ 1074 := by
  rw [ofNat_eq]
  generalize unit : 1074 = bits
  by_cases zero : significant = 0
  · subst zero
    rw [Nat.zero_mul, Nat.zero_mul, ofRatio_of_few (by decide)]
    decide
  have exponent := (Nat.log2_lt zero).mpr small
  have least := Nat.log2_self_le zero
  have most := Nat.lt_log2_self (n := significant)
  obtain ⟨places, sum⟩ : ∃ places, significant.log2 + places = 52 :=
    ⟨52 - significant.log2, by omega⟩
  have leading : 2 ^ 52 ≤ significant * 2 ^ places := by
    rw [← sum, Nat.pow_add]
    exact Nat.mul_le_mul_right _ least
  have within : significant * 2 ^ places < 2 ^ 53 := by
    have next : significant.log2 + 1 + places = 53 := by omega
    rw [← next, Nat.pow_add]
    exact Nat.mul_lt_mul_of_pos_right most (Nat.two_pow_pos places)
  have split : significant * 2 ^ shift * 2 ^ bits =
      significant * 2 ^ places * 2 ^ (shift + bits - places) := by
    rw [Nat.mul_assoc, Nat.mul_assoc, ← Nat.pow_add, ← Nat.pow_add]
    congr 2
    omega
  rw [split, ofRatio_binade _ leading within, units_binade leading within (by omega)]

/-- A natural of up to 53 bits is a whole number of units. -/
theorem units_ofNat_of_small {n : Nat} (small : n < 2 ^ 53) : (ofNat n).units = n * 2 ^ 1074 := by
  have units : (ofNat (n * 2 ^ 0)).units = n * 2 ^ 0 * 2 ^ 1074 := units_ofNat small (by decide)
  rwa [Nat.pow_zero, Nat.mul_one] at units

/-- A power of ten that is not too large is a whole number of units. -/
theorem units_ofNat_ten {power : Nat} (near : power ≤ 22) :
    (ofNat (10 ^ power)).units = 10 ^ power * 2 ^ 1074 := by
  have five : 5 ^ power < 2 ^ 53 :=
    Nat.lt_of_le_of_lt (Nat.pow_le_pow_right (by decide) near) (by decide)
  have units : (ofNat (5 ^ power * 2 ^ power)).units = 5 ^ power * 2 ^ power * 2 ^ 1074 :=
    units_ofNat five (by omega)
  rwa [← Nat.mul_pow] at units

/-- The 22nd power of ten has fewer than 89 bits. -/
theorem ten_le {power : Nat} (near : power ≤ 22) : 10 ^ power ≤ 2 ^ 88 :=
  Nat.le_trans (Nat.pow_le_pow_right (by decide) near) (by decide)

/-- A power of ten that is not too large is finite. -/
theorem isFinite_ofNat_ten {power : Nat} (near : power ≤ 22) :
    (ofNat (Nat.pow 10 power)).isFinite = true :=
  isFinite_ofNat (by decide : 89 ≤ 1023) (Nat.lt_of_le_of_lt (ten_le near) (by decide))

/-- Naturals of up to 53 bits have magnitudes of their own. -/
theorem ofNat_injective {n m : Nat} (small : n < 2 ^ 53) (small' : m < 2 ^ 53)
    (same : ofNat n = ofNat m) : n = m := by
  have units := congrArg units same
  rw [units_ofNat_of_small small, units_ofNat_of_small small'] at units
  generalize 1074 = bits at units
  exact Nat.eq_of_mul_eq_mul_right (Nat.two_pow_pos bits) units

end Magnitude

/-! ## Decimals -/

namespace Decimal

/-- **The magnitude of a decimal is always the nearest one**, far outside the range too. -/
theorem magnitude_eq (decimal : Decimal) : decimal.magnitude =
    .ofRatio (decimal.digits * 10 ^ decimal.exponent.toNat * 2 ^ 1074)
      (10 ^ (-decimal.exponent).toNat) := by
  obtain ⟨digits, exponent⟩ := decimal
  unfold magnitude
  dsimp only
  generalize unit : 1074 = bits
  have scale (places : Nat) : 0 < 10 ^ places := Nat.pow_pos (by decide)
  have eight (places : Nat) : 2 ^ (3 * places) ≤ 10 ^ places := by
    rw [Nat.pow_mul]
    exact Nat.pow_le_pow_left (by decide) places
  split
  · rename_i zero
    rw [zero, Nat.zero_mul, Nat.zero_mul, Magnitude.ofRatio_of_tiny (scale _)]
  rename_i filled
  split
  · have none : (-exponent).toNat = 0 := by omega
    have large : Double.overflow ≤ digits * 10 ^ exponent.toNat := by
      generalize limit : 1024 = top
      calc Double.overflow
        _ ≤ 2 ^ top := by rw [Double.overflow, limit]; exact Nat.sub_le _ _
        _ ≤ 2 ^ (3 * exponent.toNat) := Nat.pow_le_pow_right (by decide) (by omega)
        _ ≤ 10 ^ exponent.toNat := eight _
        _ ≤ digits * 10 ^ exponent.toNat := Nat.le_mul_of_pos_left _ (Nat.pos_of_ne_zero filled)
    refine (Magnitude.eq_infinity fun finite => ?_).symm
    rw [none, Nat.pow_zero, Magnitude.isFinite_ofRatio_decimal Nat.one_pos unit.symm] at finite
    omega
  split
  · have none : exponent.toNat = 0 := by omega
    have tiny : 2 * (digits * 10 ^ exponent.toNat * 2 ^ bits) < 10 ^ (-exponent).toNat := by
      rw [none, Nat.pow_zero, Nat.mul_one]
      have digit : digits < 2 ^ (digits.log2 + 1) := Nat.lt_log2_self
      calc 2 * (digits * 2 ^ bits)
        _ = digits * 2 ^ (bits + 1) := by rw [Nat.pow_succ]; ring
        _ < 2 ^ (digits.log2 + 1) * 2 ^ (bits + 1) :=
          Nat.mul_lt_mul_of_pos_right digit (Nat.two_pow_pos _)
        _ = 2 ^ (digits.log2 + 1 + (bits + 1)) := (Nat.pow_add _ _ _).symm
        _ ≤ 2 ^ (3 * (-exponent).toNat) := Nat.pow_le_pow_right (by decide) (by omega)
        _ ≤ 10 ^ (-exponent).toNat := eight _
    rw [Magnitude.ofRatio_of_tiny tiny]
  split
  · have none : (-exponent).toNat = 0 := by omega
    rw [none, Nat.pow_zero]
    rfl
  · have none : exponent.toNat = 0 := by omega
    rw [none, Nat.pow_zero, Nat.mul_one]
    rfl

/-- Decimals of one value have the same magnitude. -/
theorem magnitude_congr {left right : Decimal}
    (same : left.digits * 10 ^ left.exponent.toNat * 10 ^ (-right.exponent).toNat =
      right.digits * 10 ^ right.exponent.toNat * 10 ^ (-left.exponent).toNat) :
    left.magnitude = right.magnitude := by
  have scale (places : Nat) : 0 < 10 ^ places := Nat.pow_pos (by decide)
  rw [magnitude_eq, magnitude_eq]
  apply Magnitude.ofRatio_congr (scale _) (scale _)
  rw [Nat.mul_right_comm, same, Nat.mul_right_comm]

/-- A zero behind the digits is a power of ten. -/
theorem magnitude_shift (digits : Nat) (exponent : Int) :
    magnitude ⟨digits * 10, exponent⟩ = magnitude ⟨digits, exponent + 1⟩ := by
  apply magnitude_congr
  dsimp only
  by_cases whole : 0 ≤ exponent
  · have next : (exponent + 1).toNat = exponent.toNat + 1 := by omega
    have none : (-exponent).toNat = 0 := by omega
    have none' : (-(exponent + 1)).toNat = 0 := by omega
    rw [next, none, none', Nat.pow_succ]
    ring
  · have next : (-exponent).toNat = (-(exponent + 1)).toNat + 1 := by omega
    have none : exponent.toNat = 0 := by omega
    have none' : (exponent + 1).toNat = 0 := by omega
    rw [next, none, none', Nat.pow_succ]
    ring

/-- Zeros behind the digits are a power of ten. -/
theorem magnitude_scale (digits zeros : Nat) (exponent : Int) :
    magnitude ⟨digits * 10 ^ zeros, exponent - zeros⟩ = magnitude ⟨digits, exponent⟩ := by
  induction zeros with
  | zero => simp
  | succ zeros ih =>
    have next : exponent - (zeros + 1 : Nat) + 1 = exponent - zeros := by omega
    rw [Nat.pow_succ, ← Nat.mul_assoc, magnitude_shift, next, ih]

end Decimal

end ColumnQuery
