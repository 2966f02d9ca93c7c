import Mathlib.Algebra.Group.Nat.Defs
import ColumnQuery.Number.Scaled

/-!
# Scaled readings are finite

The scaled reading of a numeral never overflows unseen: a product that would be infinite is refused,
and a quotient by a power of ten is at most half of a finite number.
-/
namespace ColumnQuery

/-! ## Magnitudes -/

namespace Magnitude

/-- The nearest natural to a ratio is the whole part of it or one above. -/
theorem roundHalfEven_bounds (numerator denominator : Nat) :
    numerator / denominator ≤ roundHalfEven numerator denominator ∧
      roundHalfEven numerator denominator ≤ numerator / denominator + 1 := by
  unfold roundHalfEven
  extract_lets quotient twice
  have odd : quotient % 2 < 2 := Nat.mod_lt _ (by decide)
  split
  · omega
  · split <;> omega

/-- A ratio of fewer than 2^2097 units is nearest to a finite magnitude. -/
theorem isFinite_ofRatio {numerator denominator bits : Nat} (limit : bits ≤ 2097)
    (small : numerator / denominator < 2 ^ bits) :
    (ofRatio numerator denominator).isFinite = true := by
  unfold ofRatio
  extract_lets doublings
  have exponent : (numerator / denominator).log2 < 2097 := by
    by_cases none : numerator / denominator = 0
    · rw [none]
      decide
    · exact Nat.lt_of_lt_of_le ((Nat.log2_lt none).mpr small) limit
  -- The fraction, with its leading bit and after rounding, has at most 53 bits or is 2^53.
  have fraction : roundHalfEven numerator (denominator * Nat.pow 2 doublings) ≤ 2 ^ 53 := by
    have above := Nat.lt_log2_self (n := numerator / denominator)
    have scaled : numerator / denominator < 2 ^ doublings * 2 ^ 53 := by
      rw [← Nat.pow_add]
      exact Nat.lt_of_lt_of_le above (Nat.pow_le_pow_right (by decide) (by omega))
    have whole : numerator / (denominator * Nat.pow 2 doublings) < 2 ^ 53 := by
      rw [← Nat.div_div_eq_div_mul]
      exact Nat.div_lt_of_lt_mul scaled
    exact Nat.le_trans (roundHalfEven_bounds _ _).2 whole
  have doubled : doublings * Nat.pow 2 52 ≤ 2044 * Nat.pow 2 52 :=
    Nat.mul_le_mul_right _ (by omega)
  have unit : Nat.pow 2 52 = 2 ^ 52 := rfl
  rw [isFinite, decide_eq_true_eq]
  show min _ _ < 2047 * Nat.pow 2 52
  omega

/-- A natural with at most 1023 bits is nearest to a finite magnitude. -/
theorem isFinite_ofNat {n bits : Nat} (limit : bits ≤ 1023) (small : n < 2 ^ bits) :
    (ofNat n).isFinite = true := by
  unfold ofNat
  -- Powers of two this large are kept from being evaluated.
  generalize unit : 1074 = shift
  refine isFinite_ofRatio (by omega : bits + shift ≤ 2097) ?_
  rw [Nat.div_one, Nat.pow_add]
  exact Nat.mul_lt_mul_of_pos_right small (Nat.pow_pos (by decide))

/-- A finite magnitude has fewer than 2^2098 units. -/
theorem units_lt {magnitude : Magnitude} (finite : magnitude.isFinite = true) {bits : Nat}
    (limit : 2098 ≤ bits) : magnitude.units < 2 ^ bits := by
  rw [isFinite, decide_eq_true_eq] at finite
  unfold units
  extract_lets exponent fraction
  have unit : Nat.pow 2 52 = 2 ^ 52 := rfl
  have small : fraction < 2 ^ 52 := Nat.mod_lt _ (by decide)
  have below : exponent < 2047 := Nat.div_lt_of_lt_mul (by rwa [Nat.mul_comm] at finite)
  by_cases first : exponent = 0
  · rw [if_pos first]
    exact Nat.lt_of_lt_of_le small (Nat.pow_le_pow_right (by decide) (by omega))
  · rw [if_neg first, unit]
    have leading : 2 ^ 52 + fraction < 2 ^ 53 := by omega
    calc (2 ^ 52 + fraction) * Nat.pow 2 (exponent - 1)
      _ < 2 ^ 53 * 2 ^ (exponent - 1) :=
        Nat.mul_lt_mul_of_pos_right leading (Nat.pow_pos (by decide))
      _ = 2 ^ (53 + (exponent - 1)) := (Nat.pow_add 2 53 (exponent - 1)).symm
      _ ≤ 2 ^ bits := Nat.pow_le_pow_right (by decide) (by omega)

/-- The magnitude of a natural above one has at least the pattern of two. -/
theorem le_pattern_ofNat {n : Nat} (large : 2 ≤ n) :
    1024 * Nat.pow 2 52 ≤ (ofNat n).pattern := by
  unfold ofNat ofRatio
  generalize unit : 1074 = shift
  extract_lets doublings
  have whole : doublings = (n * Nat.pow 2 shift).log2 - 52 := by
    simp only [doublings, Nat.div_one]
  rw [Nat.one_mul]
  have units : 2 ^ (shift + 1) ≤ n * Nat.pow 2 shift := by
    rw [Nat.pow_succ, Nat.mul_comm]
    exact Nat.mul_le_mul_right _ large
  have filled : n * Nat.pow 2 shift ≠ 0 := by
    have positive : 0 < 2 ^ (shift + 1) := Nat.pow_pos (by decide)
    omega
  have exponent : shift + 1 ≤ (n * Nat.pow 2 shift).log2 := (Nat.le_log2 filled).mpr units
  -- The leading bit of the fraction is there.
  have fraction : 2 ^ 52 ≤ n * Nat.pow 2 shift / Nat.pow 2 doublings := by
    have leading := Nat.log2_self_le filled
    have split : (n * Nat.pow 2 shift).log2 = 52 + doublings := by omega
    rw [split, Nat.pow_add] at leading
    exact (Nat.le_div_iff_mul_le (Nat.pow_pos (by decide))).mpr leading
  have rounded := (roundHalfEven_bounds (n * Nat.pow 2 shift) (Nat.pow 2 doublings)).1
  have doubled : 1023 * Nat.pow 2 52 ≤ doublings * Nat.pow 2 52 :=
    Nat.mul_le_mul_right _ (by omega)
  refine Nat.le_min.mpr ⟨?_, Nat.mul_le_mul_right _ (by decide)⟩
  calc 1024 * Nat.pow 2 52
    _ = 1023 * Nat.pow 2 52 + 2 ^ 52 := Nat.succ_mul 1023 _
    _ ≤ _ := Nat.add_le_add doubled (Nat.le_trans fraction rounded)

/-- A magnitude of at least two has at least 2^1075 units. -/
theorem le_units {magnitude : Magnitude} (large : 1024 * Nat.pow 2 52 ≤ magnitude.pattern)
    {bits : Nat} (limit : bits ≤ 1075) : 2 ^ bits ≤ magnitude.units := by
  unfold units
  extract_lets exponent fraction
  have above : 1024 ≤ exponent := (Nat.le_div_iff_mul_le (Nat.pow_pos (by decide))).mpr large
  rw [if_neg (by omega)]
  calc 2 ^ bits
    _ ≤ 2 ^ (52 + (exponent - 1)) := Nat.pow_le_pow_right (by decide) (by omega)
    _ = 2 ^ 52 * 2 ^ (exponent - 1) := Nat.pow_add 2 52 (exponent - 1)
    _ ≤ (2 ^ 52 + fraction) * 2 ^ (exponent - 1) :=
      Nat.mul_le_mul_right _ (Nat.le_add_right _ _)

end Magnitude

/-! ## Scaling -/

namespace Double

/-- A finite number stays finite if it is divided by a power of ten. -/
theorem isFinite_div_powerOfTen {x : Double} (finite : x.isFinite = true) {power : Nat}
    (positive : 0 < power) : (x.div (powerOfTen power)).isFinite = true := by
  cases x with
  | nan => contradiction
  | signed negative magnitude =>
    have ten : 2 ≤ 10 ^ power := Nat.le_trans (by decide : 2 ≤ 10 ^ 1)
      (Nat.pow_le_pow_right (by decide) positive)
    have large := Magnitude.le_pattern_ofNat ten
    rw [powerOfTen]
    generalize Magnitude.ofNat (Nat.pow 10 power) = divisor at large
    have whole : magnitude.isFinite = true := finite
    have filled : divisor.pattern ≠ 0 := by
      have positive : 0 < Nat.pow 2 52 := Nat.pow_pos (by decide)
      omega
    simp only [div, if_pos whole, if_neg filled]
    split
    · generalize unit : 1074 = shift
      refine Magnitude.isFinite_ofRatio (Nat.le_refl 2097) (Nat.div_lt_of_lt_mul ?_)
      generalize limit : 2097 = bits
      have above := Magnitude.le_units large (by omega : shift + 1 ≤ 1075)
      have below := Magnitude.units_lt whole (by omega : 2098 ≤ bits + 1)
      calc magnitude.units * 2 ^ shift
        _ < 2 ^ (bits + 1) * 2 ^ shift :=
          Nat.mul_lt_mul_of_pos_right below (Nat.pow_pos (by decide))
        _ = 2 ^ (shift + 1) * 2 ^ bits := by
          rw [← Nat.pow_add, ← Nat.pow_add]
          congr 1
          omega
        _ ≤ divisor.units * 2 ^ bits := Nat.mul_le_mul_right _ above
    · rfl

/-- A finite number stays finite if it is divided by a power of ten in steps. -/
theorem isFinite_lower {x : Double} (finite : x.isFinite = true) {power : Nat}
    (positive : 0 < power) : (x.lower power).isFinite = true := by
  fun_induction lower x power with
  | case1 x power within => exact isFinite_div_powerOfTen finite positive
  | case2 x power beyond zero => exact finite
  | case3 x power beyond filled ih =>
    have step : (x.div (powerOfTen 308)).isFinite = true :=
      isFinite_div_powerOfTen finite (by decide)
    exact ih step (by omega)

/-- A number without units is finite. -/
theorem isFinite_of_isZero {x : Double} (zero : x.isZero = true) : x.isFinite = true := by
  cases x with
  | nan => contradiction
  | signed negative magnitude =>
    rw [isZero, decide_eq_true_eq] at zero
    rw [isFinite, Magnitude.isFinite, zero]
    decide

/-- A product with a power of ten is given only if it is finite. -/
theorem isFinite_of_raise? {x product : Double} {power : Nat}
    (reads : x.raise? power = some product) : product.isFinite = true := by
  unfold raise? at reads
  split at reads
  · extract_lets found at reads
    split at reads
    · rename_i finite
      rwa [Option.some.inj reads] at finite
    · contradiction
  · split at reads
    · rename_i zero
      rw [Option.some.inj reads] at zero
      exact isFinite_of_isZero zero
    · contradiction

/-- The opposite of a finite number is finite. -/
theorem isFinite_neg (x : Double) : x.neg.isFinite = x.isFinite := by
  cases x <;> rfl

/-- The number nearest to an integer of 64 bits is finite. -/
theorem isFinite_ofInt {n : Nat} (small : n < Nat.pow 2 64) : (ofInt n).isFinite = true :=
  Magnitude.isFinite_ofNat (by decide : 64 ≤ 1023) small

end Double

/-! ## Numerals -/

/-- Absorbed digits stay below 2^64. -/
theorem Digits.absorb_lt {n : Nat} (small : n < Nat.pow 2 64) (digits : List Digit) :
    (absorb n digits).1 < Nat.pow 2 64 := by
  fun_induction absorb n digits with
  | case1 n => exact small
  | case2 n digit digits next fits ih => exact ih fits
  | case3 n digit digits next beyond => exact small

/-- **The scaled reading of a numeral is finite.** -/
theorem Numeral.isFinite_of_scaled? {numeral : Numeral} {x : Double}
    (reads : numeral.scaled? = some x) : x.isFinite = true := by
  have bounded := Digits.absorb_lt
    (Digits.absorb_lt (by decide : 0 < Nat.pow 2 64) numeral.whole) numeral.fraction
  unfold scaled? at reads
  split at reads
  rename_i leading dropped absorbed
  rw [absorbed] at bounded
  split at reads
  rename_i leading' ignored absorbed'
  rw [absorbed'] at bounded
  extract_lets written power rounded scaled at reads
  have finite : rounded.isFinite = true := Double.isFinite_ofInt bounded
  split at reads
  · split at reads
    · contradiction
    · cases reads
      rfl
  · obtain ⟨found, scaling, rfl⟩ := Option.map_eq_some_iff.mp reads
    have inside : found.isFinite = true := by
      by_cases whole : 0 ≤ power
      · have raised : scaled = rounded.raise? power.toNat := if_pos whole
        exact Double.isFinite_of_raise? (raised.symm.trans scaling)
      · have lowered : scaled = some (rounded.lower power.natAbs) := if_neg whole
        rw [← Option.some.inj (lowered.symm.trans scaling)]
        exact Double.isFinite_lower finite (by omega)
    split
    · rw [Double.isFinite_neg]
      exact inside
    · exact inside

end ColumnQuery
