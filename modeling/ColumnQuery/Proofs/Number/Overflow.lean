import Mathlib.Tactic.Ring
import ColumnQuery.Proofs.Number.Scaled

/-!
# Where floating point numbers end

The greatest finite number and 2^1024, which is none, are equally near to 2^1024 - 2^970, and a tie
goes to the even pattern. So a decimal is nearest to infinity exactly from there on
(`Double.overflow`).
-/
namespace ColumnQuery

/-- The least natural that is nearest to infinity. -/
def Double.overflow : Nat := 2 ^ 1024 - 2 ^ 970

namespace Magnitude

/-- The nearest natural to a ratio is below an even one exactly if the ratio is nearer to a natural
below: the tie goes to the even one. -/
theorem roundHalfEven_lt_iff {numerator denominator half : Nat} (positive : 0 < denominator) :
    roundHalfEven numerator denominator < 2 * half ↔
      2 * numerator + denominator < 4 * (half * denominator) := by
  have whole := Nat.div_add_mod numerator denominator
  have small := Nat.mod_lt numerator positive
  have bounds := roundHalfEven_bounds numerator denominator
  have unfolded : roundHalfEven numerator denominator =
      if 2 * (numerator % denominator) < denominator then numerator / denominator
      else if denominator < 2 * (numerator % denominator) then numerator / denominator + 1
      else numerator / denominator + numerator / denominator % 2 := rfl
  generalize roundHalfEven numerator denominator = rounded at *
  generalize numerator / denominator = quotient at *
  generalize numerator % denominator = remainder at *
  have double : 4 * (half * denominator) = 2 * (denominator * (2 * half)) := by ring
  rw [double]
  rcases Nat.lt_trichotomy (quotient + 1) (2 * half) with below | same | above
  · have room := Nat.mul_le_mul_left denominator (by omega : quotient + 2 ≤ 2 * half)
    rw [Nat.mul_add] at room
    omega
  · -- The last natural below the even one is odd, so only less than half goes back to it.
    have odd : quotient % 2 = 1 := by omega
    rw [← same, Nat.mul_add, Nat.mul_one]
    rw [odd] at unfolded
    split at unfolded
    · omega
    · split at unfolded <;> omega
  · have beyond := Nat.mul_le_mul_left denominator (by omega : 2 * half ≤ quotient)
    omega

/-- A ratio of units is nearest to a finite magnitude exactly if the pattern it is rounded to stays
below that of infinity. -/
theorem isFinite_ofRatio_iff_pattern {numerator denominator doublings : Nat}
    (exponent : (numerator / denominator).log2 - 52 = doublings) :
    (ofRatio numerator denominator).isFinite = true ↔
      doublings * 2 ^ 52 + roundHalfEven numerator (denominator * 2 ^ doublings) <
        2047 * 2 ^ 52 := by
  subst exponent
  rw [isFinite, decide_eq_true_eq]
  exact min_lt_iff.trans (or_iff_left (Nat.lt_irrefl _))

/-- A ratio of units is nearest to a finite magnitude exactly if it is below the overflow. The power
of two is left open, so that it is not evaluated. -/
theorem isFinite_ofRatio_iff {numerator denominator bits : Nat} (positive : 0 < denominator)
    (last : bits = 2044) : (ofRatio numerator denominator).isFinite = true ↔
      numerator < (2 ^ 54 - 1) * (denominator * 2 ^ bits) := by
  have split (power : Nat) :
      2 ^ (power + bits) * denominator = 2 ^ power * (denominator * 2 ^ bits) := by
    rw [Nat.pow_add]
    ring
  by_cases small : numerator / denominator < 2 ^ (53 + bits)
  · have below : numerator < 2 ^ (53 + bits) * denominator := Nat.lt_mul_of_div_lt small positive
    rw [split] at below
    simp only [isFinite_ofRatio (by omega : 53 + bits ≤ 2097) small, true_iff]
    omega
  have large : 2 ^ (53 + bits) ≤ numerator / denominator := Nat.le_of_not_lt small
  have filled : numerator / denominator ≠ 0 := by
    have leading : 0 < 2 ^ (53 + bits) := Nat.two_pow_pos _
    omega
  have exponent : 53 + bits ≤ (numerator / denominator).log2 := (Nat.le_log2 filled).mpr large
  by_cases next : numerator / denominator < 2 ^ (54 + bits)
  · -- In the last binade only the rounding decides.
    have highest : (numerator / denominator).log2 < 54 + bits := (Nat.log2_lt filled).mpr next
    have doublings : (numerator / denominator).log2 - 52 = 1 + bits := by omega
    have scale : 0 < denominator * 2 ^ (1 + bits) :=
      Nat.mul_pos positive (Nat.two_pow_pos (1 + bits))
    have rounding : roundHalfEven numerator (denominator * 2 ^ (1 + bits)) < 2 * 2 ^ 52 ↔
        2 * numerator + denominator * 2 ^ (1 + bits) <
          4 * (2 ^ 52 * (denominator * 2 ^ (1 + bits))) := roundHalfEven_lt_iff scale
    rw [isFinite_ofRatio_iff_pattern doublings]
    rw [Nat.mul_comm denominator, split] at rounding ⊢
    omega
  · -- Nothing behind the last binade is finite.
    have beyond : 2 ^ (54 + bits) * denominator ≤ numerator :=
      (Nat.le_div_iff_mul_le positive).mp (Nat.le_of_not_lt next)
    rw [split] at beyond
    have fraction : 2 ^ 52 ≤ numerator /
        (denominator * 2 ^ ((numerator / denominator).log2 - 52)) := by
      have leading := Nat.log2_self_le filled
      have whole : (numerator / denominator).log2 =
          52 + ((numerator / denominator).log2 - 52) := by omega
      rw [whole, Nat.pow_add] at leading
      rw [← Nat.div_div_eq_div_mul]
      exact (Nat.le_div_iff_mul_le (Nat.two_pow_pos _)).mpr leading
    have rounded := Nat.le_trans fraction (roundHalfEven_bounds _ _).1
    have highest : 54 + bits ≤ (numerator / denominator).log2 :=
      (Nat.le_log2 filled).mpr (Nat.le_of_not_lt next)
    rw [isFinite_ofRatio_iff_pattern rfl]
    omega

end Magnitude

/-- The overflow in steps of the last binade. -/
theorem Double.overflow_eq {bits : Nat} (last : bits = 970) :
    overflow = (2 ^ 54 - 1) * 2 ^ bits := by
  have whole : overflow = 2 ^ (54 + bits) - 2 ^ bits := by rw [overflow, last]
  rw [whole, Nat.pow_add, Nat.sub_mul, Nat.one_mul]

/-- The overflow is not zero. -/
theorem Double.overflow_pos : 0 < overflow := by
  generalize last : 970 = bits
  rw [overflow_eq last.symm]
  exact Nat.mul_pos (by decide) (Nat.two_pow_pos bits)

/-- The ratio of a decimal is nearest to a finite magnitude exactly if it is below the overflow. -/
theorem Magnitude.isFinite_ofRatio_decimal {digits scale bits : Nat} (positive : 0 < scale)
    (unit : bits = 1074) : (ofRatio (digits * 2 ^ bits) scale).isFinite = true ↔
      digits < Double.overflow * scale := by
  generalize above : 970 = further
  rw [isFinite_ofRatio_iff positive (by omega : further + bits = 2044),
    Double.overflow_eq above.symm]
  have units : (2 ^ 54 - 1) * (scale * 2 ^ (further + bits)) =
      (2 ^ 54 - 1) * 2 ^ further * scale * 2 ^ bits := by
    rw [Nat.pow_add]
    ring
  rw [units]
  exact Nat.mul_lt_mul_right (Nat.two_pow_pos bits)

/-- A decimal with far more places than digits is below the overflow. -/
theorem Decimal.lt_overflow {digits places : Nat} (small : digits.log2 < places) :
    digits < Double.overflow * 10 ^ places := by
  calc digits
    _ < 2 ^ (digits.log2 + 1) := Nat.lt_log2_self
    _ ≤ 10 ^ (digits.log2 + 1) := Nat.pow_le_pow_left (by decide) _
    _ ≤ 10 ^ places := Nat.pow_le_pow_right (by decide) small
    _ ≤ Double.overflow * 10 ^ places := Nat.le_mul_of_pos_left _ Double.overflow_pos

/-- **A decimal is nearest to a finite magnitude exactly if it is below the overflow.** -/
theorem Decimal.isFinite_magnitude_iff (digits places : Nat) :
    (Decimal.magnitude ⟨digits, -places⟩).isFinite = true ↔
      digits < Double.overflow * 10 ^ places := by
  have scale : 0 < 10 ^ places := Nat.pow_pos (by decide)
  have nothing : Magnitude.zero.isFinite = true := by decide
  unfold magnitude
  dsimp only
  generalize unit : 1074 = bits
  have exact : (Magnitude.ofRatio (digits * 2 ^ bits) (10 ^ places)).isFinite = true ↔
      digits < Double.overflow * 10 ^ places :=
    Magnitude.isFinite_ofRatio_decimal scale unit.symm
  split
  · rename_i zero
    simp only [nothing, zero, Nat.mul_pos Double.overflow_pos scale]
  split
  · omega
  split
  · rename_i tiny
    simp only [nothing, lt_overflow (by omega : digits.log2 < places)]
  split
  · rename_i whole
    have none : places = 0 := by omega
    subst none
    simpa using exact
  · rwa [Int.neg_neg, Int.toNat_natCast]

end ColumnQuery
