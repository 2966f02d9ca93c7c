import ColumnQuery.Proofs.Json.Value
import ColumnQuery.Proofs.Number.Written

/-!
# Numbers that read back

The reading of JSON numbers rounds the leading digits, then powers of ten, then their product or
quotient. Where the digits fit 53 bits and the power of ten is at most the 22nd, the first two are
exact, so the reading is the nearest one (`Numeral.scaled?_eq_double`). Hence a number whose text is
that short is read back from it (`Double.readsBack_of_short`), and integers of up to fourteen digits
are such numbers (`Double.readsBack_ofInt`).
-/
namespace ColumnQuery

open Json

/-! ## Scaled readings of short numerals -/

/-- Further digits do not make a number smaller. -/
theorem Digits.le_foldl (n : Nat) (digits : List Digit) :
    n ≤ digits.foldl (fun n digit => n * 10 + digit.val) n := by
  induction digits generalizing n with
  | nil => exact Nat.le_refl n
  | cons digit digits ih =>
    have first : n ≤ n * 10 + digit.val := by omega
    exact Nat.le_trans first (ih (n * 10 + digit.val))

/-- Digits whose number stays below 2^64 are all absorbed. -/
theorem Digits.absorb_eq {n : Nat} {digits : List Digit}
    (small : digits.foldl (fun n digit => n * 10 + digit.val) n < Nat.pow 2 64) :
    absorb n digits = (digits.foldl (fun n digit => n * 10 + digit.val) n, []) := by
  fun_induction absorb n digits with
  | case1 n => rfl
  | case2 n digit digits next fits ih => exact ih small
  | case3 n digit digits next beyond =>
    exact absurd (Nat.lt_of_le_of_lt (le_foldl next digits) small) beyond

namespace Double

variable {digits power : Nat}

/-- The product of a short number with an exact power of ten is rounded once. -/
theorem raise?_ofNat (few : digits < 2 ^ 53) (near : power ≤ 22) :
    raise? (.signed false (.ofNat digits)) power =
      some (.signed false (.ofRatio (digits * 10 ^ power * 2 ^ 1074) 1)) := by
  have finite : (Magnitude.ofNat digits).isFinite = true :=
    Magnitude.isFinite_ofNat (by decide : 53 ≤ 1023) few
  have finiteTen := Magnitude.isFinite_ofNat_ten near
  have below : digits * 10 ^ power < 2 ^ 141 :=
    calc digits * 10 ^ power
      _ ≤ digits * 2 ^ 88 := Nat.mul_le_mul_left digits (Magnitude.ten_le near)
      _ < 2 ^ 53 * 2 ^ 88 := Nat.mul_lt_mul_of_pos_right few (by decide)
  have finiteProduct := Magnitude.isFinite_ofNat (by decide : 141 ≤ 1023) below
  rw [Magnitude.ofNat_eq] at finiteProduct
  have product : mul (.signed false (.ofNat digits)) (powerOfTen power) =
      .signed false (.ofRatio (digits * 10 ^ power * 2 ^ 1074) 1) := by
    have units := Magnitude.units_ofNat_of_small few
    have unitsTen := Magnitude.units_ofNat_ten near
    simp only [mul, powerOfTen, finite, finiteTen, Bool.and_self, if_true, units]
    show signed _ (.ofRatio (_ * (Magnitude.ofNat (10 ^ power)).units) _) = _
    rw [unitsTen]
    generalize 1074 = bits
    have rounded : Magnitude.ofRatio (digits * 2 ^ bits * (10 ^ power * 2 ^ bits)) (2 ^ bits) =
        .ofRatio (digits * 10 ^ power * 2 ^ bits) 1 :=
      Magnitude.ofRatio_congr (Nat.two_pow_pos bits) Nat.one_pos (by ring)
    exact congrArg (signed false) rounded
  simp only [raise?, if_pos (Nat.le_trans near (by decide : 22 ≤ 308)), product]
  exact if_pos finiteProduct

/-- The quotient of a short number by an exact power of ten is rounded once. -/
theorem lower_ofNat (few : digits < 2 ^ 53) (positive : 0 < power) (near : power ≤ 22) :
    lower (.signed false (.ofNat digits)) power =
      .signed false (.ofRatio (digits * 2 ^ 1074) (10 ^ power)) := by
  have finite : (Magnitude.ofNat digits).isFinite = true :=
    Magnitude.isFinite_ofNat (by decide : 53 ≤ 1023) few
  have finiteTen := Magnitude.isFinite_ofNat_ten near
  have filled : (Magnitude.ofNat (Nat.pow 10 power)).pattern ≠ 0 := by
    have two : 2 ≤ Nat.pow 10 power := Nat.le_trans (by decide : 2 ≤ 10 ^ 1)
      (Nat.pow_le_pow_right (by decide) positive)
    have large := Magnitude.le_pattern_ofNat two
    have unit : 0 < Nat.pow 2 52 := by decide
    omega
  have units := Magnitude.units_ofNat_of_small few
  have unitsTen := Magnitude.units_ofNat_ten near
  rw [lower, if_pos (Nat.le_trans near (by decide : 22 ≤ 308))]
  simp only [div, powerOfTen, finite, finiteTen, if_true, if_neg filled, units]
  show signed _ (.ofRatio _ (Magnitude.ofNat (10 ^ power)).units) = _
  rw [unitsTen]
  generalize 1074 = bits
  have rounded := Magnitude.ofRatio_mul_right (digits * 2 ^ bits) (10 ^ power)
    (Nat.two_pow_pos bits)
  exact congrArg (signed false) rounded

/-- A natural as a number. -/
theorem ofInt_natCast (n : Nat) : ofInt n = .signed false (.ofNat n) := by
  have least : ¬ (n : Int) < 0 := by omega
  simp only [ofInt, least, decide_false, Int.natAbs_natCast]

end Double

/-- **The scaled reading of a short numeral is the nearest one.** -/
theorem Numeral.scaled?_eq_double {numeral : Numeral} (few : numeral.decimal.digits < 2 ^ 53)
    (near : numeral.decimal.exponent.natAbs ≤ 22)
    (written : (numeral.exponent.elim 0 Exponent.value).natAbs ≤ 2147483647) :
    numeral.scaled? = some numeral.double := by
  have joined : numeral.fraction.foldl (fun n digit => n * 10 + digit.val)
      (numeral.whole.foldl (fun n digit => n * 10 + digit.val) 0) = numeral.decimal.digits :=
    (List.foldl_append ..).symm
  have within : numeral.decimal.digits < Nat.pow 2 64 := Nat.lt_trans few (by decide)
  have fraction := Digits.absorb_eq (joined ▸ within)
  have whole := Digits.absorb_eq
    (Nat.lt_of_le_of_lt (Digits.le_foldl _ numeral.fraction) (joined ▸ within))
  rw [joined] at fraction
  have power : (([] : List Digit).length : Int) -
      (numeral.fraction.length - ([] : List Digit).length : Int) +
        numeral.exponent.elim 0 Exponent.value = numeral.decimal.exponent := by
    rw [decimal, List.length_nil]
    dsimp only
    omega
  have scaled : (if 0 ≤ numeral.decimal.exponent then
      (Double.ofInt numeral.decimal.digits).raise? numeral.decimal.exponent.toNat
      else some ((Double.ofInt numeral.decimal.digits).lower numeral.decimal.exponent.natAbs)) =
        some (.signed false numeral.decimal.magnitude) := by
    rw [Decimal.magnitude_eq, Double.ofInt_natCast]
    generalize numeral.decimal = decimal at few near
    split
    · rename_i raises
      have none : (-decimal.exponent).toNat = 0 := by omega
      rw [Double.raise?_ofNat few (by omega), none, Nat.pow_zero]
    · rename_i lowers
      have none : decimal.exponent.toNat = 0 := by omega
      have places : decimal.exponent.natAbs = (-decimal.exponent).toNat := by omega
      rw [places, Double.lower_ofNat few (by omega) (by omega), none, Nat.pow_zero, Nat.mul_one]
  simp only [scaled?, whole, fraction, if_neg (Nat.not_lt.mpr written), power, scaled]
  rw [Option.map_some, double]
  cases numeral.negative <;> rfl

/-! ## Short numbers -/

/-- No layout writes an exponent that is far from that of the decimal. -/
theorem Layout.exponent_numeral_le (layout : Layout) (negative : Bool) (magnitude : Magnitude)
    (few : (layout.numeral negative magnitude).decimal.digits < 2 ^ 53)
    (near : (layout.numeral negative magnitude).decimal.exponent.natAbs ≤ 22) :
    ((layout.numeral negative magnitude).exponent.elim 0 Exponent.value).natAbs ≤ 2147483647 := by
  unfold numeral at *
  dsimp only at *
  split at few
  · rename_i plain
    rw [if_pos plain, positionalNumeral]
    split <;> exact Nat.zero_le _
  · rename_i scientific
    rw [if_neg scientific] at near ⊢
    have length : (Digits.ofNat (magnitude.shortest layout.tie).digits).length ≤ 16 := by
      rw [decimal_scientificNumeral] at few
      exact Digits.length_ofNat_le (Nat.lt_trans few (by decide))
    have places : (layout.scientificNumeral negative (magnitude.shortest layout.tie)
        ((magnitude.shortest layout.tie).exponent +
          (Digits.ofNat (magnitude.shortest layout.tie).digits).length - 1)).fraction.length ≤
            16 := by
      rw [scientificNumeral]
      dsimp only
      rw [List.length_drop]
      omega
    rw [Numeral.decimal] at near
    dsimp only at near
    omega

/-- **A number whose text is short is read back from it.** Its digits fit 53 bits and its power of
ten is at most the 22nd. -/
theorem Double.readsBack_of_short {negative : Bool} {magnitude : Magnitude}
    (finite : magnitude.isFinite = true)
    (few : (doubleLayout.numeral negative magnitude).decimal.digits < 2 ^ 53)
    (near : (doubleLayout.numeral negative magnitude).decimal.exponent.natAbs ≤ 22) :
    (signed negative magnitude).ReadsBack := by
  have written := doubleLayout.exponent_numeral_le negative magnitude few near
  rw [ReadsBack, Json.ofText?, (hasText_node _).ofText?_compactText, Option.bind_some, node,
    if_pos finite, Node.double?, Numeral.scaled?_eq_double few near written,
    doubleLayout.double_numeral negative finite]

/-- The text of an integer of up to fourteen digits is short. -/
theorem Layout.short_numeral_ofNat (layout : Layout) (negative : Bool) {n : Nat}
    (small : 10 * n < 2 ^ 53) :
    (layout.numeral negative (.ofNat n)).decimal.digits < 2 ^ 53 ∧
      (layout.numeral negative (.ofNat n)).decimal.exponent.natAbs ≤ 22 := by
  obtain ⟨exponent, whole, value⟩ := Magnitude.shortest_ofNat layout.tie small
  unfold numeral
  dsimp only
  generalize (Magnitude.ofNat n).shortest layout.tie = decimal at *
  split
  · -- One zero may be written behind the point.
    have natural : 0 ≤ decimal.exponent := by omega
    obtain ⟨zeros, few, written⟩ := layout.decimal_positionalNumeral_whole negative natural
    have ten : 10 ^ zeros ≤ 10 := Nat.pow_le_pow_right (by decide) few
    have product : n * 10 ^ zeros ≤ n * 10 := Nat.mul_le_mul_left n ten
    rw [written, whole, Int.toNat_natCast, Nat.pow_add, ← Nat.mul_assoc, value]
    dsimp only
    omega
  · rename_i scientific
    have filled : 0 < decimal.digits := by
      apply Nat.pos_of_ne_zero
      intro zero
      simp [zero] at scientific
    have scale : 10 ^ exponent ≤ n := value ▸ Nat.le_mul_of_pos_left _ filled
    have digits : decimal.digits ≤ n := value ▸ Nat.le_mul_of_pos_right _ (Nat.pow_pos (by decide))
    have power : exponent < 16 := by
      apply (Nat.pow_lt_pow_iff_right (by decide : 1 < 10)).mp
      exact Nat.lt_of_le_of_lt scale (Nat.lt_trans (by omega : n < 2 ^ 53) (by decide))
    rw [decimal_scientificNumeral]
    omega

/-- **An integer of up to fourteen digits is read back from its text.** -/
theorem Double.readsBack_ofInt {n : Int} (small : 10 * n.natAbs < 2 ^ 53) :
    (ofInt n).ReadsBack := by
  have finite : (Magnitude.ofNat n.natAbs).isFinite = true :=
    Magnitude.isFinite_ofNat (by decide : 53 ≤ 1023) (by omega)
  have short := doubleLayout.short_numeral_ofNat (n < 0) small
  exact readsBack_of_short finite short.1 short.2

end ColumnQuery
