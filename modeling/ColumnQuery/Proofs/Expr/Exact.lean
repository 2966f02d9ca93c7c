import ColumnQuery.Proofs.Clause.Compile
import ColumnQuery.Proofs.Expr.Erase

/-!
# Integer arithmetic is exact

A tree of arithmetic over integer constants denotes an integer without bounds (`Expr.Denotes`),
unless it divides by zero. Evaluation gives that integer exactly if the integers of all its nodes
are words and no remainder is taken of the least word by minus one (`Expr.Bounded`), and a fault
otherwise; no result wraps. Division is described here by the equation of quotient and remainder, on
which `truncates_iff` bases the functions that evaluation uses.
-/
namespace ColumnQuery

/-! ## Integers -/

/-- The integers that are words. -/
def Bigint.Admits (n : Int) : Prop := -9223372036854775808 ≤ n ∧ n ≤ 9223372036854775807

/-- An integer is admitted exactly if some word holds it. -/
theorem Bigint.admits_iff {n : Int} : Admits n ↔ ∃ word : Bigint, n = word.value := by
  constructor
  · intro fits
    exact ⟨⟨n, fits.1, fits.2⟩, rfl⟩
  · rintro ⟨word, rfl⟩
    exact ⟨word.lower, word.upper⟩

/-- Division with the quotient rounded toward zero: what remains is less than the divisor and never
on the other side of zero than the dividend. -/
structure Truncates (dividend divisor quotient remainder : Int) : Prop where
  /-- Quotient and remainder make up the dividend. -/
  whole : dividend = divisor * quotient + remainder
  /-- The remainder is smaller than the divisor. -/
  small : remainder.natAbs < divisor.natAbs
  /-- A remainder has the sign of its dividend. -/
  signed : (0 ≤ dividend → 0 ≤ remainder) ∧ (dividend ≤ 0 → remainder ≤ 0)

/-- There is one quotient and one remainder, unless the divisor is zero. -/
theorem truncates_iff {a b q r : Int} :
    Truncates a b q r ↔ b ≠ 0 ∧ a.tdiv b = q ∧ a.tmod b = r := by
  have whole := Int.mul_tdiv_add_tmod a b
  have size := Int.natAbs_tmod a b
  constructor
  · rintro ⟨equation, small, above, below⟩
    have nonzero : b ≠ 0 := by omega
    refine ⟨nonzero, ?_⟩
    cases Int.le_total 0 a with
    | inl positive =>
      apply (Int.tdiv_tmod_unique positive nonzero).mpr
      have sign := above positive
      omega
    | inr negative =>
      apply (Int.tdiv_tmod_unique' negative nonzero).mpr
      have sign := below negative
      omega
  · rintro ⟨nonzero, rfl, rfl⟩
    refine ⟨whole.symm, ?_, fun positive => Int.tmod_nonneg b positive, fun negative => ?_⟩
    · rw [size]
      exact Nat.mod_lt _ (by omega)
    · have opposite := Int.tmod_nonneg b (Int.neg_nonneg_of_nonpos negative)
      rw [Int.neg_tmod] at opposite
      omega

/-- The quotient of two words is a word, unless the least word is divided by minus one. -/
theorem Bigint.admits_tdiv {left right : Bigint} (nonzero : right.value ≠ 0)
    (other : ¬ (left.value = -9223372036854775808 ∧ right.value = -1)) :
    Admits (left.value.tdiv right.value) := by
  have lower := left.lower
  have upper := left.upper
  unfold Admits
  by_cases unit : right.value.natAbs = 1
  · by_cases one : right.value = 1
    · rw [one, Int.tdiv_one]
      exact ⟨lower, upper⟩
    · have minusOne : right.value = -1 := by omega
      rw [minusOne, Int.tdiv_neg, Int.tdiv_one]
      omega
  · -- A larger divisor halves the dividend at least.
    have size : (left.value.tdiv right.value).natAbs =
        left.value.natAbs / right.value.natAbs := Int.natAbs_tdiv _ _
    have half : left.value.natAbs / right.value.natAbs ≤ left.value.natAbs / 2 :=
      Nat.div_le_div_left (by omega) (by decide)
    omega

/-- An integer becomes a value exactly if it is a word, and a fault otherwise. -/
theorem Bigint.fitting_eq_ok {n : Int} {fault : Unsupported} {value : Value} :
    (match ofInt? n with
      | some word => Except.ok (Value.int word)
      | none => .error fault) = .ok value ↔
        ∃ word : Bigint, value = .int word ∧ word.value = n := by
  cases admitted : ofInt? n with
  | some word =>
    have same := ofInt?_eq_some_iff.mp admitted
    constructor
    · intro found
      cases found
      exact ⟨word, rfl, same.symm⟩
    · rintro ⟨other, rfl, same'⟩
      rw [ext_value (same'.trans same)]
  | none =>
    constructor
    · intro impossible
      contradiction
    · rintro ⟨word, _, same⟩
      rw [← same, ofInt?_value] at admitted
      contradiction

/-! ## Operations -/

/-- The result of an operation on integers without bounds. -/
def Arithmetic.Yields : Arithmetic → Int → Int → Int → Prop
  | add, a, b, n => n = a + b
  | sub, a, b, n => n = a - b
  | mul, a, b, n => n = a * b
  | div, a, b, n => ∃ remainder, Truncates a b n remainder
  | rem, a, b, n => ∃ quotient, Truncates a b quotient n

/-- A division yields the rounded quotient, unless the divisor is zero. -/
theorem Arithmetic.yields_div_iff {a b n : Int} :
    div.Yields a b n ↔ b ≠ 0 ∧ n = a.tdiv b := by
  constructor
  · rintro ⟨remainder, division⟩
    have exact := truncates_iff.mp division
    exact ⟨exact.1, exact.2.1.symm⟩
  · rintro ⟨nonzero, rfl⟩
    exact ⟨a.tmod b, truncates_iff.mpr ⟨nonzero, rfl, rfl⟩⟩

/-- A remainder is the one of the rounded quotient, unless the divisor is zero. -/
theorem Arithmetic.yields_rem_iff {a b n : Int} :
    rem.Yields a b n ↔ b ≠ 0 ∧ n = a.tmod b := by
  constructor
  · rintro ⟨quotient, division⟩
    have exact := truncates_iff.mp division
    exact ⟨exact.1, exact.2.2.symm⟩
  · rintro ⟨nonzero, rfl⟩
    exact ⟨a.tdiv b, truncates_iff.mpr ⟨nonzero, rfl, rfl⟩⟩

/-- An operation has one result at most. -/
theorem Arithmetic.Yields.unique {op : Arithmetic} {a b n m : Int} (first : op.Yields a b n)
    (second : op.Yields a b m) : n = m := by
  cases op with
  | add | sub | mul => exact Eq.trans first (Eq.symm second)
  | div => exact (yields_div_iff.mp first).2.trans (yields_div_iff.mp second).2.symm
  | rem => exact (yields_rem_iff.mp first).2.trans (yields_rem_iff.mp second).2.symm

/-- The remainder of the least word by minus one, whose quotient is no word. -/
def Arithmetic.LeastRemainder (op : Arithmetic) (a b : Int) : Prop :=
  op = .rem ∧ a = -9223372036854775808 ∧ b = -1

/-- An operation on words gives its result on integers exactly if that is a word. -/
theorem Arithmetic.onInts_eq_ok {op : Arithmetic} {left right : Bigint} {value : Value} :
    op.onInts left right = .ok value ↔ ∃ n : Bigint, value = .int n ∧
      op.Yields left.value right.value n.value ∧ ¬ op.LeastRemainder left.value right.value := by
  -- The two sides agree where the operation always has a result, and only its size matters.
  have sized {n : Int} {fault : Unsupported} (free : ¬ op.LeastRemainder left.value right.value)
      (yields : ∀ m, op.Yields left.value right.value m ↔ m = n) :
      (match Bigint.ofInt? n with
        | some word => Except.ok (Value.int word)
        | none => .error fault) = .ok value ↔ ∃ word : Bigint, value = .int word ∧
          op.Yields left.value right.value word.value ∧
            ¬ op.LeastRemainder left.value right.value := by
    simp only [yields, free, not_false_eq_true, and_true]
    exact Bigint.fitting_eq_ok
  -- Neither side holds where it has none.
  have faulty {fault : Unsupported} (none : ∀ m, ¬ (op.Yields left.value right.value m ∧
      ¬ op.LeastRemainder left.value right.value)) :
      (Except.error fault : Except Unsupported Value) = .ok value ↔ ∃ word : Bigint,
        value = .int word ∧ op.Yields left.value right.value word.value ∧
          ¬ op.LeastRemainder left.value right.value := by
    simp only [reduceCtorEq, false_iff, not_exists, not_and]
    intro word _ yields
    exact not_and.mp (none word.value) yields
  cases op with
  | add | sub | mul => exact sized (fun least => by cases least.1) fun m => Iff.rfl
  | div =>
    by_cases zero : right.value = 0
    · rw [onInts, if_pos zero]
      exact faulty fun m result => (yields_div_iff.mp result.1).1 zero
    · rw [onInts, if_neg zero]
      apply sized (fun least => by cases least.1)
      intro m
      rw [yields_div_iff]
      exact and_iff_right zero
  | rem =>
    by_cases zero : right.value = 0
    · rw [onInts, if_pos zero]
      exact faulty fun m result => (yields_rem_iff.mp result.1).1 zero
    · rw [onInts, if_neg zero]
      by_cases least : rem.LeastRemainder left.value right.value
      · have outside : Bigint.ofInt? (left.value.tdiv right.value) = none := by
          rw [least.2.1, least.2.2]
          decide
        rw [outside]
        exact faulty fun m result => result.2 least
      · have inside : Bigint.Admits (left.value.tdiv right.value) :=
          Bigint.admits_tdiv zero fun same => least ⟨rfl, same⟩
        obtain ⟨quotient, same⟩ := Bigint.admits_iff.mp inside
        rw [Bigint.ofInt?_eq_some_iff.mpr same]
        apply sized least
        intro m
        rw [yields_rem_iff]
        exact and_iff_right zero

/-- The opposite of a word is its opposite as an integer, if that is a word. -/
theorem Value.negated_int_eq_ok {n : Bigint} {value : Value} :
    (Value.int n).negated = .ok value ↔ ∃ m : Bigint, value = .int m ∧ m.value = -n.value :=
  Bigint.fitting_eq_ok

/-! ## Trees -/

namespace Expr

/-- Arithmetic over integer constants. -/
inductive Integral : Expr → Prop where
  | constant (n : Bigint) : Integral (.constant (.int n))
  | arithmetic {op : Arithmetic} {left right : Expr} (first : Integral left)
      (second : Integral right) : Integral (.arithmetic op left right)
  | negate {operand : Expr} (inside : Integral operand) : Integral (.negate operand)

/-- The integer that a tree denotes without bounds. A tree denotes none if a divisor in it is
zero. -/
inductive Denotes : Expr → Int → Prop where
  | constant (n : Bigint) : Denotes (.constant (.int n)) n.value
  | arithmetic {op : Arithmetic} {left right : Expr} {a b n : Int} (first : Denotes left a)
      (second : Denotes right b) (yields : op.Yields a b n) : Denotes (.arithmetic op left right) n
  | negate {operand : Expr} {n : Int} (inside : Denotes operand n) : Denotes (.negate operand) (-n)

/-- Every node of a tree denotes words only, and no remainder is taken of the least word by minus
one. -/
inductive Bounded : Expr → Prop where
  | constant (n : Bigint) : Bounded (.constant (.int n))
  | arithmetic {op : Arithmetic} {left right : Expr} (first : Bounded left)
      (second : Bounded right)
      (fits : ∀ n, Denotes (.arithmetic op left right) n → Bigint.Admits n)
      (quotient : ∀ a b, Denotes left a → Denotes right b → ¬ op.LeastRemainder a b) :
      Bounded (.arithmetic op left right)
  | negate {operand : Expr} (inside : Bounded operand)
      (fits : ∀ n, Denotes (.negate operand) n → Bigint.Admits n) : Bounded (.negate operand)

/-- A tree denotes one integer at most. -/
theorem Denotes.unique {expr : Expr} {n m : Int} (first : expr.Denotes n)
    (second : expr.Denotes m) : n = m := by
  induction first generalizing m with
  | constant n =>
    cases second
    rfl
  | arithmetic left right yields ihLeft ihRight =>
    cases second with
    | arithmetic left' right' yields' =>
      have a := ihLeft left'
      have b := ihRight right'
      subst a
      subst b
      exact yields.unique yields'
  | negate inside ih =>
    cases second with
    | negate inside' => rw [ih inside']

/-- A bounded tree denotes a word. -/
theorem Bounded.exists_word {expr : Expr} {n : Int} (bounded : expr.Bounded)
    (denotes : expr.Denotes n) : ∃ word : Bigint, n = word.value := by
  cases bounded with
  | constant word => exact ⟨word, denotes.unique (.constant word)⟩
  | arithmetic first second fits quotient => exact Bigint.admits_iff.mp (fits n denotes)
  | negate inside fits => exact Bigint.admits_iff.mp (fits n denotes)

/-- A tree that denotes a word denotes nothing but words. -/
theorem Denotes.admits {expr : Expr} {word : Bigint} (denotes : expr.Denotes word.value) (n : Int)
    (other : expr.Denotes n) : Bigint.Admits n :=
  Bigint.admits_iff.mpr ⟨word, other.unique denotes⟩

/-- A tree evaluates to what it denotes, if it is bounded, and to nothing else. -/
theorem Integral.evaluate_eq_ok {expr : Expr} (integral : expr.Integral) {value : Value} :
    expr.evaluate = .ok value ↔
      ∃ n : Bigint, value = .int n ∧ expr.Denotes n.value ∧ expr.Bounded := by
  induction integral generalizing value with
  | constant n =>
    constructor
    · intro found
      cases found
      exact ⟨n, rfl, .constant n, .constant n⟩
    · rintro ⟨m, rfl, denotes, _⟩
      rw [Bigint.ext_value (denotes.unique (.constant n))]
      rfl
  | @arithmetic op left right first second ihFirst ihSecond =>
    rw [evaluate, bind_eq_ok]
    constructor
    · rintro ⟨_, evaluatesLeft, evaluates⟩
      obtain ⟨_, evaluatesRight, applies⟩ := bind_eq_ok.mp evaluates
      obtain ⟨a, rfl, denotesLeft, boundedLeft⟩ := ihFirst.mp evaluatesLeft
      obtain ⟨b, rfl, denotesRight, boundedRight⟩ := ihSecond.mp evaluatesRight
      obtain ⟨n, rfl, yields, quotient⟩ := Arithmetic.onInts_eq_ok.mp applies
      have denotes : (Expr.arithmetic op left right).Denotes n.value :=
        .arithmetic denotesLeft denotesRight yields
      refine ⟨n, rfl, denotes, .arithmetic boundedLeft boundedRight denotes.admits ?_⟩
      intro c d denotes' denotes''
      rw [denotes'.unique denotesLeft, denotes''.unique denotesRight]
      exact quotient
    · rintro ⟨n, rfl, denotes, bounded⟩
      cases denotes with
      | arithmetic denotesLeft denotesRight yields =>
        cases bounded with
        | arithmetic boundedLeft boundedRight fits quotient =>
          have free := quotient _ _ denotesLeft denotesRight
          obtain ⟨a, rfl⟩ := boundedLeft.exists_word denotesLeft
          obtain ⟨b, rfl⟩ := boundedRight.exists_word denotesRight
          have evaluatesLeft := ihFirst.mpr ⟨a, rfl, denotesLeft, boundedLeft⟩
          have evaluatesRight := ihSecond.mpr ⟨b, rfl, denotesRight, boundedRight⟩
          have applies := Arithmetic.onInts_eq_ok.mpr ⟨n, rfl, yields, free⟩
          exact ⟨.int a, evaluatesLeft, bind_eq_ok.mpr ⟨.int b, evaluatesRight, applies⟩⟩
  | @negate operand inside ih =>
    rw [evaluate, bind_eq_ok]
    constructor
    · rintro ⟨_, evaluates, negated⟩
      obtain ⟨a, rfl, denotes, bounded⟩ := ih.mp evaluates
      obtain ⟨n, rfl, opposite⟩ := Value.negated_int_eq_ok.mp negated
      have denotes' : (Expr.negate operand).Denotes n.value := opposite ▸ .negate denotes
      exact ⟨n, rfl, denotes', .negate bounded denotes'.admits⟩
    · rintro ⟨n, rfl, denotes, bounded⟩
      generalize opposite : n.value = m at denotes
      cases denotes with
      | negate denotesInside =>
        cases bounded with
        | negate boundedInside fits =>
          obtain ⟨a, rfl⟩ := boundedInside.exists_word denotesInside
          have evaluates := ih.mpr ⟨a, rfl, denotesInside, boundedInside⟩
          exact ⟨.int a, evaluates, Value.negated_int_eq_ok.mpr ⟨n, rfl, opposite⟩⟩

/-- **Integer arithmetic is exact and never wraps.** In any wrappers, a tree of arithmetic over
integer constants evaluates to a word exactly if it denotes that word without bounds, no divisor in
it is zero, all its nodes are words and no remainder is taken of the least word by minus one. All
else is a fault and no other value. -/
theorem evaluate_exact {expr : Expr} (integral : expr.erase.Integral) :
    (∀ n : Bigint, expr.evaluate = .ok (.int n) ↔
      expr.erase.Denotes n.value ∧ expr.erase.Bounded) ∧
    ((∃ n, expr.evaluate = .ok (.int n)) ∨
      ∃ cause : Unsupported, expr.evaluate = .error cause) := by
  rw [← evaluate_erase]
  constructor
  · intro n
    rw [integral.evaluate_eq_ok]
    constructor
    · rintro ⟨m, same, exact⟩
      cases same
      exact exact
    · intro exact
      exact ⟨n, rfl, exact⟩
  · cases evaluates : expr.erase.evaluate with
    | ok value =>
      obtain ⟨n, rfl, _⟩ := integral.evaluate_eq_ok.mp evaluates
      exact .inl ⟨n, rfl⟩
    | error cause => exact .inr ⟨cause, rfl⟩

/-- The least word is reached from the greatest, and its last digit keeps its sign. -/
theorem evaluate_exact_least :
    let greatest := Expr.constant (.int ⟨9223372036854775807, by decide, by decide⟩)
    let one := Expr.constant (.int ⟨1, by decide, by decide⟩)
    let ten := Expr.quote (.constant (.int ⟨10, by decide, by decide⟩))
    let digit := Expr.arithmetic .rem (.lambda (.arithmetic .sub (.negate greatest) one)) ten
    digit.erase.Integral ∧ digit.evaluate = .ok (.int ⟨-8, by decide, by decide⟩) ∧
      digit.erase.Denotes (-8) ∧ digit.erase.Bounded := by
  intro greatest one ten digit
  have integral : digit.erase.Integral :=
    .arithmetic (.arithmetic (.negate (.constant _)) (.constant _)) (.constant _)
  have evaluates : digit.evaluate = .ok (.int ⟨-8, by decide, by decide⟩) := by rfl
  exact ⟨integral, evaluates, ((evaluate_exact integral).1 _).mp evaluates⟩

end Expr

end ColumnQuery
