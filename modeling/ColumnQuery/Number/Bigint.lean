/-!
# Sixty-four-bit integers

A `Bigint` is an integer in the range of a signed 64-bit word and carries the proof that it is.
Arithmetic is done on `Int` and admitted again by `Bigint.ofInt?`, so no operation can wrap.
-/
namespace ColumnQuery

/-- The values of the column type `bigint`. -/
structure Bigint where
  /-- The integer itself. -/
  value : Int
  /-- It is not below the least signed word. -/
  lower : -9223372036854775808 ≤ value
  /-- It is not above the greatest signed word. -/
  upper : value ≤ 9223372036854775807
deriving DecidableEq

namespace Bigint

/-- Two words of one value are the same word. -/
theorem ext_value {left right : Bigint} (same : left.value = right.value) : left = right := by
  cases left
  cases right
  cases same
  rfl

/-- Admits an integer exactly when it fits the word. -/
def ofInt? (n : Int) : Option Bigint :=
  if fits : -9223372036854775808 ≤ n ∧ n ≤ 9223372036854775807 then some ⟨n, fits.1, fits.2⟩
  else none

/-- An admitted word holds the integer it was made from. -/
theorem ofInt?_eq_some_iff {n : Int} {word : Bigint} : ofInt? n = some word ↔ n = word.value := by
  unfold ofInt?
  split
  · constructor
    · rintro ⟨⟩
      rfl
    · intro same
      subst same
      rfl
  · rename_i outside
    constructor
    · intro admitted
      contradiction
    · intro same
      exact absurd ⟨same ▸ word.lower, same ▸ word.upper⟩ outside

/-- Every word is admitted as itself. -/
theorem ofInt?_value (word : Bigint) : ofInt? word.value = some word :=
  ofInt?_eq_some_iff.mpr rfl

/-- Refusal is exactly being outside the word. -/
theorem ofInt?_eq_none_iff {n : Int} :
    ofInt? n = none ↔ n < -9223372036854775808 ∨ 9223372036854775807 < n := by
  unfold ofInt?
  split
  · constructor
    · intro admitted
      contradiction
    · omega
  · constructor
    · omega
    · intro
      rfl

end Bigint

end ColumnQuery
