import ColumnQuery.Proofs.Grammar.Predicate
import ColumnQuery.Proofs.Json.Expr
import ColumnQuery.Proofs.Number.Overflow

/-!
# Decimals in predicate texts

Every floating point number in the tree of a predicate text is the nearest number to a decimal in
the text, and the numbers stand in the tree in the order of their decimals. A decimal has no sign
and no exponent; it can have any number of digits, so the nearest number can be an infinity. It is
one exactly from `Double.overflow` on (`DecimalLiteral.isFinite_double`).
-/
namespace ColumnQuery

/-- A decimal as predicate texts have it: digits, a point, and digits. -/
structure DecimalLiteral where
  /-- The digits before the point. -/
  whole : List Digit
  /-- The digits after the point. -/
  fraction : List Digit
  /-- There is a digit before the point. -/
  whole_ne_nil : whole ≠ []
  /-- There is a digit after the point. -/
  fraction_ne_nil : fraction ≠ []

namespace DecimalLiteral

/-- The characters of the decimal. -/
def chars (literal : DecimalLiteral) : List Char :=
  Digits.chars literal.whole ++ '.' :: Digits.chars literal.fraction

/-- The decimal as a numeral. -/
def numeral (literal : DecimalLiteral) : Numeral :=
  { negative := false, whole := literal.whole, fraction := literal.fraction }

/-- The number nearest to the decimal. -/
def double (literal : DecimalLiteral) : Double := literal.numeral.double

/-- The decimal is not below the overflow. -/
def Overflows (literal : DecimalLiteral) : Prop :=
  Double.overflow * 10 ^ literal.fraction.length ≤ Digits.value (literal.whole ++ literal.fraction)

instance (literal : DecimalLiteral) : Decidable literal.Overflows :=
  inferInstanceAs (Decidable (_ ≤ _))

/-- A natural with one digit after the point overflows exactly if the natural alone does. -/
theorem overflows_tenth {n : Nat} {digit : Digit} {filled further} :
    (⟨Digits.ofNat n, [digit], filled, further⟩ : DecimalLiteral).Overflows ↔
      Double.overflow ≤ n := by
  rw [Overflows, Digits.value_append_singleton, Digits.value_ofNat]
  -- The power of two must not be evaluated.
  generalize Double.overflow = least
  show least * 10 ≤ n * 10 + digit.val ↔ least ≤ n
  omega

/-- The number nearest to a decimal is a positive magnitude. -/
theorem exists_double (literal : DecimalLiteral) :
    ∃ magnitude, literal.double = .signed false magnitude := ⟨_, rfl⟩

/-- The number nearest to a decimal is finite exactly if the decimal does not overflow. -/
theorem isFinite_double (literal : DecimalLiteral) :
    literal.double.isFinite = true ↔ ¬literal.Overflows := by
  have places : literal.numeral.decimal =
      ⟨Digits.value (literal.whole ++ literal.fraction), -literal.fraction.length⟩ :=
    congrArg (Decimal.mk _) (Int.zero_sub _)
  show literal.numeral.decimal.magnitude.isFinite = true ↔ _
  rw [places, Decimal.isFinite_magnitude_iff, Overflows, Nat.not_le]

end DecimalLiteral

namespace Phrase

open Grammar

/-! ## Decimals between two places -/

/-- Decimals stand one after another between two places of a text, whatever stands around them. -/
def Holds : List Char → List DecimalLiteral → List Char → Prop
  | text, [], rest => rest <:+ text
  | text, literal :: literals, rest =>
    ∃ mid, literal.chars ++ mid <:+ text ∧ Holds mid literals rest

/-- What stands behind a place stands behind any place before it. -/
theorem Holds.of_suffix {text mid rest : List Char} {literals : List DecimalLiteral}
    (behind : mid <:+ text) (holds : Holds mid literals rest) : Holds text literals rest := by
  cases literals with
  | nil => exact List.IsSuffix.trans holds behind
  | cons literal literals =>
    obtain ⟨next, written, others⟩ := holds
    exact ⟨next, written.trans behind, others⟩

/-- Decimals up to a place and those behind it stand in a row. -/
theorem Holds.append {text mid rest : List Char} {literals literals' : List DecimalLiteral}
    (before : Holds text literals mid) (after : Holds mid literals' rest) :
    Holds text (literals ++ literals') rest := by
  induction literals generalizing text with
  | nil => exact after.of_suffix before
  | cons literal literals ih =>
    obtain ⟨next, written, others⟩ := before
    exact ⟨next, written, ih others⟩

/-- Some numbers are those nearest to decimals that stand in order between two places. -/
def Rounds (text : List Char) (floats : List Double) (rest : List Char) : Prop :=
  ∃ literals : List DecimalLiteral, floats = literals.map (·.double) ∧ Holds text literals rest

/-- Where nothing is rounded, anything may stand. -/
theorem Rounds.nil {text rest : List Char} (behind : rest <:+ text) : Rounds text [] rest :=
  ⟨[], rfl, behind⟩

/-- The numbers of two parts in a row are those of both. -/
theorem Rounds.append {text mid rest : List Char} {floats floats' : List Double}
    (before : Rounds text floats mid) (after : Rounds mid floats' rest) :
    Rounds text (floats ++ floats') rest := by
  obtain ⟨literals, rfl, holds⟩ := before
  obtain ⟨literals', rfl, holds'⟩ := after
  exact ⟨literals ++ literals', List.map_append.symm, holds.append holds'⟩

/-- Numbers may have any text before them. -/
theorem Rounds.of_suffix {text mid rest : List Char} {floats : List Double}
    (behind : mid <:+ text) (rounds : Rounds mid floats rest) : Rounds text floats rest := by
  obtain ⟨literals, same, holds⟩ := rounds
  exact ⟨literals, same, holds.of_suffix behind⟩

/-- Numbers may have any text behind them. -/
theorem Rounds.before {text mid rest : List Char} {floats : List Double}
    (rounds : Rounds text floats mid) (behind : rest <:+ mid) : Rounds text floats rest := by
  have further := rounds.append (.nil behind)
  rwa [List.append_nil] at further

/-! ## Phrases -/

/-- A literal has the number of its decimal, if it is one. -/
theorem Literal.rounds {text rest : List Char} {value : Value} (found : Literal text value rest) :
    Rounds text value.floats rest := by
  have behind := found.takes.suffix
  cases found with
  | decimal filled further written ended =>
    have whole : (DecimalLiteral.mk _ _ filled further).chars ++ rest = text := by
      rw [written, DecimalLiteral.chars, List.append_assoc, List.cons_append]
    exact ⟨[⟨_, _, filled, further⟩], rfl, rest, whole ▸ List.suffix_refl _, List.suffix_refl _⟩
  | nullWord | trueWord | falseWord | integer | text => exact .nil behind

/-- An operand has the numbers of its decimals. -/
theorem Operand.rounds {rank : OperandRank} {depth : Nat} {text rest : List Char} {operand : Expr}
    (found : Operand rank depth text operand rest) : Rounds text operand.floats rest := by
  induction found with
  | literal gap literal => exact literal.rounds.of_suffix gap.suffix
  | field gap field => exact .nil (gap.takes field.takes).suffix
  | opposite sign factor ih => exact ih.of_suffix (sign.takes (takes_cons _ _)).suffix
  | group opening sum closing ih =>
    have inside := ih.of_suffix (opening.takes (takes_cons _ _)).suffix
    exact inside.before (closing.takes (takes_cons _ _)).suffix
  | ofFactor factor ih => exact ih
  | times before gap signed after ihBefore ihAfter =>
    exact ihBefore.append (ihAfter.of_suffix (gap.takes (takes_symbol signed.2)).suffix)
  | ofProduct product ih => exact ih
  | plus before gap signed after ihBefore ihAfter =>
    exact ihBefore.append (ihAfter.of_suffix (gap.takes (takes_symbol signed.2)).suffix)

/-- Items have the numbers of their decimals. -/
theorem Items.rounds {depth : Nat} {text rest : List Char} {items : List Expr}
    (found : Items depth text items rest) : Rounds text (Expr.floatsIn items) rest := by
  induction found with
  | one last =>
    rw [Expr.floatsIn, Expr.floatsIn, List.append_nil]
    exact last.rounds
  | more first comma others ih =>
    exact first.rounds.append (ih.of_suffix (comma.takes (takes_cons _ _)).suffix)

/-- A set has the numbers of its decimals. -/
theorem ItemSet.rounds {depth : Nat} {text rest : List Char} {items : List Expr}
    (found : ItemSet depth text items rest) : Rounds text (Expr.floatsIn items) rest := by
  have behind := found.takes.suffix
  cases found with
  | empty opening closing => exact .nil behind
  | items opening listed closing =>
    have inside := listed.rounds.of_suffix (opening.takes (takes_cons _ _)).suffix
    exact inside.before (closing.takes (takes_cons _ _)).suffix

/-- **A predicate has the numbers of its decimals**, in the order of the text. -/
theorem Predicate.rounds {rank : PredicateRank} {depth : Nat} {text rest : List Char}
    {predicate : Expr} (found : Predicate rank depth text predicate rest) :
    Rounds text predicate.floats rest := by
  induction found with
  | denial gap sign unary ih => exact ih.of_suffix (gap.takes sign.takes).suffix
  | group opening disjunction closing ih =>
    have inside := ih.of_suffix (opening.takes (takes_cons _ _)).suffix
    exact inside.before (closing.takes (takes_cons _ _)).suffix
  | membership gap field between keyword listed =>
    have front := (gap.takes field.takes).trans (between.takes (keyword.takes (by decide)))
    exact listed.rounds.of_suffix front.suffix
  | comparison before gap signed after =>
    exact before.rounds.append (after.rounds.of_suffix (gap.takes signed.takes).suffix)
  | ofUnary unary ih => exact ih
  | and before gap signed after ihBefore ihAfter =>
    exact ihBefore.append (ihAfter.of_suffix (gap.takes signed.takes).suffix)
  | ofConjunction conjunction ih => exact ih
  | or before gap signed after ihBefore ihAfter =>
    exact ihBefore.append (ihAfter.of_suffix (gap.takes signed.takes).suffix)

end Phrase

/-- The numbers in the tree of a predicate text are those of its decimals. -/
theorem Grammar.rounds_of_readPredicate {text : String} {expr : Expr}
    (reads : readPredicate text = .ok expr) :
    Phrase.Rounds (Text.trim text.toList) expr.floats [] := by
  obtain ⟨depth, _, found⟩ := predicate_of_readPredicate reads
  exact found.rounds

end ColumnQuery
