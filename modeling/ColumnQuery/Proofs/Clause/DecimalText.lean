import ColumnQuery.Proofs.Clause.IntegerText
import ColumnQuery.Proofs.Grammar.Decimals

/-!
# Decimals in comparison texts

A comparison of a field with a decimal is read whatever the size of the decimal, and one with an
integer only if the digits fit the word. So a text can hold an infinity without naming it, and its
clause names it.
-/
namespace ColumnQuery

open Grammar Phrase

/-- The text of a comparison of a field with a decimal. -/
def decimalComparison (name : String) (op : Comparison) (literal : DecimalLiteral) : String :=
  name ++ " " ++ op.symbol ++ " " ++ String.ofList literal.chars

/-- A decimal is an operand of the grammar. -/
theorem DecimalLiteral.operand (literal : DecimalLiteral) {rest : List Char}
    (ended : Ended isDigit rest) :
    Operand .factor 0 (literal.chars ++ rest) (.constant (.float literal.double)) rest := by
  refine .literal (Gap.refl _) (.decimal literal.whole_ne_nil literal.fraction_ne_nil ?_ ended)
  rw [chars, List.append_assoc, List.cons_append]

/-- A decimal does not end with white space. -/
theorem DecimalLiteral.endsSolid (literal : DecimalLiteral) : Text.EndsSolid literal.chars := by
  have last := (endsSolid_digits literal.fraction_ne_nil).append
    (Digits.chars literal.whole ++ ['.'])
  rwa [List.append_assoc] at last

/-- The comparison with a decimal is read, and the decimal is rounded. -/
theorem readPredicate_decimalComparison {name : String} {op : Comparison}
    (whole : identifier name.toList = .done name []) (literal : DecimalLiteral) :
    readPredicate (decimalComparison name op literal) =
      .ok (.compare op (.field name) (.constant (.float literal.double))) := by
  have found : Predicate .unary 0 ((decimalComparison name op literal).toList ++ [])
      (.compare op (.field name) (.constant (.float literal.double))) [] :=
    comparison_of_clause whole (literal.operand (ended_nil _))
  rw [List.append_nil] at found
  obtain ⟨front, back⟩ := solid_comparison op whole literal.endsSolid
  refine readPredicate_of_predicate ?_ (Nat.zero_le _)
  have trimmed : Text.trim (decimalComparison name op literal).toList =
      (decimalComparison name op literal).toList := Text.trim_eq_self front back
  rw [trimmed]
  exact .ofConjunction (.ofUnary found)

/-- The clause of a comparison with a decimal that overflows names infinity. -/
theorem predicate_of_overflows (name : String) (op : Comparison) {literal : DecimalLiteral}
    (overflows : literal.Overflows) :
    (Expr.compare op (.field name) (.constant (.float literal.double))).predicate =
      .ok (name ++ " " ++ op.symbol ++ " " ++ "Infinity") := by
  obtain ⟨magnitude, reads⟩ := literal.exists_double
  have beyond : ¬literal.double.isFinite = true :=
    fun finite => literal.isFinite_double.mp finite overflows
  rw [reads, Double.isFinite, Bool.not_eq_true] at beyond
  have named : (Value.float literal.double).literal = "Infinity" := by
    simp [Value.literal, Value.literalChars, reads, Layout.text, beyond, Value.doubleLayout]
  have clause : op.clause name (.float literal.double) =
      name ++ " " ++ op.symbol ++ " " ++ (Value.float literal.double).literal :=
    Comparison.clause_of_symbol fun null => by cases null
  rw [named] at clause
  exact Expr.predicate_compare_eq_ok.mpr ⟨name, _, rfl, rfl, clause⟩

/-- **Decimals are rounded and never refused.** The numbers in the tree of a text are those nearest
to decimals of the text, in the same order. They are positive magnitudes, and all finite exactly if
no decimal overflows. A comparison of a field with any decimal is read, and has the clause of
infinity if the decimal overflows, although one with an integer beyond the word is refused. -/
theorem readPredicate_decimals (text name : String) (op : Comparison) :
    (∀ expr, readPredicate text = .ok expr → ∃ literals : List DecimalLiteral,
      expr.floats = literals.map (·.double) ∧ Holds (Text.trim text.toList) literals [] ∧
        (∀ x ∈ expr.floats, ∃ magnitude, x = .signed false magnitude) ∧
        ((∀ x ∈ expr.floats, x.isFinite = true) ↔ ∀ literal ∈ literals, ¬literal.Overflows)) ∧
    (identifier name.toList = .done name [] →
      (∀ literal : DecimalLiteral, readPredicate (decimalComparison name op literal) =
          .ok (.compare op (.field name) (.constant (.float literal.double))) ∧
        (literal.Overflows →
          (Expr.compare op (.field name) (.constant (.float literal.double))).predicate =
            .ok (name ++ " " ++ op.symbol ++ " " ++ "Infinity"))) ∧
      ∀ n : Int, 9223372036854775807 < n.natAbs →
        readPredicate (integerComparison name op n) =
          .error ⟨0, .unexpected (integerComparison name op n).toList .char⟩) := by
  refine ⟨fun expr reads => ?_, fun whole => ⟨fun literal => ?_, fun n => ?_⟩⟩
  · obtain ⟨literals, same, holds⟩ := rounds_of_readPredicate reads
    refine ⟨literals, same, holds, ?_⟩
    simp only [same, List.forall_mem_map, DecimalLiteral.isFinite_double, and_true]
    exact fun literal _ => literal.exists_double
  · exact ⟨readPredicate_decimalComparison whole literal, predicate_of_overflows name op⟩
  · exact readPredicate_of_beyond whole

/-- The comparison with the decimal on the overflow is read, and its clause names infinity. -/
theorem readPredicate_decimals_overflow :
    identifier "f".toList = .done "f" [] ∧ ∃ literal : DecimalLiteral,
      literal.whole = Digits.ofNat Double.overflow ∧ literal.fraction = [0] ∧ literal.Overflows ∧
      readPredicate (decimalComparison "f" .eq literal) =
        .ok (.compare .eq (.field "f") (.constant (.float literal.double))) ∧
      (Expr.compare .eq (.field "f") (.constant (.float literal.double))).predicate =
        .ok "f = Infinity" := by
  have whole : identifier "f".toList = .done "f" [] := rfl
  have named : "f" ++ " " ++ Comparison.eq.symbol ++ " " ++ "Infinity" = "f = Infinity" := by
    decide
  let literal : DecimalLiteral :=
    ⟨Digits.ofNat Double.overflow, [0], Digits.ofNat_ne_nil _, by decide⟩
  have overflows : literal.Overflows := DecimalLiteral.overflows_tenth.mpr (Nat.le_refl _)
  obtain ⟨reads, written⟩ := ((readPredicate_decimals "" "f" .eq).2 whole).1 literal
  rw [← named]
  exact ⟨whole, literal, rfl, rfl, overflows, reads, written overflows⟩

/-- The comparison with the decimal of 310 digits is read, and its clause names infinity. -/
theorem readPredicate_huge :
    ∃ expr, readPredicate ("f = 1" ++ String.ofList (List.replicate 309 '0') ++ ".0") = .ok expr ∧
      (∃ x, expr.floats = [x] ∧ x.isFinite = false) ∧ expr.predicate = .ok "f = Infinity" := by
  let literal : DecimalLiteral := ⟨1 :: List.replicate 309 0, [0], by decide, by decide⟩
  have written : decimalComparison "f" .eq literal =
      "f = 1" ++ String.ofList (List.replicate 309 '0') ++ ".0" := by decide +kernel
  have named : "f" ++ " " ++ Comparison.eq.symbol ++ " " ++ "Infinity" = "f = Infinity" := by
    decide
  have overflows : literal.Overflows := by decide +kernel
  have infinite : literal.double.isFinite = false :=
    Bool.eq_false_iff.mpr fun finite => literal.isFinite_double.mp finite overflows
  rw [← written, ← named]
  exact ⟨_, readPredicate_decimalComparison rfl literal, ⟨literal.double, rfl, infinite⟩,
    predicate_of_overflows "f" .eq overflows⟩

end ColumnQuery
