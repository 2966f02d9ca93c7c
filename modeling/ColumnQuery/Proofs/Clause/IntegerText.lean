import ColumnQuery.Proofs.Clause.ReadBack

/-!
# Integers in comparison texts

A comparison of a field with an integer is written with the integer in decimal. The minus sign and
the digits are read apart, and the digits alone must fit the word. So whether an integer is read
depends on its size and not on its sign, although the word reaches one further below zero than above
it: the comparison with the least integer has a text that is not read.
-/
namespace ColumnQuery

open Grammar Outcome Phrase

/-! ## Digits beyond the word -/

/-- A number is missed where an integer beyond the word stands. -/
theorem number_misses_of_beyond {digits : List Digit} {rest : List Char}
    (beyond : Bigint.ofInt? (Digits.value digits) = none) (ended : Ended isDigit rest)
    (last : Ended prolongs rest) : (number (Digits.chars digits ++ rest)).Misses := by
  unfold number
  rw [scan_of_ended ended]
  simp only [beyond]
  split
  · exact misses_miss _ _
  · split
    · exact absurd (last _ _ rfl) (by decide)
    · exact misses_miss _ _

/-- A factor is missed where an integer beyond the word stands. -/
theorem factorAt_misses_of_beyond {levels : Nat} {text rest : List Char} {digits : List Digit}
    (filled : digits ≠ []) (gap : Gap text (Digits.chars digits ++ rest))
    (beyond : Bigint.ofInt? (Digits.value digits) = none) (ended : Ended isDigit rest)
    (last : Ended prolongs rest) : (factorAt (levels + 1) text).Misses := by
  have noNumber := number_misses_of_beyond beyond ended last
  have noWord (word : String) (listed : word ∈ ["null", "true", "false"]) :
      (keyword word (Digits.chars digits ++ rest)).Misses := by
    refine keyword_misses_of_digits ?_ filled rest
    revert word
    decide
  have noQuote (digit : Digit) : digit.char ≠ '\'' ∧ digit.char ≠ '"' := by
    revert digit
    decide
  cases digits with
  | nil => contradiction
  | cons digit digits =>
    have numeral := isDigit_char digit
    have begins : beginsToken digit.char = true := by simp [beginsToken, numeral]
    have noLiteral := literal_misses noWord noNumber (noQuote digit).1
    have noField : (fieldName (digit.char :: (Digits.chars digits ++ rest))).Misses :=
      fieldName_misses_of_head (isIdentStart_of_isDigit numeral) (noQuote digit).2
    rw [factorAt_token gap begins, (noLiteral.map _).orElse]
    exact noField.map _

/-- An opposite is missed where its factor is. -/
theorem factorAt_misses_of_opposite {levels : Nat} {text inner : List Char}
    (sign : Gap text ('-' :: inner)) (misses : (factorAt levels inner).Misses) :
    (factorAt (levels + 1) text).Misses := by
  have noOpposite : (preceded (char '-') (factorAt levels) ('-' :: inner)).Misses := by
    simpa only [preceded, char, ↓reduceIte, done_bind] using misses
  exact factorAt_misses sign (by decide) noOpposite (bracketed_misses fun _ same => by cases same)
    (literal_misses_of_head (by decide) (by decide) (by decide))
    (fieldName_misses_of_head (by decide) (by decide))

/-- The decimal text of an integer begins as an operand does. -/
theorem decimalText_begins (n : Int) :
    ∃ c tail, decimalText n = c :: tail ∧ beginsOperand c = true := by
  unfold decimalText
  split
  · exact ⟨'-', _, rfl, by decide⟩
  · obtain ⟨c, tail, written, begins⟩ := chars_begins (Digits.ofNat_ne_nil n.natAbs) []
    rw [List.append_nil] at written
    exact ⟨c, tail, written, beginsOperand_of_token begins⟩

/-- No operand is read from the decimal text of an integer whose size is beyond the word. -/
theorem operandAt_misses_of_beyond {levels : Nat} {n : Int}
    (beyond : 9223372036854775807 < n.natAbs) :
    (operandAt (levels + 2) (decimalText n)).Misses := by
  have refused : Bigint.ofInt? (Digits.value (Digits.ofNat n.natAbs)) = none := by
    rw [Digits.value_ofNat]
    exact Bigint.ofInt?_eq_none_iff.mpr (.inr (by omega))
  have digits (levels : Nat) :
      (factorAt (levels + 1) (Digits.chars (Digits.ofNat n.natAbs))).Misses := by
    refine factorAt_misses_of_beyond (Digits.ofNat_ne_nil _) ?_ refused (ended_nil _) (ended_nil _)
    rw [List.append_nil]
    exact Gap.refl _
  apply operandAt_misses
  unfold decimalText
  split
  · exact factorAt_misses_of_opposite (Gap.refl _) (digits levels)
  · exact digits (levels + 1)

/-! ## Comparisons -/

/-- Where a field and the sign of a comparison stand, a missed comparison is refused at the
field. -/
theorem predicateAt_of_comparison_misses {levels : Nat} {text mid sign next : List Char}
    {name : String} {op : Comparison} (field : Field text name mid) (gap : Gap mid sign)
    (signed : ComparisonSign op sign next)
    (misses : (comparison (operandAt (levels + 1)) text).Misses) :
    predicateAt (levels + 1) text = .miss text .char := by
  have left := field.operand (Gap.refl text)
  have decides := unaryAt_of_comparison left (Nat.succ_pos levels) gap signed
  obtain ⟨c, tail, rfl, begins⟩ := field.begins
  have noBracket : c ≠ '(' := by
    rintro rfl
    revert begins
    decide
  have skipped : Text.skipSeparators (c :: tail) = c :: tail :=
    (Gap.refl _).skip_cons (isSeparator_of_beginsOperand (beginsOperand_of_token begins))
  have noGroup : bracketed (spaced (predicateAt levels)) (c :: tail) = .miss (c :: tail) .char := by
    simp only [bracketed, char, noBracket, ↓reduceIte]
    rfl
  rw [misses.orElse, skipped, noGroup] at decides
  simp only [predicateAt, disjunctionOf, chain, decides]
  rfl

/-- A comparison of a field with something that is no operand is refused from its start on. -/
theorem readPredicate_of_operandAt_misses {name : String} {op : Comparison} {operand : List Char}
    {c : Char} {tail : List Char} (whole : identifier name.toList = .done name [])
    (first : operand = c :: tail) (begins : beginsOperand c = true)
    (ends : Text.EndsSolid operand) (misses : (operandAt (maxDepth + 1) operand).Misses)
    {text : String} (written : text = name ++ " " ++ op.symbol ++ " " ++ String.ofList operand) :
    readPredicate text = .error ⟨0, .unexpected text.toList .char⟩ := by
  have spelled : text.toList = name.toList ++ ' ' :: (op.symbol.toList ++ ' ' :: operand) := by
    rw [written]
    simp
  have trimmed : Text.trim text.toList = text.toList := by
    rw [written]
    obtain ⟨front, back⟩ := solid_comparison op whole ends
    exact Text.trim_eq_self front back
  have field : Field text.toList name (' ' :: (op.symbol.toList ++ ' ' :: operand)) := by
    rw [spelled]
    exact field_of_identifier whole (ended_cons.mpr (by decide))
  have left := field.operand (Gap.refl text.toList)
  have sign := comparisonSign_symbol op (' ' :: operand)
  have skipped : Text.skipSeparators (' ' :: operand) = c :: tail := by
    rw [first]
    exact (gap_space _).skip_cons (isSeparator_of_beginsOperand begins)
  have noComparison : (comparison (operandAt (maxDepth + 1)) text.toList).Misses := by
    rw [comparison_of_sign left (Nat.succ_pos _) (gap_space _) sign skipped begins]
    refine Misses.map (spaced_misses ?_) _
    rw [skipped, ← first]
    exact misses
  have refused := predicateAt_of_comparison_misses field (gap_space _) sign noComparison
  simp only [readPredicate, trimmed, refused, finish, Nat.sub_self]

/-- The text of a comparison of a field with an integer. -/
def integerComparison (name : String) (op : Comparison) (n : Int) : String :=
  name ++ " " ++ op.symbol ++ " " ++ String.ofList (decimalText n)

/-- A comparison with an integer has that text. -/
theorem predicate_integer (name : String) (op : Comparison) (n : Bigint) :
    (Expr.compare op (.field name) (.constant (.int n))).predicate =
      .ok (integerComparison name op n.value) := by
  have clause : op.clause name (.int n) = integerComparison name op n.value :=
    Comparison.clause_of_symbol fun null => by cases null
  rw [← clause]
  exact Expr.predicate_compare_eq_ok.mpr ⟨name, .int n, rfl, rfl, rfl⟩

/-- The comparison with an integer beyond the word, apart from its sign, is refused. -/
theorem readPredicate_of_beyond {name : String} {op : Comparison} {n : Int}
    (whole : identifier name.toList = .done name []) (beyond : 9223372036854775807 < n.natAbs) :
    readPredicate (integerComparison name op n) =
      .error ⟨0, .unexpected (integerComparison name op n).toList .char⟩ := by
  obtain ⟨c, tail, written, begins⟩ := decimalText_begins n
  exact readPredicate_of_operandAt_misses whole written begins (endsSolid_decimalText n)
    (operandAt_misses_of_beyond beyond) rfl

/-- The comparison with an integer whose opposite is a word too is read back. -/
theorem readPredicate_of_opposite {name : String} {op : Comparison} {n : Bigint}
    (whole : identifier name.toList = .done name []) (above : n.value ≠ -9223372036854775808) :
    ∃ right, readPredicate (integerComparison name op n.value) =
      .ok (.compare op (.field name) right) ∧ right.evaluate = .ok (.int n) := by
  have plain := Value.Plain.int above
  obtain ⟨right, evaluated, operand⟩ := plain.operand
  have found : Predicate .unary (Value.int n).minusSigns
      ((integerComparison name op n.value).toList ++ []) (.compare op (.field name) right) [] :=
    comparison_of_clause whole (operand [] (ended_nil _))
  have shallow : (Value.int n).minusSigns ≤ maxDepth := by
    simp only [Value.minusSigns, maxDepth]
    split <;> omega
  obtain ⟨front, back⟩ := solid_comparison op whole (endsSolid_decimalText n.value)
  have trimmed : Text.trim (integerComparison name op n.value).toList =
      (integerComparison name op n.value).toList := Text.trim_eq_self front back
  refine ⟨right, readPredicate_of_predicate ?_ shallow, evaluated⟩
  rw [List.append_nil] at found
  rw [trimmed]
  exact .ofConjunction (.ofUnary found)

/-- **Every word but the least is read back from its comparison.** A comparison of a field with an
integer has the text with the decimal digits of the integer. That text is read as the comparison of
the same field with an operand of the same value if and only if the integer is not the least one;
the text with the least one is refused from its start on. -/
theorem readPredicate_integerComparison (name : String) (op : Comparison) (n : Bigint)
    (whole : identifier name.toList = .done name []) :
    (Expr.compare op (.field name) (.constant (.int n))).predicate =
      .ok (integerComparison name op n.value) ∧
    ((∃ right, readPredicate (integerComparison name op n.value) =
        .ok (.compare op (.field name) right) ∧ right.evaluate = .ok (.int n)) ↔
      n.value ≠ -9223372036854775808) ∧
    (n.value = -9223372036854775808 → readPredicate (integerComparison name op n.value) =
      .error ⟨0, .unexpected (integerComparison name op n.value).toList .char⟩) := by
  have refused (least : n.value = -9223372036854775808) :
      readPredicate (integerComparison name op n.value) =
        .error ⟨0, .unexpected (integerComparison name op n.value).toList .char⟩ :=
    readPredicate_of_beyond whole (by omega)
  refine ⟨predicate_integer name op n, ⟨?_, readPredicate_of_opposite whole⟩, refused⟩
  rintro ⟨right, reads, _⟩ least
  rw [refused least] at reads
  cases reads

/-- The integer after the least one is read back. -/
theorem readPredicate_integerComparison_afterLeast :
    identifier "f".toList = .done "f" [] ∧ ∃ right,
      readPredicate "f = -9223372036854775807" = .ok (.compare .eq (.field "f") right) ∧
        right.evaluate = .ok (.int ⟨-9223372036854775807, by decide, by decide⟩) := by
  have whole : identifier "f".toList = .done "f" [] := rfl
  have written : integerComparison "f" .eq (-9223372036854775807) =
      "f = -9223372036854775807" := by decide +kernel
  obtain ⟨_, reads, _⟩ := readPredicate_integerComparison "f" .eq
    ⟨-9223372036854775807, by decide, by decide⟩ whole
  rw [written] at reads
  exact ⟨whole, reads.mpr (by decide)⟩

/-- The text of the comparison with the least integer is refused. -/
theorem readPredicate_least :
    (Expr.compare .eq (.field "f")
      (.constant (.int ⟨-9223372036854775808, by decide, by decide⟩))).predicate =
        .ok "f = -9223372036854775808" ∧
    readPredicate "f = -9223372036854775808" =
      .error ⟨0, .unexpected "f = -9223372036854775808".toList .char⟩ := by
  have written : integerComparison "f" .eq (-9223372036854775808) =
      "f = -9223372036854775808" := by decide +kernel
  rw [← written]
  exact ⟨predicate_integer "f" .eq ⟨-9223372036854775808, by decide, by decide⟩,
    readPredicate_of_beyond rfl (by decide)⟩

end ColumnQuery
