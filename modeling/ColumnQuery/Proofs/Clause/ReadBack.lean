import ColumnQuery.Proofs.Clause.Compile
import ColumnQuery.Proofs.Clause.Restate
import ColumnQuery.Proofs.Grammar.Predicate

/-!
# Clauses read back

The clause of a predicate is a predicate of the grammar again, in front of any text that does not go
on with its last word. `Value.Plain` and `Expr.Readable` say for which values and predicates this
holds; what is read back restates the predicate. A negative integer comes back as the opposite of a
positive one, which costs one level of nesting; the least integer has no positive one to come back
from.
-/
namespace ColumnQuery

open Grammar Phrase

/-! ## Values -/

/-- The values whose literals are literals of the grammar, apart from a minus sign. -/
inductive Value.Plain : Value → Prop where
  | null : Plain .null
  | bool (b : Bool) : Plain (.bool b)
  | int {n : Bigint} (above : n.value ≠ -9223372036854775808) : Plain (.int n)
  | text (s : String) : Plain (.text s)

/-- The minus signs before the literal of a value. -/
def Value.minusSigns : Value → Nat
  | int n => if n.value < 0 then 1 else 0
  | _ => 0

/-- The greatest number of minus signs before the literal of one of some values. -/
def Value.minusSignsIn (items : List Value) : Nat := (items.map minusSigns).foldr max 0

/-- A word is a keyword of the grammar in any case. -/
theorem keyword_of_word {word : String} (letters : List Char) {rest : List Char}
    (spelled : lowered letters = word.toList) (ended : Ended isIdentChar rest) :
    Keyword word (letters ++ rest) rest := ⟨letters, spelled, rfl, ended⟩

/-- The digits of a natural number that fits the word are an integer of the grammar. -/
theorem literal_of_digits {n : Bigint} {m : Nat} {rest : List Char} (value : n.value = m)
    (ended : Ended isIdentChar rest) :
    Literal (Digits.chars (Digits.ofNat m) ++ rest) (.int n) rest := by
  refine .integer (Digits.ofNat_ne_nil m) rfl (ended.mono fun c => isIdentChar_of_isDigit) ?_
  rw [Digits.value_ofNat, value]

/-- The literal of a plain value without a minus sign is a literal of the grammar. -/
theorem Value.Plain.literal {value : Value} (plain : value.Plain) (unsigned : value.minusSigns = 0)
    {rest : List Char} (ended : Ended isIdentChar rest) :
    Literal (value.literalChars ++ rest) value rest := by
  cases plain with
  | null => exact .nullWord (keyword_of_word _ (by decide) ended)
  | bool b =>
    cases b with
    | true => exact .trueWord (keyword_of_word _ (by decide) ended)
    | false => exact .falseWord (keyword_of_word _ (by decide) ended)
  | @int n above =>
    have positive : ¬ n.value < 0 := by
      intro negative
      simp only [minusSigns, if_pos negative] at unsigned
      contradiction
    simp only [literalChars, decimalText, if_neg positive]
    exact literal_of_digits (by omega) ended
  | text s =>
    have found : Literal (Text.Quoted.encode s.toList ++ rest)
        (.text (String.ofList s.toList)) rest := .text rfl
    rwa [String.ofList_toList] at found

/-- The literal of a plain value is an operand of the grammar with that value. -/
theorem Value.Plain.operand {value : Value} (plain : value.Plain) :
    ∃ operand : Expr, operand.evaluate = .ok value ∧ ∀ rest, Ended isIdentChar rest →
      Operand .factor value.minusSigns (value.literalChars ++ rest) operand rest := by
  have unsignedOperand (unsigned : value.minusSigns = 0) :
      ∃ operand : Expr, operand.evaluate = .ok value ∧ ∀ rest, Ended isIdentChar rest →
        Operand .factor value.minusSigns (value.literalChars ++ rest) operand rest := by
    refine ⟨.constant value, rfl, fun rest ended => ?_⟩
    rw [unsigned]
    exact .literal (Gap.refl _) (plain.literal unsigned ended)
  cases plain with
  | @int n above =>
    by_cases negative : n.value < 0
    · have fits : (n.value.natAbs : Int) ≤ 9223372036854775807 := by
        have lower := n.lower
        omega
      have opposite : -(n.value.natAbs : Int) = n.value := by omega
      refine ⟨.negate (.constant (.int ⟨n.value.natAbs, by omega, fits⟩)), ?_, fun rest ended => ?_⟩
      · simp only [Expr.evaluate, bind_eq_ok]
        refine ⟨_, rfl, ?_⟩
        simp only [Value.negated, opposite, Bigint.ofInt?_value]
      · simp only [Value.minusSigns, Value.literalChars, decimalText, if_pos negative,
          List.cons_append]
        exact .opposite (Gap.refl _) (.literal (Gap.refl _) (literal_of_digits rfl ended))
    · exact unsignedOperand (if_neg negative)
  | null | bool | text => exact unsignedOperand rfl

/-- The literals of plain values with commas between are items of the grammar with those values. -/
theorem items_of_plain {first : Value} {others : List Value}
    (plain : ∀ item ∈ first :: others, item.Plain) :
    ∃ operands, Expr.evaluateItems operands = .ok (first :: others) ∧ ∀ rest,
      Items (Value.minusSignsIn (first :: others))
        (Value.literalsChars (first :: others) ++ ')' :: rest) operands (')' :: rest) := by
  induction others generalizing first with
  | nil =>
    obtain ⟨operand, evaluated, found⟩ := (plain first List.mem_cons_self).operand
    refine ⟨[operand], ?_, fun rest => ?_⟩
    · rw [Expr.evaluateItems, evaluated]
      rfl
    · have last := found (')' :: rest) (ended_cons.mpr (by decide))
      have alone : Value.minusSignsIn [first] = first.minusSigns := Nat.max_zero _
      rw [alone]
      exact .one (.ofProduct (.ofFactor last))
  | cons second others ih =>
    obtain ⟨operand, evaluated, found⟩ := (plain first List.mem_cons_self).operand
    obtain ⟨operands, evaluatedOthers, listed⟩ :=
      ih fun item member => plain item (List.mem_cons_of_mem _ member)
    refine ⟨operand :: operands, ?_, fun rest => ?_⟩
    · rw [Expr.evaluateItems, evaluated, evaluatedOthers]
      rfl
    · have item := found (',' :: (Value.literalsChars (second :: others) ++ ')' :: rest))
        (ended_cons.mpr (by decide))
      simp only [Value.literalsChars, List.append_assoc, List.cons_append]
      exact .more (.ofProduct (.ofFactor item)) (Gap.refl _) (listed rest)

/-! ## Predicates -/

/-- The predicates whose clauses are predicates of the grammar: comparisons and memberships of
fields that are named by identifiers with plain values, combined and denied in any way and inside
any wrappers. Equality and inequality with null have words of their own, which the grammar lacks. -/
inductive Expr.Readable : Expr → Prop where
  | compare {op : Comparison} {left right : Expr} {name : String} {value : Value}
      (named : left.fieldName = .ok name) (whole : identifier name.toList = .done name [])
      (evaluated : right.evaluate = .ok value) (plain : value.Plain)
      (symbolic : value = .null → op ≠ .eq ∧ op ≠ .ne) : Readable (compare op left right)
  | logical {op : Connective} {left right : Expr} (first : Readable left)
      (second : Readable right) : Readable (logical op left right)
  | not {operand : Expr} (inside : Readable operand) : Readable (not operand)
  | membership {column values : Expr} {name : String} {items : List Value}
      (named : column.fieldName = .ok name) (whole : identifier name.toList = .done name [])
      (evaluated : values.evaluate = .ok (.list items)) (plain : ∀ item ∈ items, item.Plain) :
      Readable (membership column values)
  | convert {inner : Expr} (inside : Readable inner) : Readable (convert inner)
  | quote {inner : Expr} (inside : Readable inner) : Readable (quote inner)
  | lambda {inner : Expr} (inside : Readable inner) : Readable (lambda inner)

/-- The levels of nesting in the clause of a predicate: one for each connective, two for each denial
with its brackets, and one for a minus sign. -/
def Expr.nesting : Expr → Nat
  | compare _ _ right =>
    match right.evaluate with
    | .ok value => value.minusSigns
    | .error _ => 0
  | logical _ left right => max (nesting left) (nesting right) + 1
  | not operand => nesting operand + 2
  | membership _ values =>
    match values.evaluate with
    | .ok (.list items) => Value.minusSignsIn items
    | _ => 0
  | convert inner => nesting inner
  | quote inner => nesting inner
  | lambda inner => nesting inner
  | _ => 0

/-- A space is a gap. -/
theorem gap_space (text : List Char) : Gap (' ' :: text) text := by
  refine ⟨[' '], fun c member => ?_, rfl⟩
  rw [List.mem_singleton.mp member]
  decide

/-- A name that is an identifier as a whole is a field of the grammar. -/
theorem field_of_identifier {name : String} {rest : List Char}
    (whole : identifier name.toList = .done name []) (ended : Ended isIdentChar rest) :
    Field (name.toList ++ rest) name rest := by
  obtain ⟨word, found, _, _, rfl⟩ := identifier_eq_done.mp whole
  exact .bare found (by rw [String.toList_ofList]) ended

/-- The symbol of a comparison is one of its signs. -/
theorem comparisonSign_symbol (op : Comparison) (rest : List Char) :
    ComparisonSign op (op.symbol.toList ++ rest) rest := ⟨op.symbol, by cases op <;> decide, rfl⟩

/-- A field, the symbol of a comparison and an operand are a predicate of the grammar. -/
theorem comparison_of_clause {depth : Nat} {op : Comparison} {name : String}
    {operand rest : List Char} {right : Expr} (whole : identifier name.toList = .done name [])
    (found : Operand .factor depth (operand ++ rest) right rest) :
    Predicate .unary depth
      ((name ++ " " ++ op.symbol ++ " " ++ String.ofList operand).toList ++ rest)
      (.compare op (.field name) right) rest := by
  have ended : Ended isIdentChar (' ' :: (op.symbol.toList ++ ' ' :: (operand ++ rest))) :=
    ended_cons.mpr (by decide)
  have left := field_of_identifier whole ended
  have sign := comparisonSign_symbol op (' ' :: (operand ++ rest))
  have right := Operand.ofProduct (.ofFactor (found.afterGap (gap_space _)))
  have phrase := Predicate.comparison (left.operand (Gap.refl _)) (gap_space _) sign right
  rw [Nat.zero_max] at phrase
  have written : (name ++ " " ++ op.symbol ++ " " ++ String.ofList operand).toList ++ rest =
      name.toList ++ ' ' :: (op.symbol.toList ++ ' ' :: (operand ++ rest)) := by
    simp
  rwa [written]

/-- The clause of a membership is a predicate of the grammar. -/
theorem membership_of_clause {name : String} {items : List Value}
    (whole : identifier name.toList = .done name []) (plain : ∀ item ∈ items, item.Plain) :
    ∃ operands, (Expr.list operands).evaluate = .ok (.list items) ∧ ∀ rest,
      Predicate .unary (Value.minusSignsIn items) ((membershipClause name items).toList ++ rest)
        (.membership (.field name) (.list operands)) rest := by
  have written (rest : List Char) : (membershipClause name items).toList ++ rest =
      name.toList ++ ' ' :: ("IN".toList ++ ' ' :: '(' ::
        (Value.literalsChars items ++ ')' :: rest)) := by
    simp [membershipClause]
  have keyed (rest : List Char) : Keyword "in" ("IN".toList ++ ' ' :: rest) (' ' :: rest) :=
    keyword_of_word _ (by decide) (ended_cons.mpr (by decide))
  have opening (rest : List Char) : Gap (' ' :: '(' :: rest) ('(' :: rest) := gap_space _
  have sets : ∃ operands, (Expr.list operands).evaluate = .ok (.list items) ∧ ∀ rest,
      ItemSet (Value.minusSignsIn items) (' ' :: '(' :: (Value.literalsChars items ++ ')' :: rest))
        operands rest := by
    cases items with
    | nil => exact ⟨[], rfl, fun rest => .empty (opening _) (Gap.refl _)⟩
    | cons first others =>
      obtain ⟨operands, evaluated, listed⟩ := items_of_plain plain
      refine ⟨operands, ?_, fun rest => .items (opening _) (listed rest) (Gap.refl _)⟩
      rw [Expr.evaluate, evaluated]
      rfl
  obtain ⟨operands, evaluated, set⟩ := sets
  refine ⟨operands, evaluated, fun rest => ?_⟩
  rw [written]
  have field (tail : List Char) : Field (name.toList ++ ' ' :: tail) name (' ' :: tail) :=
    field_of_identifier whole (ended_cons.mpr (by decide))
  exact .membership (Gap.refl _) (field _) (gap_space _) (keyed _) (set rest)

/-- A denial in brackets is a predicate of the grammar. -/
theorem denial_of_clause {depth : Nat} {inner : String} {operand : Expr} {rest : List Char}
    (found : Predicate .unary depth (inner.toList ++ ')' :: rest) operand (')' :: rest)) :
    Predicate .unary (depth + 2) (("NOT (" ++ inner ++ ")").toList ++ rest) (.not operand)
      rest := by
  have group : Predicate .unary (depth + 1) (' ' :: '(' :: (inner.toList ++ ')' :: rest)) operand
      rest := .group (gap_space _) (.ofConjunction (.ofUnary found)) (Gap.refl _)
  have sign : DenialSign ("NOT".toList ++ ' ' :: '(' :: (inner.toList ++ ')' :: rest))
      (' ' :: '(' :: (inner.toList ++ ')' :: rest)) :=
    .inr (keyword_of_word _ (by decide) (ended_cons.mpr (by decide)))
  have phrase := Predicate.denial (Gap.refl _) sign group
  have written : ("NOT (" ++ inner ++ ")").toList ++ rest =
      "NOT".toList ++ ' ' :: '(' :: (inner.toList ++ ')' :: rest) := by
    simp
  rwa [written]

/-- Two predicates joined in brackets are a predicate of the grammar. -/
theorem connective_of_clause {op : Connective} {depth depth' : Nat} {first second : String}
    {left right : Expr} {rest : List Char}
    (found : ∀ tail, Ended isIdentChar tail →
      Predicate .unary depth (first.toList ++ tail) left tail)
    (found' : Predicate .unary depth' (second.toList ++ ')' :: rest) right (')' :: rest)) :
    Predicate .unary (max depth depth' + 1)
      (("(" ++ first ++ " " ++ op.keyword ++ " " ++ second ++ ")").toList ++ rest)
      (.logical op left right) rest := by
  have before := found (' ' :: (op.keyword.toList ++ ' ' :: (second.toList ++ ')' :: rest)))
    (ended_cons.mpr (by decide))
  have after := found'.afterGap (gap_space _)
  have sign : ConnectiveSign op (op.keyword.toList ++ ' ' :: (second.toList ++ ')' :: rest))
      (' ' :: (second.toList ++ ')' :: rest)) := by
    cases op <;> exact .inr (keyword_of_word _ (by decide) (ended_cons.mpr (by decide)))
  have joined : Predicate .disjunction (max depth depth') (first.toList ++ ' ' ::
      (op.keyword.toList ++ ' ' :: (second.toList ++ ')' :: rest))) (.logical op left right)
        (')' :: rest) := by
    cases op with
    | and => exact .ofConjunction (.and (.ofUnary before) (gap_space _) sign after)
    | or => exact .or (.ofConjunction (.ofUnary before)) (gap_space _) sign (.ofUnary after)
  have written : ("(" ++ first ++ " " ++ op.keyword ++ " " ++ second ++ ")").toList ++ rest =
      '(' :: (first.toList ++ ' ' :: (op.keyword.toList ++ ' ' ::
        (second.toList ++ ')' :: rest))) := by
    simp
  rw [written]
  exact .group (Gap.refl _) joined (Gap.refl _)

/-- A readable predicate has a clause, which is a predicate of the grammar that restates it, nested
as deep as the predicate is. -/
theorem Expr.Readable.phrase {expr : Expr} (readable : expr.Readable) :
    ∃ text read, expr.predicate = .ok text ∧ expr.Restates read ∧ ∀ rest, Ended isIdentChar rest →
      Predicate .unary expr.nesting (text.toList ++ rest) read rest := by
  induction readable with
  | @compare op left right name value named whole evaluated plain symbolic =>
    obtain ⟨operand, same, found⟩ := plain.operand
    have clause := predicate_compare_eq_ok.mpr
      ⟨name, value, named, evaluated, Comparison.clause_of_symbol symbolic⟩
    refine ⟨_, .compare op (.field name) operand, clause, ?_, fun rest ended => ?_⟩
    · exact .compare named.symm (same.trans evaluated.symm)
    · simp only [Expr.nesting, evaluated]
      exact comparison_of_clause whole (found rest ended)
  | logical first second ihFirst ihSecond =>
    obtain ⟨text, read, compiled, restates, found⟩ := ihFirst
    obtain ⟨text', read', compiled', restates', found'⟩ := ihSecond
    refine ⟨_, .logical _ read read', predicate_logical_eq_ok.mpr ⟨_, _, compiled, compiled', rfl⟩,
      .logical restates restates', fun rest _ => ?_⟩
    exact connective_of_clause found (found' _ (ended_cons.mpr (by decide)))
  | not inside ih =>
    obtain ⟨text, read, compiled, restates, found⟩ := ih
    refine ⟨_, .not read, predicate_not_eq_ok.mpr ⟨_, compiled, rfl⟩, .not restates,
      fun rest _ => ?_⟩
    exact denial_of_clause (found _ (ended_cons.mpr (by decide)))
  | @membership column values name items named whole evaluated plain =>
    obtain ⟨operands, same, found⟩ := membership_of_clause whole plain
    refine ⟨_, .membership (.field name) (.list operands),
      predicate_membership_eq_ok.mpr ⟨_, _, named, evaluated, rfl⟩,
      .membership named.symm (same.trans evaluated.symm), fun rest _ => ?_⟩
    simp only [Expr.nesting, evaluated]
    exact found rest
  | convert inside ih =>
    obtain ⟨text, read, compiled, restates, found⟩ := ih
    exact ⟨text, read, compiled, .convert restates, found⟩
  | quote inside ih =>
    obtain ⟨text, read, compiled, restates, found⟩ := ih
    exact ⟨text, read, compiled, .quote restates, found⟩
  | lambda inside ih =>
    obtain ⟨text, read, compiled, restates, found⟩ := ih
    exact ⟨text, read, compiled, .lambda restates, found⟩

/-! ## Whole clauses -/

/-- A name that is an identifier as a whole does not begin with white space. -/
theorem beginsSolid_of_identifier {name : String}
    (whole : identifier name.toList = .done name []) : Text.BeginsSolid name.toList := by
  obtain ⟨word, ⟨c, tail, rfl, start, _⟩, _, _, rfl⟩ := identifier_eq_done.mp whole
  have solid := isWhiteSpace_of_isIdentChar (isIdentChar_of_isIdentStart start)
  exact ⟨c, tail, String.toList_ofList, solid⟩

/-- Digits do not end with white space. -/
theorem endsSolid_digits {digits : List Digit} (filled : digits ≠ []) :
    Text.EndsSolid (Digits.chars digits) := by
  have solid (digit : Digit) : Text.isWhiteSpace digit.char = false := by
    revert digit
    decide
  rw [← List.dropLast_concat_getLast filled, Digits.chars, List.map_append]
  exact ⟨_, _, rfl, solid _⟩

/-- The decimal text of an integer does not end with white space. -/
theorem endsSolid_decimalText (n : Int) : Text.EndsSolid (decimalText n) := by
  unfold decimalText
  split
  · exact (endsSolid_digits (Digits.ofNat_ne_nil _)).append ['-']
  · exact endsSolid_digits (Digits.ofNat_ne_nil _)

/-- The literal of a plain value does not end with white space. -/
theorem Value.Plain.endsSolid {value : Value} (plain : value.Plain) :
    Text.EndsSolid value.literalChars := by
  cases plain with
  | null => exact ⟨"NUL".toList, 'L', by decide, by decide⟩
  | bool b =>
    cases b with
    | true => exact ⟨"tru".toList, 'e', by decide, by decide⟩
    | false => exact ⟨"fals".toList, 'e', by decide, by decide⟩
  | @int n above => exact endsSolid_decimalText n.value
  | text s => exact ⟨'\'' :: Text.Quoted.double s.toList, '\'', rfl, by decide⟩

/-- The text of a comparison neither begins nor ends with white space. -/
theorem solid_comparison {name : String} {operand : List Char} (op : Comparison)
    (whole : identifier name.toList = .done name []) (ends : Text.EndsSolid operand) :
    let text := (name ++ " " ++ op.symbol ++ " " ++ String.ofList operand).toList
    Text.BeginsSolid text ∧ Text.EndsSolid text := by
  simp only [String.toList_append, List.append_assoc, String.toList_ofList]
  refine ⟨(beginsSolid_of_identifier whole).append _, ?_⟩
  simp only [← List.append_assoc]
  exact ends.append _

/-- The clause of a readable predicate neither begins nor ends with white space. -/
theorem Expr.Readable.solid {expr : Expr} {text : String} (readable : expr.Readable)
    (compiled : expr.predicate = .ok text) :
    Text.BeginsSolid text.toList ∧ Text.EndsSolid text.toList := by
  have closed (before : String) : Text.EndsSolid (before ++ ")").toList :=
    ⟨before.toList, ')', String.toList_append .., by decide⟩
  induction readable generalizing text with
  | compare named whole evaluated plain symbolic =>
    obtain ⟨field, value, named', evaluated', rfl⟩ := predicate_compare_eq_ok.mp compiled
    rw [named] at named'
    rw [evaluated] at evaluated'
    cases named'
    cases evaluated'
    rw [Comparison.clause_of_symbol symbolic]
    exact solid_comparison _ whole plain.endsSolid
  | logical first second =>
    obtain ⟨_, _, _, _, rfl⟩ := predicate_logical_eq_ok.mp compiled
    refine ⟨?_, closed _⟩
    simp only [String.toList_append, List.append_assoc]
    exact ⟨'(', _, rfl, by decide⟩
  | not inside =>
    obtain ⟨_, _, rfl⟩ := predicate_not_eq_ok.mp compiled
    refine ⟨?_, closed _⟩
    simp only [String.toList_append, List.append_assoc]
    exact ⟨'N', _, rfl, by decide⟩
  | membership named whole evaluated plain =>
    obtain ⟨field, items, named', _, rfl⟩ := predicate_membership_eq_ok.mp compiled
    rw [named] at named'
    cases named'
    refine ⟨?_, closed _⟩
    simp only [membershipClause, String.toList_append, List.append_assoc]
    exact (beginsSolid_of_identifier whole).append _
  | convert inside ih | quote inside ih | lambda inside ih => exact ih compiled

/-- **The clause of a readable predicate reads back as a predicate that says the same.** Whatever
its texts hold, the predicate read has the same nodes with the same fields and values, the same
clause and, for an index, the same lookup or the same fault. -/
theorem Expr.readPredicate_predicate {expr : Expr} (readable : expr.Readable)
    (within : expr.nesting ≤ maxDepth) :
    ∃ text read, expr.predicate = .ok text ∧ readPredicate text = .ok read ∧
      expr.Restates read ∧ read.predicate = .ok text ∧
        ∀ startKey limit, read.indexScan startKey limit = expr.indexScan startKey limit := by
  obtain ⟨text, read, compiled, restates, found⟩ := readable.phrase
  have whole := found [] (ended_nil _)
  rw [List.append_nil] at whole
  obtain ⟨begins, ends⟩ := readable.solid compiled
  have reads : readPredicate text = .ok read := by
    refine readPredicate_of_predicate ?_ within
    rw [Text.trim_eq_self begins ends]
    exact .ofConjunction (.ofUnary whole)
  exact ⟨text, read, compiled, reads, restates, restates.predicate.trans compiled,
    restates.indexScan⟩

/-- A comparison with a text full of quotes and brackets, beside a membership with a negative number
and null, under a denial. -/
def Expr.quotes : Expr :=
  .lambda (.not (.logical .or (.compare .eq (.field "Name") (.constant (.text "') OR (1 = '1")))
    (.membership (.convert (.field "Id"))
      (.list [.negate (.constant (.int ⟨7, by decide, by decide⟩)), .constant .null]))))

/-- Quotes and brackets in a text do not end it. -/
theorem Expr.readPredicate_predicate_quotes :
    quotes.Readable ∧ quotes.nesting ≤ maxDepth ∧
      ∃ text read, quotes.predicate = .ok text ∧ readPredicate text = .ok read ∧
        quotes.Restates read ∧ read.predicate = .ok text ∧
          ∀ startKey limit, read.indexScan startKey limit = quotes.indexScan startKey limit := by
  have plain : ∀ item ∈ [Value.int ⟨-7, by decide, by decide⟩, .null], item.Plain := by
    intro item member
    obtain rfl | rfl : item = .int ⟨-7, by decide, by decide⟩ ∨ item = .null := by
      simpa using member
    · exact .int (by decide)
    · exact .null
  have readable : quotes.Readable :=
    .lambda (.not (.logical (.compare rfl rfl rfl (.text _) (fun null => by cases null))
      (.membership rfl rfl rfl plain)))
  have within : quotes.nesting ≤ maxDepth := by decide
  exact ⟨readable, within, Expr.readPredicate_predicate readable within⟩

end ColumnQuery
