import ColumnQuery.Grammar.Predicate
import ColumnQuery.Proofs.Grammar.Token

/-!
# Readers only go forward

Wherever a reader stops, whether it is done, misses or halts, what it leaves is an end of the text
it was given. So the place where it stopped is told by what is left, and what stands before that
place is no longer than the text. Each way to combine readers keeps this, and so do repetitions and
nesting.
-/
namespace ColumnQuery.Grammar

open Outcome Phrase

variable {α β : Type}

namespace Outcome

/-- What is left of a text where a reader stopped. -/
def left : Outcome α → List Char
  | done _ rest => rest
  | miss rest _ => rest
  | halt rest _ => rest

/-- A reader stopped within a text. -/
def Within (outcome : Outcome α) (text : List Char) : Prop := outcome.left <:+ text

/-- A place within the end of a text is within the text. -/
theorem Within.trans {outcome : Outcome α} {mid text : List Char} (within : outcome.Within mid)
    (suffix : mid <:+ text) : outcome.Within text := List.IsSuffix.trans within suffix

end Outcome

/-- A reader that stops within whatever text it is given. -/
def Forward (read : Reader α) : Prop := ∀ text, (read text).Within text

namespace Outcome.Within

variable {outcome : Outcome α} {text : List Char}

/-- Going on stops within a text if both parts go forward. -/
theorem bind (within : outcome.Within text) {next : α → Reader β}
    (forward : ∀ value, Forward (next value)) : (outcome.bind next).Within text := by
  cases outcome with
  | done value rest => exact (forward value rest).trans within
  | miss rest expected => exact within
  | halt rest cause => exact within

/-- What is made of what was read does not matter. -/
theorem map (within : outcome.Within text) (f : α → β) : (outcome.map f).Within text :=
  within.bind fun _ _ => List.suffix_rfl

/-- A choice stops within a text if both of its readers do. -/
theorem orElse (within : outcome.Within text) {other : Unit → Outcome α}
    (within' : (other ()).Within text) : (outcome.orElse other).Within text := by
  cases outcome with
  | done value rest => exact within
  | miss rest expected => exact within'
  | halt rest cause => exact within

end Outcome.Within

/-! ## Combined readers -/

/-- What is left after separators is an end of the text. -/
theorem skipSeparators_suffix (text : List Char) : Text.skipSeparators text <:+ text :=
  List.dropWhile_suffix _

/-- One character is read forward. -/
theorem forward_char (expected : Char) : Forward (char expected) := by
  intro text
  cases text with
  | nil => exact List.suffix_rfl
  | cons c rest =>
    by_cases same : c = expected
    · rw [char, if_pos same]
      exact List.suffix_cons c rest
    · rw [char, if_neg same]
      exact List.suffix_rfl

/-- A symbol is read forward. -/
theorem forward_symbol (expected : String) : Forward (symbol expected) := by
  intro text
  unfold symbol
  split
  · rename_i rest found
    rw [dropWord_eq_some_iff.mp found]
    exact List.suffix_append _ rest
  · exact List.suffix_rfl

namespace Forward

variable {read : Reader α}

/-- Separators around a reader are skipped forward. -/
theorem spaced (forward : Forward read) : Forward (spaced read) := by
  intro text
  have inside : (read (Text.skipSeparators text)).Within text :=
    (forward _).trans (skipSeparators_suffix text)
  exact inside.bind fun _ rest => skipSeparators_suffix rest

/-- Two readers in a row go forward if both do. -/
theorem preceded {first : Reader β} (forwardFirst : Forward first) (forward : Forward read) :
    Forward (preceded first read) :=
  fun text => (forwardFirst text).bind fun _ => forward

/-- Brackets are read forward if their inside is. -/
theorem bracketed (forward : Forward read) : Forward (bracketed read) := by
  intro text
  refine (forward_char '(' text).bind fun _ rest => (forward rest).bind fun _ rest => ?_
  exact (forward_char ')' rest).map _

/-- A repetition goes forward if its reader does. -/
theorem many (forward : Forward read) : Forward (many read) := by
  intro text
  fun_induction Grammar.many read text with
  | case1 text => exact List.suffix_rfl
  | case2 text rest cause halts =>
    have within := forward text
    rw [halts] at within
    exact within
  | case3 text value rest reads shorter ih =>
    have within := forward text
    rw [reads] at within
    exact (ih.trans within).map _
  | case4 text => exact List.suffix_rfl

/-- A list goes forward if its reader does. -/
theorem separated (forward : Forward read) : Forward (separated read) := by
  intro text
  refine (forward text).bind fun _ rest => ?_
  exact (((forward_char ',').preceded forward).many rest).map _

/-- A list that may be empty goes forward if its reader does. -/
theorem separatedOrNone (forward : Forward read) : Forward (separatedOrNone read) := by
  intro text
  have within := forward text
  unfold Grammar.separatedOrNone
  split
  · exact List.suffix_rfl
  · rename_i halts
    rw [halts] at within
    exact within
  · rename_i reads
    rw [reads] at within
    have others : Forward (Grammar.preceded (char ',') read) := (forward_char ',').preceded forward
    exact ((others.many _).map _).trans within

/-- A chain goes forward if its operators and operands do. -/
theorem chain {operator : Reader β} (signs : Forward operator) (operands : Forward read)
    (combine : β → α → α → α) : Forward (chain operator read combine) := by
  intro text
  have steps : Forward fun text =>
      (operator text).bind fun op rest => (read rest).map (op, ·) :=
    fun text => (signs text).bind fun _ rest => (operands rest).map _
  exact (operands text).bind fun _ rest => (steps.many rest).map _

end Forward

/-! ## Tokens -/

/-- A keyword is read forward. -/
theorem forward_keyword (word : String) : Forward (keyword word) := by
  intro text
  unfold keyword
  split
  · exact List.suffix_rfl
  · exact List.nil_suffix
  · rename_i c rest found
    obtain ⟨spelled, _, written⟩ := dropKeyword_eq_some_iff.mp found
    have suffix : c :: rest <:+ text := ⟨spelled, written.symm⟩
    split
    · exact suffix
    · exact suffix

/-- An identifier is read forward. -/
theorem forward_identifier : Forward identifier := by
  intro text
  cases text with
  | nil => exact List.suffix_rfl
  | cons c rest =>
    have behind : rest.dropWhile isIdentChar <:+ c :: rest :=
      (List.dropWhile_suffix _).trans (List.suffix_cons c rest)
    unfold identifier
    dsimp only
    split
    · split
      · exact List.suffix_rfl
      · exact behind
    · exact List.suffix_rfl

/-- A quoted name is read forward. -/
theorem forward_quotedName : Forward quotedName := by
  intro text
  refine (forward_char '"' text).bind fun _ rest => ?_
  dsimp only
  split
  · exact List.suffix_rfl
  · exact ((forward_char '"' _).map _).trans (List.dropWhile_suffix _)

/-- The name of a field is read forward. -/
theorem forward_fieldName : Forward fieldName :=
  fun text => (forward_quotedName text).orElse (forward_identifier text)

/-- A number is read forward. -/
theorem forward_number : Forward number := by
  intro text
  cases read : number text with
  | done value rest => exact (literal_of_number read).takes.suffix
  | halt rest cause => exact absurd ⟨rest, cause, read⟩ (number_not_halts text)
  | miss rest expected =>
    -- Wherever a number is missed, it is missed as a whole.
    have whole : rest = text := by
      unfold number at read
      grind
    rw [whole]
    exact List.suffix_rfl

/-- A text literal is read forward. -/
theorem forward_textLiteral : Forward textLiteral := by
  intro text
  cases read : textLiteral text with
  | done value rest => exact (literal_of_textLiteral read).takes.suffix
  | miss rest expected =>
    unfold textLiteral at read
    split at read
    · split at read <;> cases read
    · cases read
      exact List.suffix_rfl
  | halt rest cause =>
    unfold textLiteral at read
    split at read
    · split at read <;> cases read
      exact List.suffix_rfl
    · cases read

/-- A literal is read forward. -/
theorem forward_literal : Forward literal := by
  intro text
  refine ((forward_keyword _ text).map _).orElse ?_
  refine ((forward_keyword _ text).map _).orElse ?_
  refine ((forward_keyword _ text).map _).orElse ?_
  exact (forward_number text).orElse (forward_textLiteral text)

/-! ## Operands -/

/-- The sign of a product is read forward. -/
theorem forward_productOperator : Forward productOperator := by
  intro text
  refine ((forward_char _ text).map _).orElse ?_
  exact ((forward_char _ text).map _).orElse ((forward_char _ text).map _)

/-- The sign of a sum is read forward. -/
theorem forward_sumOperator : Forward sumOperator :=
  fun text => ((forward_char _ text).map _).orElse ((forward_char _ text).map _)

/-- A sum goes forward if its factors do. -/
theorem Forward.sumOf {factor : Reader Expr} (forward : Forward factor) : Forward (sumOf factor) :=
  forward_sumOperator.spaced.chain (forward_productOperator.spaced.chain forward _) _

/-- A factor is read forward at any level. -/
theorem forward_factorAt (levels : Nat) : Forward (factorAt levels) := by
  induction levels with
  | zero => exact fun text => List.suffix_rfl
  | succ levels ih =>
    intro text
    simp only [factorAt]
    refine Outcome.Within.trans ?_ (skipSeparators_suffix text)
    refine (((forward_char '-').preceded ih _).map _).orElse ?_
    refine (ih.sumOf.spaced.bracketed _).orElse ?_
    exact ((forward_literal _).map _).orElse ((forward_fieldName _).map _)

/-- An operand is read forward. -/
theorem forward_operandAt (levels : Nat) : Forward (operandAt levels) :=
  (forward_factorAt levels).sumOf

/-! ## Predicates -/

/-- The sign of a comparison is read forward. -/
theorem forward_comparisonSign : Forward comparisonSign := by
  intro text
  have sign (spelling : String) (op : Comparison) :
      ((symbol spelling text).map fun _ => op).Within text := (forward_symbol spelling text).map _
  exact (sign _ _).orElse ((sign _ _).orElse ((sign _ _).orElse ((sign _ _).orElse
    ((sign _ _).orElse ((sign _ _).orElse ((sign _ _).orElse (sign _ _)))))))

/-- The sign of a denial is read forward. -/
theorem forward_denialSign : Forward denialSign :=
  fun text => (forward_symbol _ text).orElse (forward_keyword _ text)

/-- The sign of a conjunction is read forward. -/
theorem forward_conjunctionSign : Forward conjunctionSign :=
  fun text => ((forward_symbol _ text).orElse (forward_keyword _ text)).map _

/-- The sign of a disjunction is read forward. -/
theorem forward_disjunctionSign : Forward disjunctionSign :=
  fun text => ((forward_symbol _ text).orElse (forward_keyword _ text)).map _

section Operand

variable {operand : Reader Expr}

/-- A comparison goes forward if its operands do. -/
theorem Forward.comparison (forward : Forward operand) : Forward (comparison operand) := by
  intro text
  refine (forward.spaced text).bind fun _ rest => ?_
  refine (forward_comparisonSign rest).bind fun _ rest => ?_
  exact (forward.spaced rest).map _

/-- A set goes forward if its items do. -/
theorem Forward.itemSet (forward : Forward operand) : Forward (itemSet operand) := by
  intro text
  refine (forward_char '(' text).bind fun _ rest => ?_
  refine (forward.spaced.separatedOrNone rest).bind fun _ rest => ?_
  exact ((forward_char ')' _).map _).trans (skipSeparators_suffix rest)

/-- A membership goes forward if the items of its set do. -/
theorem Forward.membership (forward : Forward operand) : Forward (membership operand) := by
  intro text
  refine (forward_fieldName.spaced text).bind fun _ rest => ?_
  refine (forward_keyword "in" rest).bind fun _ rest => ?_
  have items := (forward.itemSet (Text.skipSeparators rest)).trans (skipSeparators_suffix rest)
  exact items.bind fun _ rest => skipSeparators_suffix rest

end Operand

/-- A disjunction goes forward if its parts do. -/
theorem Forward.disjunctionOf {unary : Reader Expr} (forward : Forward unary) :
    Forward (disjunctionOf unary) :=
  forward_disjunctionSign.spaced.chain (forward_conjunctionSign.spaced.chain forward _) _

/-- A predicate without connectives outside brackets is read forward at any level. -/
theorem forward_unaryAt (levels : Nat) : Forward (unaryAt levels) := by
  induction levels with
  | zero => exact fun text => List.suffix_rfl
  | succ levels ih =>
    intro text
    simp only [unaryAt]
    refine Outcome.Within.trans ?_ (skipSeparators_suffix text)
    refine ((forward_denialSign.preceded ih _).map _).orElse ?_
    refine ((forward_operandAt (levels + 1)).membership _).orElse ?_
    refine ((forward_operandAt (levels + 1)).comparison _).orElse ?_
    exact ih.disjunctionOf.spaced.bracketed _

/-- A predicate is read forward. -/
theorem forward_predicateAt (levels : Nat) : Forward (predicateAt levels) :=
  (forward_unaryAt levels).disjunctionOf

/-- A projection is read forward. -/
theorem forward_projection : Forward projection :=
  fun text => (forward_fieldName.spaced.separated text).map _

end ColumnQuery.Grammar
