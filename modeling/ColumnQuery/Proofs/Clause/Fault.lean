import ColumnQuery.Proofs.Clause.Compile
import ColumnQuery.Proofs.Expr.Induction

/-!
# Faults of compiling

A fault is raised by the part of an expression that it is about. Two causes are about no part: one
given by a caller, and the lack of a source. No compiler raises them, since every chain that can be
taken apart ends at a source.
-/
namespace ColumnQuery

namespace Unsupported

/-- Whether a cause is about a part of an expression. -/
def isAboutPart : Unsupported → Bool
  | noSource => false
  | other _ => false
  | _ => true

/-- A text that begins otherwise than the lack of a source is told. -/
def Apart (text : String) : Prop := ∃ c tail, text.toList = c :: tail ∧ c ≠ 'Q'

/-- A text begins as its first part does. -/
theorem Apart.append {text : String} (apart : Apart text) (rest : String) :
    Apart (text ++ rest) := by
  obtain ⟨c, tail, written, other⟩ := apart
  exact ⟨c, tail ++ rest.toList, by rw [String.toList_append, written, List.cons_append], other⟩

/-- Texts that begin otherwise are others. -/
theorem Apart.ne_noSource {text : String} (apart : Apart text) : text ≠ noSource.detail := by
  rintro rfl
  obtain ⟨c, tail, written, other⟩ := apart
  cases written
  contradiction

/-- What is said about a part of an expression is never said about a lack of source. -/
theorem detail_ne_noSource {fault : Unsupported} (about : fault.isAboutPart = true) :
    fault.detail ≠ noSource.detail := by
  cases fault with
  | noSource | other => cases about
  | alternative | inequality | divisionByZero => decide
  | expression kind | notField kind | notProjection kind | notQuery kind | notIndexable kind =>
    cases kind <;> decide
  | nullIndexValue | fieldValue | notList | negation | negationOverflow =>
    exact (Apart.append (Apart.append ⟨_, _, rfl, by decide⟩ _) _).ne_noSource
  | operands | overflow | notFinite =>
    have begins (first a b c d e f : String) (apart : Apart first) :
        first ++ a ++ b ++ c ++ d ++ e ++ f ≠ noSource.detail :=
      ((((((apart.append a).append b).append c).append d).append e).append f).ne_noSource
    exact begins _ _ _ _ _ _ _ ⟨_, _, rfl, by decide⟩

end Unsupported

/-- A computation fails only with causes about parts. -/
def FailsInPart {α : Type} (result : Except Unsupported α) : Prop :=
  ∀ fault, result = .error fault → fault.isAboutPart = true

/-- A result is no fault. -/
theorem failsInPart_ok {α : Type} (value : α) : FailsInPart (.ok value) := by
  intro fault impossible
  cases impossible

/-- A cause about a part is one. -/
theorem failsInPart_error {α : Type} {fault : Unsupported} (about : fault.isAboutPart = true) :
    FailsInPart (.error fault : Except Unsupported α) := by
  rintro _ ⟨⟩
  exact about

/-- Two steps in a row fail as one of them does. -/
theorem FailsInPart.bind {α β : Type} {first : Except Unsupported α}
    {next : α → Except Unsupported β} (fails : FailsInPart first)
    (failsNext : ∀ value, FailsInPart (next value)) : FailsInPart (first >>= next) := by
  cases first with
  | ok value => exact failsNext value
  | error fault => exact failsInPart_error (fails fault rfl)

/-- A choice fails as its sides do. -/
theorem FailsInPart.ite {α : Type} {condition : Prop} [Decidable condition]
    {first second : Except Unsupported α} (fails : FailsInPart first)
    (fails' : FailsInPart second) : FailsInPart (if condition then first else second) := by
  split
  · exact fails
  · exact fails'

/-- Arithmetic on integers fails in its operands. -/
theorem Arithmetic.failsInPart_onInts (op : Arithmetic) (left right : Bigint) :
    FailsInPart (op.onInts left right) := by
  unfold onInts
  cases op with
  | add | sub | mul =>
    dsimp only
    split
    · exact failsInPart_ok _
    · exact failsInPart_error rfl
  | div =>
    refine .ite (failsInPart_error rfl) ?_
    dsimp only
    split
    · exact failsInPart_ok _
    · exact failsInPart_error rfl
  | rem =>
    refine .ite (failsInPart_error rfl) ?_
    split
    · dsimp only
      split
      · exact failsInPart_ok _
      · exact failsInPart_error rfl
    · exact failsInPart_error rfl

/-- Arithmetic on floating point numbers fails in its operands. -/
theorem Arithmetic.failsInPart_onDoubles (op : Arithmetic) (left right : Double) :
    FailsInPart (op.onDoubles left right) :=
  .ite (failsInPart_error rfl) (.ite (failsInPart_ok _) (failsInPart_error rfl))

/-- Arithmetic fails in its operands. -/
theorem Arithmetic.failsInPart_apply (op : Arithmetic) (left right : Value) :
    FailsInPart (op.apply left right) := by
  unfold apply
  split
  · exact failsInPart_ok _
  · exact failsInPart_ok _
  · exact op.failsInPart_onInts _ _
  · exact op.failsInPart_onDoubles _ _
  · exact op.failsInPart_onDoubles _ _
  · exact op.failsInPart_onDoubles _ _
  · exact .ite (failsInPart_ok _) (failsInPart_error rfl)
  · exact failsInPart_error rfl

/-- Negation fails in its operand. -/
theorem Value.failsInPart_negated (value : Value) : FailsInPart value.negated := by
  cases value with
  | null | float x => exact failsInPart_ok _
  | int n =>
    unfold negated
    dsimp only
    split
    · exact failsInPart_ok _
    · exact failsInPart_error rfl
  | _ => exact failsInPart_error rfl

namespace Expr

/-- The values of items fail where one of theirs does. -/
theorem failsInPart_evaluateItems {items : List Expr}
    (fails : ∀ item ∈ items, FailsInPart item.evaluate) : FailsInPart (evaluateItems items) := by
  induction items with
  | nil => exact failsInPart_ok _
  | cons item items ih =>
    refine (fails item List.mem_cons_self).bind fun value => ?_
    exact (ih fun item listed => fails item (List.mem_cons_of_mem _ listed)).bind fun values =>
      failsInPart_ok _

/-- Values fail in parts. -/
theorem failsInPart_evaluate (expr : Expr) : FailsInPart expr.evaluate := by
  induction expr with
  | constant value => exact failsInPart_ok value
  | list items ih => exact (failsInPart_evaluateItems ih).bind fun values => failsInPart_ok _
  | arithmetic op left right ihLeft ihRight =>
    exact ihLeft.bind fun left => ihRight.bind fun right => op.failsInPart_apply left right
  | negate operand ih => exact ih.bind fun value => value.failsInPart_negated
  | convert inner ih | quote inner ih | lambda inner ih => exact ih
  | _ => exact failsInPart_error rfl

/-- Names of fields fail in parts. -/
theorem failsInPart_fieldName (expr : Expr) : FailsInPart expr.fieldName := by
  induction expr with
  | field name => exact failsInPart_ok name
  | convert inner ih | quote inner ih | lambda inner ih => exact ih
  | _ => exact failsInPart_error rfl

/-- Clauses fail in parts. -/
theorem failsInPart_predicate (expr : Expr) : FailsInPart expr.predicate := by
  induction expr with
  | compare op left right =>
    exact left.failsInPart_fieldName.bind fun field => right.failsInPart_evaluate.bind fun value =>
      failsInPart_ok _
  | logical op left right ihLeft ihRight =>
    exact ihLeft.bind fun first => ihRight.bind fun second => failsInPart_ok _
  | not operand ih => exact ih.bind fun inner => failsInPart_ok _
  | membership column values =>
    refine column.failsInPart_fieldName.bind fun field => ?_
    refine values.failsInPart_evaluate.bind fun set => ?_
    refine FailsInPart.bind ?_ fun items => failsInPart_ok _
    cases set with
    | list items => exact failsInPart_ok items
    | _ => exact failsInPart_error rfl
  | convert inner ih | quote inner ih | lambda inner ih => exact ih
  | _ => exact failsInPart_error rfl

/-- Fields of members fail in parts. -/
theorem failsInPart_memberFields (members : List Member) : FailsInPart (memberFields members) := by
  induction members with
  | nil => exact failsInPart_ok _
  | cons member members ih =>
    obtain ⟨label, expr⟩ := member
    exact expr.failsInPart_fieldName.bind fun name => ih.bind fun names => failsInPart_ok _

/-- Selected fields fail in parts. -/
theorem failsInPart_projectedFields (expr : Expr) : FailsInPart expr.projectedFields := by
  induction expr with
  | row | field => exact failsInPart_ok _
  | projection members => exact failsInPart_memberFields members
  | convert inner ih | quote inner ih | lambda inner ih => exact ih
  | _ => exact failsInPart_error rfl

/-- Chains fail in parts. -/
theorem failsInPart_assemble (built : Assembly) (expr : Expr) :
    FailsInPart (assemble built expr) := by
  induction expr with
  | source name => exact failsInPart_ok _
  | call step target argument ih =>
    refine ih.bind fun reached => ?_
    cases step with
    | filter => exact argument.failsInPart_predicate.bind fun clause => failsInPart_ok _
    | project => exact argument.failsInPart_projectedFields.bind fun names => failsInPart_ok _
  | convert inner ih | quote inner ih | lambda inner ih => exact ih
  | _ => exact failsInPart_error rfl

/-- A step leaves the source as it is. -/
theorem source_of_add {built reached : Assembly} {step : Step} {argument : Expr}
    (added : built.add step argument = .ok reached) : reached.source = built.source := by
  cases step with
  | filter =>
    obtain ⟨clause, _, same⟩ := bind_eq_ok.mp added
    cases same
    rfl
  | project =>
    obtain ⟨names, _, same⟩ := bind_eq_ok.mp added
    cases same
    rfl

/-- Whatever a chain assembles has a source. -/
theorem source_of_assemble {built reached : Assembly} {expr : Expr}
    (assembled : assemble built expr = .ok reached) : ∃ name, reached.source = some name := by
  induction expr generalizing reached with
  | source name =>
    cases assembled
    exact ⟨name, rfl⟩
  | call step target argument ih =>
    obtain ⟨before, assembled, added⟩ := bind_eq_ok.mp assembled
    obtain ⟨name, found⟩ := ih assembled
    exact ⟨name, (source_of_add added).trans found⟩
  | convert inner ih | quote inner ih | lambda inner ih => exact ih assembled
  | _ => cases assembled

/-- Statements fail in parts, never for want of a source. -/
theorem failsInPart_select (expr : Expr) : FailsInPart expr.select := by
  unfold select
  cases assembled : assemble {} expr with
  | error fault => exact failsInPart_error (failsInPart_assemble {} expr fault assembled)
  | ok built =>
    obtain ⟨name, found⟩ := source_of_assemble assembled
    show FailsInPart built.finish
    rw [Assembly.finish, found]
    exact failsInPart_ok _

end Expr

end ColumnQuery
