import ColumnQuery.Clause.Index
import ColumnQuery.Clause.Select

/-!
# What compilers ask of an expression

A compiler asks a node for little of what stands below it: a comparison for the name of its left
side and the value of its right side, arithmetic for values alone. Expressions that answer alike
whatever is asked are indistinct, and for each node there is one law that says what has to be alike
below it. Every other law on what compilers tell apart is a case of these.
-/
namespace ColumnQuery.Expr

/-- No compiler tells the second expression from the first: they name the same field, have the same
value, clause and fields, add the same to a statement and make the same index clauses, or have the
same fault in the place of each. -/
structure Indistinct (expr expr' : Expr) : Prop where
  fieldName : expr.fieldName = expr'.fieldName
  evaluate : expr.evaluate = expr'.evaluate
  predicate : expr.predicate = expr'.predicate
  projectedFields : expr.projectedFields = expr'.projectedFields
  assemble : ∀ built, assemble built expr = assemble built expr'
  indexClauses : expr.indexClauses = expr'.indexClauses

/-- The values of items depend on the value of each. -/
theorem evaluateItems_congr {items items' : List Expr}
    (same : items.map evaluate = items'.map evaluate) :
    evaluateItems items = evaluateItems items' := by
  induction items generalizing items' with
  | nil => rw [List.map_eq_nil_iff.mp same.symm]
  | cons item items ih =>
    obtain ⟨item', others, rfl, first, rest⟩ := List.map_eq_cons_iff.mp same.symm
    simp only [evaluateItems, first, ih rest.symm]

/-- The fields of members depend on the name of each. -/
theorem memberFields_congr {members members' : List Member}
    (same : members.map (·.expr.fieldName) = members'.map (·.expr.fieldName)) :
    memberFields members = memberFields members' := by
  induction members generalizing members' with
  | nil => rw [List.map_eq_nil_iff.mp same.symm]
  | cons member members ih =>
    obtain ⟨⟨label', expr'⟩, others, rfl, first, rest⟩ := List.map_eq_cons_iff.mp same.symm
    obtain ⟨label, expr⟩ := member
    have named : expr'.fieldName = expr.fieldName := first
    simp only [memberFields, named, ih rest.symm]

namespace Indistinct

variable {expr expr' expr'' : Expr}

/-- An expression is indistinct from itself. -/
theorem refl (expr : Expr) : Indistinct expr expr := ⟨rfl, rfl, rfl, rfl, fun _ => rfl, rfl⟩

/-- What is indistinct is so the other way round. -/
theorem symm (alike : Indistinct expr expr') : Indistinct expr' expr where
  fieldName := alike.fieldName.symm
  evaluate := alike.evaluate.symm
  predicate := alike.predicate.symm
  projectedFields := alike.projectedFields.symm
  assemble built := (alike.assemble built).symm
  indexClauses := alike.indexClauses.symm

/-- What is indistinct from something is so from all that this is indistinct from. -/
theorem trans (alike : Indistinct expr expr') (alike' : Indistinct expr' expr'') :
    Indistinct expr expr'' where
  fieldName := alike.fieldName.trans alike'.fieldName
  evaluate := alike.evaluate.trans alike'.evaluate
  predicate := alike.predicate.trans alike'.predicate
  projectedFields := alike.projectedFields.trans alike'.projectedFields
  assemble built := (alike.assemble built).trans (alike'.assemble built)
  indexClauses := alike.indexClauses.trans alike'.indexClauses

/-- The statements of indistinct chains are the same. -/
theorem select (alike : Indistinct expr expr') : expr.select = expr'.select := by
  rw [Expr.select, Expr.select, alike.assemble]

/-- The lookups of indistinct conjunctions are the same. -/
theorem indexScan (alike : Indistinct expr expr') (startKey : Value) (limit : UInt32) :
    expr.indexScan startKey limit = expr'.indexScan startKey limit := by
  rw [Expr.indexScan, Expr.indexScan, alike.indexClauses]

/-! ## One law for each node

What a law does not prove is the same for both nodes by definition: the compilers that refuse the
node do so without a look below it. -/

/-- A comparison asks for the name of its left side and the value of its right side. -/
theorem compare (op : Comparison) {left left' right right' : Expr}
    (named : left.fieldName = left'.fieldName) (evaluated : right.evaluate = right'.evaluate) :
    Indistinct (.compare op left right) (.compare op left' right') := by
  refine ⟨rfl, rfl, ?_, rfl, fun _ => rfl, ?_⟩
  · simp only [Expr.predicate, named, evaluated]
  · simp only [Expr.indexClauses, named, evaluated]

/-- A membership asks for the name of its field and the value of its set. -/
theorem membership {column column' values values' : Expr}
    (named : column.fieldName = column'.fieldName)
    (evaluated : values.evaluate = values'.evaluate) :
    Indistinct (.membership column values) (.membership column' values') := by
  refine ⟨rfl, rfl, ?_, rfl, fun _ => rfl, rfl⟩
  simp only [Expr.predicate, named, evaluated]

/-- A connective puts both its sides together. -/
theorem logical (op : Connective) {left left' right right' : Expr} (first : Indistinct left left')
    (second : Indistinct right right') :
    Indistinct (.logical op left right) (.logical op left' right') := by
  refine ⟨rfl, rfl, ?_, rfl, fun _ => rfl, ?_⟩
  · simp only [Expr.predicate, first.predicate, second.predicate]
  · cases op with
    | and => simp only [Expr.indexClauses, first.indexClauses, second.indexClauses]
    | or => rfl

/-- A denial asks for the clause of its operand. -/
theorem not {operand operand' : Expr} (inside : Indistinct operand operand') :
    Indistinct (.not operand) (.not operand') := by
  refine ⟨rfl, rfl, ?_, rfl, fun _ => rfl, rfl⟩
  simp only [Expr.predicate, inside.predicate]

/-- A list asks for the values of its items. -/
theorem list {items items' : List Expr}
    (evaluated : items.map Expr.evaluate = items'.map Expr.evaluate) :
    Indistinct (.list items) (.list items') := by
  refine ⟨rfl, ?_, rfl, rfl, fun _ => rfl, rfl⟩
  simp only [Expr.evaluate, evaluateItems_congr evaluated]

/-- An operation asks for the values of its operands. -/
theorem arithmetic (op : Arithmetic) {left left' right right' : Expr}
    (evaluated : left.evaluate = left'.evaluate) (evaluated' : right.evaluate = right'.evaluate) :
    Indistinct (.arithmetic op left right) (.arithmetic op left' right') := by
  refine ⟨rfl, ?_, rfl, rfl, fun _ => rfl, rfl⟩
  simp only [Expr.evaluate, evaluated, evaluated']

/-- A minus sign asks for the value of its operand. -/
theorem negate {operand operand' : Expr} (evaluated : operand.evaluate = operand'.evaluate) :
    Indistinct (.negate operand) (.negate operand') := by
  refine ⟨rfl, ?_, rfl, rfl, fun _ => rfl, rfl⟩
  simp only [Expr.evaluate, evaluated]

/-- A projection asks for the names of its members. -/
theorem projection {members members' : List Member}
    (named : members.map (·.expr.fieldName) = members'.map (·.expr.fieldName)) :
    Indistinct (.projection members) (.projection members') :=
  ⟨rfl, rfl, rfl, memberFields_congr named, fun _ => rfl, rfl⟩

/-- A step asks for what its target assembles, and for the clause or the fields of its argument. -/
theorem call (step : Step) {target target' argument argument' : Expr}
    (before : Indistinct target target') (added : Indistinct argument argument') :
    Indistinct (.call step target argument) (.call step target' argument') := by
  refine ⟨rfl, rfl, rfl, rfl, fun built => ?_, rfl⟩
  have reached := before.assemble built
  cases step with
  | filter => simp only [Expr.assemble, Assembly.add, reached, added.predicate]
  | project => simp only [Expr.assemble, Assembly.add, reached, added.projectedFields]

/-- A conversion hands on what is asked. -/
theorem convert (expr : Expr) : Indistinct (.convert expr) expr :=
  ⟨rfl, rfl, rfl, rfl, fun _ => rfl, rfl⟩

/-- A quotation hands on what is asked. -/
theorem quote (expr : Expr) : Indistinct (.quote expr) expr :=
  ⟨rfl, rfl, rfl, rfl, fun _ => rfl, rfl⟩

/-- The body of a function hands on what is asked. -/
theorem lambda (expr : Expr) : Indistinct (.lambda expr) expr :=
  ⟨rfl, rfl, rfl, rfl, fun _ => rfl, rfl⟩

/-- What hands on to indistinct expressions is indistinct. -/
theorem wrapped {wrapper wrapper' : Expr} (outer : Indistinct wrapper expr)
    (outer' : Indistinct wrapper' expr') (inside : Indistinct expr expr') :
    Indistinct wrapper wrapper' := outer.trans (inside.trans outer'.symm)

end Indistinct

end ColumnQuery.Expr
