import ColumnQuery.Proofs.Clause.Indistinct

/-!
# Predicates that say the same

A predicate restates another one if it has the same nodes outside wrappers, with operands that name
the same fields and have the same values. Every compiler of predicates takes both alike, whether it
succeeds or not.
-/
namespace ColumnQuery.Expr

/-- The second predicate restates the first, without the wrappers around its nodes. -/
inductive Restates : Expr → Expr → Prop where
  | compare {op : Comparison} {left right left' right' : Expr}
      (named : left'.fieldName = left.fieldName) (evaluated : right'.evaluate = right.evaluate) :
      Restates (compare op left right) (compare op left' right')
  | logical {op : Connective} {left right left' right' : Expr} (first : Restates left left')
      (second : Restates right right') : Restates (logical op left right) (logical op left' right')
  | not {operand operand' : Expr} (inside : Restates operand operand') :
      Restates (not operand) (not operand')
  | membership {column values column' values' : Expr}
      (named : column'.fieldName = column.fieldName)
      (evaluated : values'.evaluate = values.evaluate) :
      Restates (membership column values) (membership column' values')
  | convert {inner predicate : Expr} (inside : Restates inner predicate) :
      Restates (convert inner) predicate
  | quote {inner predicate : Expr} (inside : Restates inner predicate) :
      Restates (quote inner) predicate
  | lambda {inner predicate : Expr} (inside : Restates inner predicate) :
      Restates (lambda inner) predicate

/-- No compiler tells predicates apart that say the same. -/
theorem Restates.indistinct {expr expr' : Expr} (same : Restates expr expr') :
    expr'.Indistinct expr := by
  induction same with
  | compare named evaluated => exact .compare _ named evaluated
  | logical first second ihFirst ihSecond => exact .logical _ ihFirst ihSecond
  | not inside ih => exact .not ih
  | membership named evaluated => exact .membership named evaluated
  | @convert inner predicate inside ih => exact ih.trans (.symm (.convert inner))
  | @quote inner predicate inside ih => exact ih.trans (.symm (.quote inner))
  | @lambda inner predicate inside ih => exact ih.trans (.symm (.lambda inner))

/-- What says the same is the same clause text. -/
theorem Restates.predicate {expr expr' : Expr} (same : Restates expr expr') :
    expr'.predicate = expr.predicate := same.indistinct.predicate

/-- What says the same is the same index lookup. -/
theorem Restates.indexScan {expr expr' : Expr} (same : Restates expr expr') (startKey : Value)
    (limit : UInt32) : expr'.indexScan startKey limit = expr.indexScan startKey limit :=
  same.indistinct.indexScan startKey limit

end ColumnQuery.Expr
