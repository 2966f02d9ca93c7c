import ColumnQuery.Proofs.Clause.Indistinct
import ColumnQuery.Proofs.Expr.Induction

/-!
# Wrappers have no meaning

`Expr.erase` removes the wrappers at every depth, where `Expr.bare` only looks through the outermost
ones. Each reading of an expression looks through the wrappers at each place it comes to, so nothing
tells an expression from what is left of it: the same values, texts, statements, lookups and faults
(`Expr.Alike`).
-/
namespace ColumnQuery.Expr

mutual

/-- An expression without its wrappers at any depth. -/
def erase : Expr → Expr
  | compare op left right => compare op (erase left) (erase right)
  | logical op left right => logical op (erase left) (erase right)
  | not operand => not (erase operand)
  | membership column values => membership (erase column) (erase values)
  | list items => list (eraseItems items)
  | arithmetic op left right => arithmetic op (erase left) (erase right)
  | negate operand => negate (erase operand)
  | projection members => projection (eraseMembers members)
  | call step target argument => call step (erase target) (erase argument)
  | convert inner => erase inner
  | quote inner => erase inner
  | lambda inner => erase inner
  | leaf => leaf

/-- Items without their wrappers. -/
def eraseItems : List Expr → List Expr
  | [] => []
  | item :: items => erase item :: eraseItems items

/-- Members without their wrappers. -/
def eraseMembers : List Member → List Member
  | [] => []
  | ⟨label, expr⟩ :: members => ⟨label, erase expr⟩ :: eraseMembers members

end

/-- No wrapper stands anywhere in an expression. -/
inductive Unwrapped : Expr → Prop where
  | constant (value : Value) : Unwrapped (constant value)
  | field (name : String) : Unwrapped (field name)
  | row : Unwrapped row
  | compare {op : Comparison} {left right : Expr} (first : Unwrapped left)
      (second : Unwrapped right) : Unwrapped (compare op left right)
  | logical {op : Connective} {left right : Expr} (first : Unwrapped left)
      (second : Unwrapped right) : Unwrapped (logical op left right)
  | not {operand : Expr} (inside : Unwrapped operand) : Unwrapped (not operand)
  | membership {column values : Expr} (first : Unwrapped column) (second : Unwrapped values) :
      Unwrapped (membership column values)
  | list {items : List Expr} (inside : ∀ item ∈ items, Unwrapped item) : Unwrapped (list items)
  | arithmetic {op : Arithmetic} {left right : Expr} (first : Unwrapped left)
      (second : Unwrapped right) : Unwrapped (arithmetic op left right)
  | negate {operand : Expr} (inside : Unwrapped operand) : Unwrapped (negate operand)
  | source (name : String) : Unwrapped (source name)
  | projection {members : List Member} (inside : ∀ member ∈ members, Unwrapped member.expr) :
      Unwrapped (projection members)
  | call {step : Step} {target argument : Expr} (first : Unwrapped target)
      (second : Unwrapped argument) : Unwrapped (call step target argument)

/-- Items lose their wrappers one by one. -/
theorem eraseItems_eq_map (items : List Expr) : eraseItems items = items.map erase := by
  induction items with
  | nil => rfl
  | cons item items ih => rw [eraseItems, ih, List.map_cons]

/-- Members lose their wrappers one by one and keep their labels. -/
theorem eraseMembers_eq_map (members : List Member) :
    eraseMembers members = members.map fun member => ⟨member.label, member.expr.erase⟩ := by
  induction members with
  | nil => rfl
  | cons member members ih =>
    obtain ⟨label, expr⟩ := member
    rw [eraseMembers, ih, List.map_cons]

/-- Nothing is left of the wrappers. -/
theorem unwrapped_erase (expr : Expr) : expr.erase.Unwrapped := by
  induction expr with
  | constant value => exact .constant value
  | field name => exact .field name
  | row => exact .row
  | compare op left right ihLeft ihRight => exact .compare ihLeft ihRight
  | logical op left right ihLeft ihRight => exact .logical ihLeft ihRight
  | not operand ih => exact .not ih
  | membership column values ihColumn ihValues => exact .membership ihColumn ihValues
  | list items ih =>
    refine .list fun item member => ?_
    rw [eraseItems_eq_map] at member
    obtain ⟨original, listed, rfl⟩ := List.mem_map.mp member
    exact ih original listed
  | arithmetic op left right ihLeft ihRight => exact .arithmetic ihLeft ihRight
  | negate operand ih => exact .negate ih
  | source name => exact .source name
  | projection members ih =>
    refine .projection fun member listed => ?_
    rw [eraseMembers_eq_map] at listed
    obtain ⟨original, held, rfl⟩ := List.mem_map.mp listed
    exact ih original held
  | call step target argument ihTarget ihArgument => exact .call ihTarget ihArgument
  | convert inner ih | quote inner ih | lambda inner ih => exact ih

/-- Nothing else is taken away. -/
theorem Unwrapped.erase_eq_self {expr : Expr} (unwrapped : expr.Unwrapped) :
    expr.erase = expr := by
  induction unwrapped with
  | constant | field | row | source => rfl
  | compare first second ihFirst ihSecond | logical first second ihFirst ihSecond
  | membership first second ihFirst ihSecond | arithmetic first second ihFirst ihSecond
  | call first second ihFirst ihSecond => rw [erase, ihFirst, ihSecond]
  | not inside ih | negate inside ih => rw [erase, ih]
  | list inside ih =>
    rw [erase, eraseItems_eq_map, List.map_congr_left ih, List.map_id']
  | @projection members inside ih =>
    have same : ∀ member ∈ members, (⟨member.label, member.expr.erase⟩ : Member) = member := by
      rintro ⟨label, expr⟩ listed
      exact congrArg (Member.mk label) (ih ⟨label, expr⟩ listed)
    rw [erase, eraseMembers_eq_map, List.map_congr_left same, List.map_id']

/-! ## Each reading looks through wrappers -/

/-- Compilers tell no expression from what is left without its wrappers. -/
theorem indistinct_erase (expr : Expr) : expr.erase.Indistinct expr := by
  induction expr with
  | compare op left right ihLeft ihRight => exact .compare op ihLeft.fieldName ihRight.evaluate
  | logical op left right ihLeft ihRight => exact .logical op ihLeft ihRight
  | not operand ih => exact .not ih
  | membership column values ihColumn ihValues =>
    exact .membership ihColumn.fieldName ihValues.evaluate
  | list items ih =>
    refine .list ?_
    rw [eraseItems_eq_map, List.map_map]
    exact List.map_congr_left fun item listed => (ih item listed).evaluate
  | arithmetic op left right ihLeft ihRight =>
    exact .arithmetic op ihLeft.evaluate ihRight.evaluate
  | negate operand ih => exact .negate ih.evaluate
  | projection members ih =>
    refine .projection ?_
    rw [eraseMembers_eq_map, List.map_map]
    exact List.map_congr_left fun member held => (ih member held).fieldName
  | call step target argument ihTarget ihArgument => exact .call step ihTarget ihArgument
  | convert inner ih => exact ih.trans (.symm (.convert inner))
  | quote inner ih => exact ih.trans (.symm (.quote inner))
  | lambda inner ih => exact ih.trans (.symm (.lambda inner))
  | constant | field | row | source => exact .refl _

/-- Values are those of the expression without wrappers. -/
theorem evaluate_erase (expr : Expr) : expr.erase.evaluate = expr.evaluate :=
  expr.indistinct_erase.evaluate

/-- Items are shown as what they are shown as one by one. -/
theorem displayItems_congr {items : List Expr} {f : Expr → Expr}
    (same : ∀ item ∈ items, (f item).display = item.display) :
    displayItems (items.map f) = displayItems items := by
  induction items with
  | nil => rfl
  | cons item items ih =>
    have first := same item List.mem_cons_self
    have others := ih fun item listed => same item (List.mem_cons_of_mem _ listed)
    cases items with
    | nil => exact first
    | cons second items =>
      rw [List.map_cons] at others
      simp only [List.map_cons, displayItems, first, others]

/-- Members are shown as what they hold is shown, after their labels. -/
theorem displayMembers_erase {members : List Member}
    (same : ∀ member ∈ members, member.expr.erase.display = member.expr.display) :
    displayMembers (eraseMembers members) = displayMembers members := by
  induction members with
  | nil => rfl
  | cons member members ih =>
    have first := same member List.mem_cons_self
    have others := ih fun member listed => same member (List.mem_cons_of_mem _ listed)
    obtain ⟨label, expr⟩ := member
    cases members with
    | nil => simp only [eraseMembers, displayMembers, first]
    | cons second members =>
      obtain ⟨label', expr'⟩ := second
      rw [eraseMembers] at others
      simp only [eraseMembers, displayMembers, first, others]

/-- An expression is shown without its wrappers. -/
theorem display_erase (expr : Expr) : expr.erase.display = expr.display := by
  induction expr with
  | compare op left right ihLeft ihRight | logical op left right ihLeft ihRight
  | membership left right ihLeft ihRight | arithmetic op left right ihLeft ihRight
  | call step left right ihLeft ihRight => rw [erase, display, ihLeft, ihRight, display]
  | not operand ih | negate operand ih => rw [erase, display, ih, display]
  | list items ih => rw [erase, eraseItems_eq_map, display, displayItems_congr ih, display]
  | projection members ih => rw [erase, display, displayMembers_erase ih, display]
  | convert inner ih | quote inner ih | lambda inner ih => exact ih
  | _ => rfl

/-! ## No reading tells the wrappers -/

/-- Two expressions have the same value, literal, clause, fields, statement, lookup and display, or
the same fault in the place of each. -/
structure Alike (expr expr' : Expr) : Prop where
  evaluate : expr.evaluate = expr'.evaluate
  literal : expr.literal = expr'.literal
  predicate : expr.predicate = expr'.predicate
  projectedFields : expr.projectedFields = expr'.projectedFields
  select : expr.select = expr'.select
  indexScan : ∀ startKey limit, expr.indexScan startKey limit = expr'.indexScan startKey limit
  display : expr.display = expr'.display

/-- Removing the wrappers changes nothing. -/
theorem alike_erase (expr : Expr) : expr.Alike expr.erase where
  evaluate := expr.evaluate_erase.symm
  literal := by rw [literal, literal, evaluate_erase]
  predicate := expr.indistinct_erase.predicate.symm
  projectedFields := expr.indistinct_erase.projectedFields.symm
  select := expr.indistinct_erase.symm.select
  indexScan := expr.indistinct_erase.symm.indexScan
  display := expr.display_erase.symm

/-- What is alike is alike the other way round. -/
theorem Alike.symm {expr expr' : Expr} (alike : expr.Alike expr') : expr'.Alike expr where
  evaluate := alike.evaluate.symm
  literal := alike.literal.symm
  predicate := alike.predicate.symm
  projectedFields := alike.projectedFields.symm
  select := alike.select.symm
  indexScan startKey limit := (alike.indexScan startKey limit).symm
  display := alike.display.symm

/-- What is alike something is alike all that this is alike. -/
theorem Alike.trans {first second third : Expr} (alike : first.Alike second)
    (alike' : second.Alike third) : first.Alike third where
  evaluate := alike.evaluate.trans alike'.evaluate
  literal := alike.literal.trans alike'.literal
  predicate := alike.predicate.trans alike'.predicate
  projectedFields := alike.projectedFields.trans alike'.projectedFields
  select := alike.select.trans alike'.select
  indexScan startKey limit :=
    (alike.indexScan startKey limit).trans (alike'.indexScan startKey limit)
  display := alike.display.trans alike'.display

/-- **Nothing tells the wrappers of an expression.** Without its wrappers at any depth it has the
same readings, faults included; so have any two expressions that differ only in where wrappers
stand. -/
theorem alike_of_erase (expr : Expr) :
    expr.erase.Unwrapped ∧ (expr.Unwrapped → expr.erase = expr) ∧ expr.Alike expr.erase ∧
      ∀ other : Expr, other.erase = expr.erase → expr.Alike other := by
  refine ⟨expr.unwrapped_erase, Unwrapped.erase_eq_self, expr.alike_erase, fun other same => ?_⟩
  have alike := expr.alike_erase
  rw [← same] at alike
  exact alike.trans other.alike_erase.symm

end ColumnQuery.Expr
