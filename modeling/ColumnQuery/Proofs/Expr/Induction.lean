import ColumnQuery.Expr

/-!
# Induction on values and expressions

Values hold lists of values, and expressions hold lists of items and of members. What holds of all
parts of a collection may be assumed of each of them.
-/
namespace ColumnQuery

/-- A property of all values, from each value's parts. -/
@[elab_as_elim, induction_eliminator]
theorem Value.induction {motive : Value → Prop}
    (null : motive .null)
    (bool : ∀ b, motive (.bool b))
    (int : ∀ n, motive (.int n))
    (float : ∀ x, motive (.float x))
    (text : ∀ s, motive (.text s))
    (uuid : ∀ u, motive (.uuid u))
    (timestamp : ∀ t, motive (.timestamp t))
    (blob : ∀ bytes, motive (.blob bytes))
    (list : ∀ items, (∀ item ∈ items, motive item) → motive (.list items))
    (value : Value) : motive value := by
  refine Value.rec (motive_1 := motive) (motive_2 := fun items => ∀ item ∈ items, motive item)
    null bool int float text uuid timestamp blob list ?_ ?_ value
  · intro item member
    cases member
  · intro first others holds holdOthers item member
    cases member with
    | head => exact holds
    | tail _ inside => exact holdOthers item inside

/-- A property of all expressions, from each expression's parts. -/
@[elab_as_elim, induction_eliminator]
theorem Expr.induction {motive : Expr → Prop}
    (constant : ∀ value, motive (.constant value))
    (field : ∀ name, motive (.field name))
    (row : motive .row)
    (compare : ∀ op left right, motive left → motive right → motive (.compare op left right))
    (logical : ∀ op left right, motive left → motive right → motive (.logical op left right))
    (not : ∀ operand, motive operand → motive (.not operand))
    (membership : ∀ column values, motive column → motive values →
      motive (.membership column values))
    (list : ∀ items, (∀ item ∈ items, motive item) → motive (.list items))
    (arithmetic : ∀ op left right, motive left → motive right →
      motive (.arithmetic op left right))
    (negate : ∀ operand, motive operand → motive (.negate operand))
    (source : ∀ name, motive (.source name))
    (projection : ∀ members, (∀ member ∈ members, motive member.expr) →
      motive (.projection members))
    (call : ∀ step target argument, motive target → motive argument →
      motive (.call step target argument))
    (convert : ∀ inner, motive inner → motive (.convert inner))
    (quote : ∀ inner, motive inner → motive (.quote inner))
    (lambda : ∀ inner, motive inner → motive (.lambda inner))
    (expr : Expr) : motive expr := by
  refine Expr.rec (motive_1 := motive) (motive_2 := fun member => motive member.expr)
    (motive_3 := fun items => ∀ item ∈ items, motive item)
    (motive_4 := fun members => ∀ member ∈ members, motive member.expr)
    constant field row compare logical not membership list arithmetic negate source projection call
    convert quote lambda ?_ ?_ ?_ ?_ ?_ expr
  · intro label expr holds
    exact holds
  · intro item member
    cases member
  · intro first others holds holdOthers item member
    cases member with
    | head => exact holds
    | tail _ inside => exact holdOthers item inside
  · intro item member
    cases member
  · intro first others holds holdOthers item member
    cases member with
    | head => exact holds
    | tail _ inside => exact holdOthers item inside

end ColumnQuery
