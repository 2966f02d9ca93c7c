import ColumnQuery.Proofs.Clause.Chain
import ColumnQuery.Proofs.Clause.Indistinct
import ColumnQuery.Proofs.Expr.Place

/-!
# Literals may be folded

A literal is only ever asked for its value. So an expression that stands for a literal, or anywhere
within one, may be replaced by the constant of its value or by any other expression of the same
value: no compiler tells what is made of the whole from what it was, be there faults elsewhere or
not.
-/
namespace ColumnQuery

variable {part other : Expr}

/-- A node asks a literal for its value alone, and anything else for what compilers tell. -/
theorem Frame.indistinct (frame : Frame) (value : part.evaluate = other.evaluate)
    (alike : frame.isLiteral = false → part.Indistinct other) :
    (frame.fill part).Indistinct (frame.fill other) := by
  cases frame with
  | compareLeft op right => exact .compare op (alike rfl).fieldName rfl
  | compareRight op left => exact .compare op rfl value
  | logicalLeft op right => exact .logical op (alike rfl) (.refl _)
  | logicalRight op left => exact .logical op (.refl _) (alike rfl)
  | not => exact .not (alike rfl)
  | membershipColumn values => exact .membership (alike rfl).fieldName rfl
  | membershipValues column => exact .membership rfl value
  | item before behind => exact .list (by simp only [List.map_append, List.map_cons, value])
  | arithmeticLeft op right => exact .arithmetic op value rfl
  | arithmeticRight op left => exact .arithmetic op rfl value
  | negate => exact .negate value
  | member before label behind =>
    have named := (alike rfl).fieldName
    exact .projection (by simp only [List.map_append, List.map_cons, named])
  | callTarget step argument => exact .call step (alike rfl) (.refl _)
  | callArgument step target => exact .call step (.refl _) (alike rfl)
  | convert => exact .wrapped (.convert part) (.convert other) (alike rfl)
  | quote => exact .wrapped (.quote part) (.quote other) (alike rfl)
  | lambda => exact .wrapped (.lambda part) (.lambda other) (alike rfl)

/-- The value of a node depends on the values below it alone. -/
theorem Frame.evaluate_fill (frame : Frame) (value : part.evaluate = other.evaluate) :
    (frame.fill part).evaluate = (frame.fill other).evaluate := by
  by_cases literal : frame.isLiteral = true
  · have alike := frame.indistinct value fun impossible => by simp [literal] at impossible
    exact alike.evaluate
  · cases frame with
    | convert | quote | lambda => exact value
    | compareRight | membershipValues | item | arithmeticLeft | arithmeticRight | negate =>
      exact absurd rfl literal
    | _ => rfl

/-- The value of an expression depends on the values of its parts alone. -/
theorem Place.evaluate_fill (place : Place) (value : part.evaluate = other.evaluate) :
    (place.fill part).evaluate = (place.fill other).evaluate := by
  induction place with
  | nil => exact value
  | cons frame place ih => exact frame.evaluate_fill ih

/-- No compiler tells literals of the same value apart, wherever they stand. -/
theorem Place.indistinct {place : Place} (literal : place.OnLiteralSide)
    (value : part.evaluate = other.evaluate) :
    (place.fill part).Indistinct (place.fill other) := by
  induction place with
  | nil =>
    obtain ⟨frame, impossible, _⟩ := literal
    cases impossible
  | cons frame place ih =>
    -- The literal is open at this node, or at one further down.
    refine frame.indistinct (Place.evaluate_fill place value) fun passes => ih ?_
    obtain ⟨below, listed, literal⟩ := literal
    cases listed with
    | head =>
      rw [passes] at literal
      contradiction
    | tail _ inside => exact ⟨below, inside, literal⟩

namespace Expr

/-- Two expressions have the same value, clause, statement and lookups, or the same fault in the
place of each. -/
structure CompilesAlike (expr expr' : Expr) : Prop where
  evaluate : expr.evaluate = expr'.evaluate
  predicate : expr.predicate = expr'.predicate
  select : expr.select = expr'.select
  indexScan : ∀ startKey limit, expr.indexScan startKey limit = expr'.indexScan startKey limit

/-- What no compiler tells apart compiles alike. -/
theorem Indistinct.compilesAlike {expr expr' : Expr} (alike : expr.Indistinct expr') :
    expr.CompilesAlike expr' :=
  ⟨alike.evaluate, alike.predicate, alike.select, alike.indexScan⟩

/-- **Folding literals changes nothing.** Wherever a part with a value stands in an expression, any
other expression of that value in its place leaves the value of the whole as it is, faults included;
and where the part is a literal or stands within one, all that the whole compiles to. The constant
of the value is such an expression. -/
theorem folding_invisible {part : Expr} {value : Value}
    (evaluates : part.evaluate = .ok value) :
    (∀ whole : Expr, part.Within whole ↔ ∃ place : Place, place.fill part = whole) ∧
    ∀ (place : Place) (other : Expr), other = constant value ∨ other.evaluate = .ok value →
      (place.fill other).evaluate = (place.fill part).evaluate ∧
      (place.OnLiteralSide → (place.fill other).CompilesAlike (place.fill part)) := by
  refine ⟨fun whole => within_iff_exists_place, fun place other replaces => ?_⟩
  have evaluates' : other.evaluate = .ok value := by
    rcases replaces with rfl | evaluates'
    · rfl
    · exact evaluates'
  have same : other.evaluate = part.evaluate := evaluates'.trans evaluates.symm
  exact ⟨place.evaluate_fill same, fun literal => (Place.indistinct literal same).compilesAlike⟩

/-- A text joined of two, in a set within a query, is folded to the constant of its value. -/
theorem folding_invisible_set :
    let joined := arithmetic .add (constant (.text "Ada")) (convert (constant (.text "ma")))
    let place : Place := [.callArgument .filter (source "Users"), .lambda,
      .logicalLeft .and (compareField "Age" .eq .null), .membershipValues (field "Name"),
      .item [constant .null] []]
    (joined.evaluate = .ok (.text "Adama") ∧ place.OnLiteralSide) ∧
    (place.fill (constant (.text "Adama"))).CompilesAlike (place.fill joined) ∧
    (place.fill joined).select =
      .ok ⟨"Users", [], some "(Name IN (NULL,'Adama') AND Age IS NULL)"⟩ := by
  intro joined place
  have evaluates : joined.evaluate = .ok (.text "Adama") := by rfl
  have literal : place.OnLiteralSide := ⟨.membershipValues (field "Name"), by simp [place], rfl⟩
  have alike := ((folding_invisible evaluates).2 place _ (.inl rfl)).2 literal
  exact ⟨⟨evaluates, literal⟩, alike, by decide +kernel⟩

end Expr

end ColumnQuery
