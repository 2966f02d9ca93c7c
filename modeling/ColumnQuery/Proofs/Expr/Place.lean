import ColumnQuery.Proofs.Expr.Leaves

/-!
# Places in expressions

A place is an expression with one part left open: the nodes from the outermost down to the part,
each with the rest of what stands directly below it (`Frame`). Every part of an expression stands at
a place, and a place can be filled with anything.
-/
namespace ColumnQuery

/-- A node with one of the expressions directly below it left open. -/
inductive Frame where
  | compareLeft (op : Comparison) (right : Expr)
  | compareRight (op : Comparison) (left : Expr)
  | logicalLeft (op : Connective) (right : Expr)
  | logicalRight (op : Connective) (left : Expr)
  | not
  | membershipColumn (values : Expr)
  | membershipValues (column : Expr)
  | item (before behind : List Expr)
  | arithmeticLeft (op : Arithmetic) (right : Expr)
  | arithmeticRight (op : Arithmetic) (left : Expr)
  | negate
  | member (before : List Member) (label : Option String) (behind : List Member)
  | callTarget (step : Step) (argument : Expr)
  | callArgument (step : Step) (target : Expr)
  | convert
  | quote
  | lambda

namespace Frame

/-- The node with its open part filled. -/
def fill : Frame → Expr → Expr
  | compareLeft op right, part => .compare op part right
  | compareRight op left, part => .compare op left part
  | logicalLeft op right, part => .logical op part right
  | logicalRight op left, part => .logical op left part
  | not, part => .not part
  | membershipColumn values, part => .membership part values
  | membershipValues column, part => .membership column part
  | item before behind, part => .list (before ++ part :: behind)
  | arithmeticLeft op right, part => .arithmetic op part right
  | arithmeticRight op left, part => .arithmetic op left part
  | negate, part => .negate part
  | member before label behind, part => .projection (before ++ ⟨label, part⟩ :: behind)
  | callTarget step argument, part => .call step part argument
  | callArgument step target, part => .call step target part
  | convert, part => .convert part
  | quote, part => .quote part
  | lambda, part => .lambda part

/-- The open part is a literal: the right side of a comparison, the set of a membership, an item of
a list or an operand of arithmetic. -/
def isLiteral : Frame → Bool
  | compareRight .. | membershipValues _ | item .. | arithmeticLeft .. | arithmeticRight ..
  | negate => true
  | _ => false

end Frame

namespace Expr

/-- What stands directly below a node is what its frames leave open. -/
theorem mem_children_iff {part whole : Expr} :
    part ∈ whole.children ↔ ∃ frame : Frame, frame.fill part = whole := by
  have either {first second : Expr} : part ∈ [first, second] → part = first ∨ part = second := by
    simp
  constructor
  · intro child
    cases whole with
    | constant | field | row | source => cases child
    | not inner =>
      obtain rfl := List.mem_singleton.mp child
      exact ⟨.not, rfl⟩
    | negate inner =>
      obtain rfl := List.mem_singleton.mp child
      exact ⟨.negate, rfl⟩
    | convert inner =>
      obtain rfl := List.mem_singleton.mp child
      exact ⟨.convert, rfl⟩
    | quote inner =>
      obtain rfl := List.mem_singleton.mp child
      exact ⟨.quote, rfl⟩
    | lambda inner =>
      obtain rfl := List.mem_singleton.mp child
      exact ⟨.lambda, rfl⟩
    | compare op left right =>
      rcases either child with rfl | rfl
      · exact ⟨.compareLeft op right, rfl⟩
      · exact ⟨.compareRight op left, rfl⟩
    | logical op left right =>
      rcases either child with rfl | rfl
      · exact ⟨.logicalLeft op right, rfl⟩
      · exact ⟨.logicalRight op left, rfl⟩
    | arithmetic op left right =>
      rcases either child with rfl | rfl
      · exact ⟨.arithmeticLeft op right, rfl⟩
      · exact ⟨.arithmeticRight op left, rfl⟩
    | membership column values =>
      rcases either child with rfl | rfl
      · exact ⟨.membershipColumn values, rfl⟩
      · exact ⟨.membershipValues column, rfl⟩
    | call step target argument =>
      rcases either child with rfl | rfl
      · exact ⟨.callTarget step argument, rfl⟩
      · exact ⟨.callArgument step target, rfl⟩
    | list items =>
      obtain ⟨before, behind, rfl⟩ := List.append_of_mem child
      exact ⟨.item before behind, rfl⟩
    | projection members =>
      obtain ⟨⟨label, expr⟩, held, rfl⟩ := List.mem_map.mp child
      obtain ⟨before, behind, rfl⟩ := List.append_of_mem held
      exact ⟨.member before label behind, rfl⟩
  · rintro ⟨frame, rfl⟩
    cases frame <;> simp [Frame.fill, children]

end Expr

/-- The way from an expression down to one part of it, from the outermost node. -/
abbrev Place := List Frame

namespace Place

/-- The expression with its open part filled. -/
def fill (place : Place) (part : Expr) : Expr := place.foldr Frame.fill part

/-- The open part is a literal or stands within one. -/
def OnLiteralSide (place : Place) : Prop := ∃ frame ∈ place, frame.isLiteral = true

end Place

/-- The parts of an expression are those that stand at a place of it. -/
theorem Expr.within_iff_exists_place {part whole : Expr} :
    part.Within whole ↔ ∃ place : Place, place.fill part = whole := by
  constructor
  · intro within
    induction within with
    | refl => exact ⟨[], rfl⟩
    | tail _ child ih =>
      obtain ⟨place, rfl⟩ := ih
      obtain ⟨frame, rfl⟩ := mem_children_iff.mp child
      exact ⟨frame :: place, rfl⟩
  · rintro ⟨place, rfl⟩
    induction place with
    | nil => exact .refl
    | cons frame place ih => exact ih.tail (mem_children_iff.mpr ⟨frame, rfl⟩)

end ColumnQuery
