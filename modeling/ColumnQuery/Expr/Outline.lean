import ColumnQuery.Expr
import ColumnQuery.Text.Escaped

/-!
# Outlines

An outline shows an expression as it is built, constructor by constructor, with the names of fields.
-/
namespace ColumnQuery

/-- Floating point numbers in an outline: plain notation with a point from 10^-4 to below 10^16. -/
def outlineLayout : Layout where
  tie := .up
  positional power := -4 ≤ power && power ≤ 15
  keepsPoint := true
  plusSign := false
  infinityText := "inf"

/-- A constructor around what it holds. -/
def outlineOf (name content : String) : String := name ++ "(" ++ content ++ ")"

/-- A constructor with named fields. -/
def outlineFields (name : String) (fields : List (String × String)) : String :=
  let written := fields.map fun (key, content) => key ++ ": " ++ content
  name ++ " \x7b " ++ String.intercalate ", " written ++ " \x7d"

/-- Items between square brackets. -/
def outlineItems (items : List String) : String := "[" ++ String.intercalate ", " items ++ "]"

namespace Value

mutual

/-- The outline of a value. -/
def outline : Value → String
  | null => Kind.null.name
  | bool b => outlineOf Kind.bool.name (if b then "true" else "false")
  | int n => outlineOf Kind.int.name (String.ofList (decimalText n.value))
  | float x => outlineOf Kind.float.name (outlineLayout.text x)
  | text s => outlineOf Kind.text.name (Text.Escaped.encode s)
  | uuid u => outlineOf Kind.uuid.name u.text
  | timestamp t => outlineOf Kind.timestamp.name t.text
  | blob bytes =>
    outlineOf Kind.blob.name
      (outlineItems (bytes.map fun byte => String.ofList (decimalText byte.toNat)))
  | list items => outlineOf Kind.list.name (outlineItems (outlines items))

/-- The outlines of values in order. -/
def outlines : List Value → List String
  | [] => []
  | item :: items => outline item :: outlines items

end

end Value

namespace Expr

/-- The outline of a label. -/
def labelOutline : Option String → String
  | none => "None"
  | some label => outlineOf "Some" (Text.Escaped.encode label)

mutual

/-- The outline of an expression. -/
def outline : Expr → String
  | constant value => outlineOf Kind.constant.name value.outline
  | field name => outlineOf Kind.field.name (Text.Escaped.encode name)
  | row => Kind.row.name
  | compare op left right =>
    outlineFields Kind.compare.name
      [("op", op.name), ("left", outline left), ("right", outline right)]
  | logical op left right =>
    outlineFields Kind.logical.name
      [("op", op.name), ("left", outline left), ("right", outline right)]
  | not operand => outlineOf Kind.not.name (outline operand)
  | membership column values =>
    outlineFields Kind.membership.name [("field", outline column), ("values", outline values)]
  | list items => outlineOf Kind.list.name (outlineItems (outlines items))
  | arithmetic op left right =>
    outlineFields Kind.arithmetic.name
      [("op", op.name), ("left", outline left), ("right", outline right)]
  | negate operand => outlineOf Kind.negate.name (outline operand)
  | source name => outlineOf Kind.source.name (Text.Escaped.encode name)
  | projection members => outlineOf Kind.projection.name (outlineItems (memberOutlines members))
  | call step target argument =>
    outlineFields Kind.call.name
      [("method", step.name), ("target", outline target), ("argument", outline argument)]
  | convert inner => outlineOf Kind.convert.name (outline inner)
  | quote inner => outlineOf Kind.quote.name (outline inner)
  | lambda inner => outlineOf Kind.lambda.name (outline inner)

/-- The outlines of expressions in order. -/
def outlines : List Expr → List String
  | [] => []
  | item :: items => outline item :: outlines items

/-- The outlines of members in order. -/
def memberOutlines : List Member → List String
  | [] => []
  | ⟨label, expr⟩ :: members =>
    outlineFields "Binding" [("alias", labelOutline label), ("expr", outline expr)] ::
      memberOutlines members

end

end Expr

end ColumnQuery
