import ColumnQuery.Expr.Evaluate

/-!
# Predicate clauses

`Expr.predicate` writes a predicate as the text of a WHERE clause: every connective in brackets,
every literal evaluated first. Two clauses are joined by `conjoin`.
-/
namespace ColumnQuery

/-- A comparison in a clause. Equality and inequality with null have words of their own. -/
def Comparison.clause (op : Comparison) (field : String) (value : Value) : String :=
  match op, value with
  | .eq, .null => field ++ " IS NULL"
  | .ne, .null => field ++ " IS NOT NULL"
  | op, value => field ++ " " ++ op.symbol ++ " " ++ value.literal

/-- A membership in a clause. -/
def membershipClause (field : String) (items : List Value) : String :=
  field ++ " IN (" ++ String.ofList (Value.literalsChars items) ++ ")"

/-- The values of a set. -/
def Value.items : Value → Except Unsupported (List Value)
  | list items => .ok items
  | value => .error (.notList value.kind)

/-- The clause of a predicate, or the first fault from the left. -/
def Expr.predicate : Expr → Except Unsupported String
  | .compare op left right => do
    let field ← left.fieldName
    let value ← right.evaluate
    .ok (op.clause field value)
  | .logical op left right => do
    let left ← predicate left
    let right ← predicate right
    .ok ("(" ++ left ++ " " ++ op.keyword ++ " " ++ right ++ ")")
  | .not operand => do
    let operand ← predicate operand
    .ok ("NOT (" ++ operand ++ ")")
  | .membership column values => do
    let field ← column.fieldName
    let set ← values.evaluate
    let items ← set.items
    .ok (membershipClause field items)
  | .convert inner => predicate inner
  | .quote inner => predicate inner
  | .lambda inner => predicate inner
  | expr => .error (.expression expr.kind)

/-- A clause after another one, both to hold. An empty clause before it counts for nothing. -/
def conjoin (existing : Option String) (added : String) : String :=
  match existing with
  | some clause => if clause = "" then added else "(" ++ clause ++ " AND " ++ added ++ ")"
  | none => added

end ColumnQuery
