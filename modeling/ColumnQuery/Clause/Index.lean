import ColumnQuery.Expr.Evaluate

/-!
# Index clauses

A lookup in a secondary index takes a conjunction of comparisons as a list of fields, relations and
values in order. Values stay typed and are not written as text.
-/
namespace ColumnQuery

/-- The comparisons that an index can answer. -/
inductive Relation where
  | eq
  | gt
  | ge
  | lt
  | le
deriving DecidableEq

namespace Relation

/-- The relation of a comparison; there is none for inequality. -/
def ofComparison : Comparison → Except Unsupported Relation
  | .eq => .ok eq
  | .gt => .ok gt
  | .ge => .ok ge
  | .lt => .ok lt
  | .le => .ok le
  | .ne => .error .inequality

/-- The letters that name the relation. -/
def code : Relation → String
  | eq => "EQ"
  | gt => "GT"
  | ge => "GTE"
  | lt => "LT"
  | le => "LTE"

/-- The name of a relation in a tree. -/
def name : Relation → String
  | eq => "Eq"
  | gt => "Gt"
  | ge => "Ge"
  | lt => "Lt"
  | le => "Le"

/-- The relation of a name. -/
def ofName? (name : String) : Option Relation := [eq, gt, ge, lt, le].find? (·.name == name)

/-- A relation is found by its name. -/
theorem ofName?_name (relation : Relation) : ofName? relation.name = some relation := by
  cases relation <;> decide

end Relation

/-- One comparison of an index lookup. -/
structure IndexClause where
  /-- The compared field. -/
  field : String
  /-- How it is compared. -/
  relation : Relation
  /-- What it is compared with. -/
  value : Value

/-- A clause as it is shown. -/
def IndexClause.display (clause : IndexClause) : String :=
  clause.field ++ " " ++ clause.relation.code ++ " " ++ clause.value.literal

/-- A compiled index lookup. -/
structure IndexScan where
  /-- The row key the scan starts from. -/
  startKey : Value
  /-- The greatest number of rows returned. -/
  limit : UInt32
  /-- The comparisons, all to hold, in order. -/
  clauses : List IndexClause

namespace Expr

/-- The clauses of a conjunction in order, or the first fault from the left. -/
def indexClauses : Expr → Except Unsupported (List IndexClause)
  | logical .and left right => do
    let first ← indexClauses left
    let second ← indexClauses right
    .ok (first ++ second)
  | compare op left right => do
    let relation ← Relation.ofComparison op
    let field ← left.fieldName
    let value ← right.evaluate
    if value.isNull then .error (.nullIndexValue field) else .ok [⟨field, relation, value⟩]
  | logical .or _ _ => .error .alternative
  | convert inner => indexClauses inner
  | quote inner => indexClauses inner
  | lambda inner => indexClauses inner
  | expr => .error (.notIndexable expr.kind)

/-- The index lookup of a conjunction. -/
def indexScan (expr : Expr) (startKey : Value) (limit : UInt32) : Except Unsupported IndexScan := do
  let clauses ← expr.indexClauses
  .ok ⟨startKey, limit, clauses⟩

end Expr

end ColumnQuery
