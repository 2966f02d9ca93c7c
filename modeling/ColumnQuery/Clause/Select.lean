import ColumnQuery.Clause.Predicate

/-!
# SELECT statements

`Expr.select` compiles a chain of steps: the source first, then each step in the order the chain was
built. Conditions are conjoined and fields appended to what is assembled so far; what is assembled
in the end is a statement if a source was found. A projection selects fields in order; no field
means all of them.
-/
namespace ColumnQuery

/-! ## Projections -/

namespace Expr

/-- The fields that members hold, or the first that holds none. -/
def memberFields : List Member → Except Unsupported (List String)
  | [] => .ok []
  | ⟨_, expr⟩ :: members => do
    let name ← expr.fieldName
    let names ← memberFields members
    .ok (name :: names)

/-- The fields selected by a projection; the row selects all. -/
def projectedFields : Expr → Except Unsupported (List String)
  | row => .ok []
  | field name => .ok [name]
  | projection members => memberFields members
  | convert inner => projectedFields inner
  | quote inner => projectedFields inner
  | lambda inner => projectedFields inner
  | expr => .error (.notProjection expr.kind)

end Expr

/-! ## Statements -/

/-- A compiled statement. -/
structure Select where
  /-- The column family it reads. -/
  source : String
  /-- The selected fields in order; none selects all. -/
  fields : List String
  /-- The text of the condition, if there is one. -/
  predicate : Option String
deriving DecidableEq

namespace Select

/-- The selected fields as they are written. -/
def fieldsClause (select : Select) : String :=
  if select.fields.isEmpty then "*" else String.intercalate ", " select.fields

/-- The statement, one line for each clause. -/
def text (select : Select) : String :=
  "SELECT " ++ select.fieldsClause ++ " \nFROM " ++ select.source ++
    select.predicate.elim "" (" \nWHERE " ++ ·)

/-- The statement without line breaks. -/
def singleLine (select : Select) : String :=
  String.ofList (select.text.toList.filter (· != '\n'))

end Select

/-- A statement being assembled. -/
structure Assembly where
  /-- The column family it reads, once the source is found. -/
  source : Option String := none
  /-- The fields selected so far. -/
  fields : List String := []
  /-- The text of the conditions so far. -/
  predicate : Option String := none

namespace Assembly

/-- A further condition. -/
def addCondition (built : Assembly) (clause : String) : Assembly :=
  { built with predicate := some (conjoin built.predicate clause) }

/-- Further fields. -/
def addFields (built : Assembly) (names : List String) : Assembly :=
  { built with fields := built.fields ++ names }

/-- What one more step makes of it, or the fault of its argument. -/
def add (built : Assembly) (step : Step) (argument : Expr) : Except Unsupported Assembly :=
  match step with
  | .filter => do
    let clause ← argument.predicate
    .ok (built.addCondition clause)
  | .project => do
    let names ← argument.projectedFields
    .ok (built.addFields names)

/-- The finished statement, which needs a source. -/
def finish (built : Assembly) : Except Unsupported Select :=
  match built.source with
  | some source => .ok ⟨source, built.fields, built.predicate⟩
  | none => .error .noSource

end Assembly

namespace Expr

/-- What a query chain makes of what is assembled before it, or the first fault in the order of its
steps. -/
def assemble (built : Assembly) : Expr → Except Unsupported Assembly
  | source name => .ok { built with source := some name }
  | call step target argument => do
    let reached ← assemble built target
    reached.add step argument
  | convert inner => assemble built inner
  | quote inner => assemble built inner
  | lambda inner => assemble built inner
  | expr => .error (.notQuery expr.kind)

/-- The statement of a query chain, or the first fault in the order of its steps. -/
def select (expr : Expr) : Except Unsupported Select := do
  let built ← assemble {} expr
  built.finish

/-- The text of the statement of a query chain. -/
def toCql (expr : Expr) : Except Unsupported String := do
  let built ← expr.select
  .ok built.text

end Expr

end ColumnQuery
