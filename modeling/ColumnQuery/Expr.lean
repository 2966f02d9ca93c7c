import ColumnQuery.Operator
import ColumnQuery.Value

/-!
# Expressions

One tree serves predicates, projections and whole queries. A query is a chain of steps around its
source, the source deepest. `convert`, `quote` and `lambda` only wrap another expression and have
no meaning of their own: `Expr.bare` looks through them.
-/
namespace ColumnQuery

mutual

/-- An expression. -/
inductive Expr where
  /-- A literal value. -/
  | constant (value : Value)
  /-- A field of the row. -/
  | field (name : String)
  /-- The row itself. -/
  | row
  /-- A comparison of two operands. -/
  | compare (op : Comparison) (left right : Expr)
  /-- Two predicates combined. -/
  | logical (op : Connective) (left right : Expr)
  /-- A predicate denied. -/
  | not (operand : Expr)
  /-- A field whose value lies in a set. -/
  | membership (field values : Expr)
  /-- An ordered collection. -/
  | list (items : List Expr)
  /-- Arithmetic on two operands. -/
  | arithmetic (op : Arithmetic) (left right : Expr)
  /-- The opposite of a number. -/
  | negate (operand : Expr)
  /-- The column family a query reads. -/
  | source (name : String)
  /-- An object built of members. -/
  | projection (members : List Member)
  /-- A step applied to the query built so far. -/
  | call (step : Step) (target argument : Expr)
  /-- A conversion of type. -/
  | convert (inner : Expr)
  /-- A quoted expression. -/
  | quote (inner : Expr)
  /-- The body of a function. -/
  | lambda (inner : Expr)

/-- One member of an object that a projection builds. -/
structure Member where
  /-- The name of the member, if it has one of its own. -/
  label : Option String
  /-- What the member holds. -/
  expr : Expr

end

namespace Expr

/-- The kinds of expressions, one for each constructor. -/
inductive Kind where
  | constant
  | field
  | row
  | compare
  | logical
  | not
  | membership
  | list
  | arithmetic
  | negate
  | source
  | projection
  | call
  | convert
  | quote
  | lambda
deriving DecidableEq

/-- The name of a kind. -/
def Kind.name : Kind → String
  | constant => "Constant"
  | field => "Field"
  | row => "Row"
  | compare => "Compare"
  | logical => "Logical"
  | not => "Not"
  | membership => "Membership"
  | list => "List"
  | arithmetic => "Arithmetic"
  | negate => "Negate"
  | source => "Source"
  | projection => "Projection"
  | call => "Call"
  | convert => "Convert"
  | quote => "Quote"
  | lambda => "Lambda"

/-- The kind of a name. -/
def Kind.ofName? (name : String) : Option Kind :=
  [constant, field, row, compare, logical, not, membership, list, arithmetic, negate, source,
    projection, call, convert, quote, lambda].find? (·.name == name)

/-- A kind is found by its name. -/
theorem Kind.ofName?_name (kind : Kind) : ofName? kind.name = some kind := by
  cases kind <;> decide

/-- The kind of an expression. -/
def kind : Expr → Kind
  | constant _ => .constant
  | field _ => .field
  | row => .row
  | compare .. => .compare
  | logical .. => .logical
  | not _ => .not
  | membership .. => .membership
  | list _ => .list
  | arithmetic .. => .arithmetic
  | negate _ => .negate
  | source _ => .source
  | projection _ => .projection
  | call .. => .call
  | convert _ => .convert
  | quote _ => .quote
  | lambda _ => .lambda

/-- The expression inside all wrappers around it. -/
def bare : Expr → Expr
  | convert inner => bare inner
  | quote inner => bare inner
  | lambda inner => bare inner
  | expr => expr

mutual

/-- An expression as it is shown, fully bracketed. -/
def display : Expr → String
  | constant value => value.literal
  | field name => name
  | row => "row"
  | compare op left right =>
    "(" ++ display left ++ " " ++ op.symbol ++ " " ++ display right ++ ")"
  | logical op left right =>
    "(" ++ display left ++ " " ++ op.keyword ++ " " ++ display right ++ ")"
  | not operand => "NOT " ++ display operand
  | membership column values => display column ++ " IN " ++ display values
  | list items => "(" ++ displayItems items ++ ")"
  | arithmetic op left right =>
    "(" ++ display left ++ " " ++ op.symbol ++ " " ++ display right ++ ")"
  | negate operand => "-" ++ display operand
  | source name => name
  | projection members => "\x7b " ++ displayMembers members ++ " \x7d"
  | call step target argument =>
    display target ++ "." ++ step.name ++ "(" ++ display argument ++ ")"
  | convert inner => display inner
  | quote inner => display inner
  | lambda inner => display inner

/-- Items with commas between them. -/
def displayItems : List Expr → String
  | [] => ""
  | [item] => display item
  | item :: items => display item ++ ", " ++ displayItems items

/-- Members with commas between them, each after its label. -/
def displayMembers : List Member → String
  | [] => ""
  | [⟨label, expr⟩] => label.elim "" (· ++ " = ") ++ display expr
  | ⟨label, expr⟩ :: members =>
    label.elim "" (· ++ " = ") ++ display expr ++ ", " ++ displayMembers members

end

mutual

/-- Equality of expressions: the same nodes with the same values, as `Value.same` compares them. -/
def same : Expr → Expr → Bool
  | constant a, constant b => a.same b
  | field a, field b => a == b
  | row, row => true
  | compare op left right, compare op' left' right' =>
    op == op' && same left left' && same right right'
  | logical op left right, logical op' left' right' =>
    op == op' && same left left' && same right right'
  | not a, not b => same a b
  | membership column values, membership column' values' =>
    same column column' && same values values'
  | list a, list b => sameItems a b
  | arithmetic op left right, arithmetic op' left' right' =>
    op == op' && same left left' && same right right'
  | negate a, negate b => same a b
  | source a, source b => a == b
  | projection a, projection b => sameMembers a b
  | call step target argument, call step' target' argument' =>
    step == step' && same target target' && same argument argument'
  | convert a, convert b => same a b
  | quote a, quote b => same a b
  | lambda a, lambda b => same a b
  | _, _ => false

/-- Equality of collections, item by item. -/
def sameItems : List Expr → List Expr → Bool
  | [], [] => true
  | a :: as, b :: bs => same a b && sameItems as bs
  | _, _ => false

/-- Equality of members, one by one. -/
def sameMembers : List Member → List Member → Bool
  | [], [] => true
  | ⟨label, expr⟩ :: members, ⟨label', expr'⟩ :: members' =>
    label == label' && same expr expr' && sameMembers members members'
  | _, _ => false

end

/-! ## Building

Short names for the expressions that callers write most. Values enter as constants, so every leaf
of what is built is concrete.
-/

/-- A field of the row. -/
def col (name : String) : Expr := field name

/-- A literal value. -/
def lit (value : Value) : Expr := constant value

/-- An ordered collection of literal values. -/
def lits (values : List Value) : Expr := list (values.map lit)

/-- The selection of fields in order, none renamed. -/
def fields (names : List String) : Expr := projection (names.map fun name => ⟨none, col name⟩)

/-- A field compared with a value. -/
def compareField (column : String) (op : Comparison) (value : Value) : Expr :=
  compare op (col column) (lit value)

/-- A field whose value is one of a list. -/
def isIn (column : String) (values : List Value) : Expr := membership (col column) (lits values)

/-- Both predicates hold. -/
def and (left right : Expr) : Expr := logical .and left right

/-- One of the predicates holds. -/
def or (left right : Expr) : Expr := logical .or left right

end Expr

end ColumnQuery
