/-!
# Operators

The operators of predicates and literals, with the symbols and words they are written with.
-/
namespace ColumnQuery

/-- Comparison of a field with a value. -/
inductive Comparison where
  | eq
  | ne
  | gt
  | ge
  | lt
  | le
deriving DecidableEq

/-- The symbol written between the operands. -/
def Comparison.symbol : Comparison → String
  | eq => "="
  | ne => "!="
  | gt => ">"
  | ge => ">="
  | lt => "<"
  | le => "<="

/-- The two letters that name the comparison. -/
def Comparison.code : Comparison → String
  | eq => "EQ"
  | ne => "NE"
  | gt => "GT"
  | ge => "GE"
  | lt => "LT"
  | le => "LE"

/-- The name of a comparison in a tree. -/
def Comparison.name : Comparison → String
  | eq => "Eq"
  | ne => "Ne"
  | gt => "Gt"
  | ge => "Ge"
  | lt => "Lt"
  | le => "Le"

/-- The comparison of a name. -/
def Comparison.ofName? (name : String) : Option Comparison :=
  [eq, ne, gt, ge, lt, le].find? (·.name == name)

/-- A comparison is found by its name. -/
theorem Comparison.ofName?_name (op : Comparison) : ofName? op.name = some op := by
  cases op <;> decide

/-- Combination of two predicates; conjunction unless said otherwise. -/
inductive Connective where
  | and
  | or
deriving DecidableEq, Inhabited

/-- The word written between the operands. -/
def Connective.keyword : Connective → String
  | and => "AND"
  | or => "OR"

/-- The name of a connective in a tree. -/
def Connective.name : Connective → String
  | and => "And"
  | or => "Or"

/-- The connective of a name. -/
def Connective.ofName? (name : String) : Option Connective := [and, or].find? (·.name == name)

/-- A connective is found by its name. -/
theorem Connective.ofName?_name (op : Connective) : ofName? op.name = some op := by
  cases op <;> decide

/-- Arithmetic on two literals. -/
inductive Arithmetic where
  | add
  | sub
  | mul
  | div
  | rem
deriving DecidableEq

/-- The symbol written between the operands. -/
def Arithmetic.symbol : Arithmetic → String
  | add => "+"
  | sub => "-"
  | mul => "*"
  | div => "/"
  | rem => "%"

/-- The name of an operation in a tree. -/
def Arithmetic.name : Arithmetic → String
  | add => "Add"
  | sub => "Sub"
  | mul => "Mul"
  | div => "Div"
  | rem => "Rem"

/-- The operation of a name. -/
def Arithmetic.ofName? (name : String) : Option Arithmetic :=
  [add, sub, mul, div, rem].find? (·.name == name)

/-- An operation is found by its name. -/
theorem Arithmetic.ofName?_name (op : Arithmetic) : ofName? op.name = some op := by
  cases op <;> decide

/-- What one step of a query chain adds. -/
inductive Step where
  /-- A condition on the rows. -/
  | filter
  /-- A selection of fields. -/
  | project
deriving DecidableEq

/-- The name of a step. -/
def Step.name : Step → String
  | filter => "Filter"
  | project => "Project"

/-- The step of a name. -/
def Step.ofName? (name : String) : Option Step := [filter, project].find? (·.name == name)

/-- A step is found by its name. -/
theorem Step.ofName?_name (step : Step) : ofName? step.name = some step := by
  cases step <;> decide

end ColumnQuery
