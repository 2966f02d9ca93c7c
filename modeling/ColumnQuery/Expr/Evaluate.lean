import ColumnQuery.Error

/-!
# Evaluation of literals

The right side of a comparison and the set of a membership are evaluated before they are written.
Only constants, lists and arithmetic have values. Null takes part in any arithmetic and wins over
any operand, but not over a fault in one. Integer results must fit the word, and the results of
floating point arithmetic must be finite.
-/
namespace ColumnQuery

/-- The integer result of an operation, if there is one. A remainder belongs to a quotient and has
no word when the quotient has none. -/
def Arithmetic.onInts (op : Arithmetic) (left right : Bigint) : Except Unsupported Value :=
  let fitting (n : Int) : Except Unsupported Value :=
    match Bigint.ofInt? n with
    | some word => .ok (.int word)
    | none => .error (.overflow op left right)
  match op with
  | add => fitting (left.value + right.value)
  | sub => fitting (left.value - right.value)
  | mul => fitting (left.value * right.value)
  | div =>
    if right.value = 0 then .error .divisionByZero else fitting (left.value.tdiv right.value)
  | rem =>
    if right.value = 0 then .error .divisionByZero
    else match Bigint.ofInt? (left.value.tdiv right.value) with
      | some _ => fitting (left.value.tmod right.value)
      | none => .error (.overflow op left right)

/-- The floating point result of an operation. -/
def Arithmetic.rounded : Arithmetic → Double → Double → Double
  | add => Double.add
  | sub => Double.sub
  | mul => Double.mul
  | div => Double.div
  | rem => Double.rem

/-- The floating point result of an operation, if it is finite. -/
def Arithmetic.onDoubles (op : Arithmetic) (left right : Double) : Except Unsupported Value :=
  if (op = .div ∨ op = .rem) ∧ right.isZero then .error .divisionByZero
  else
    let result := op.rounded left right
    if result.isFinite then .ok (.float result) else .error (.notFinite op left right)

/-- The result of an operation on two values. An integer beside a floating point number is rounded
to one, and texts can only be added. -/
def Arithmetic.apply (op : Arithmetic) : Value → Value → Except Unsupported Value
  | .null, _ => .ok .null
  | _, .null => .ok .null
  | .int left, .int right => op.onInts left right
  | .int left, .float right => op.onDoubles (.ofInt left.value) right
  | .float left, .int right => op.onDoubles left (.ofInt right.value)
  | .float left, .float right => op.onDoubles left right
  | .text left, .text right =>
    if op = .add then .ok (.text (left ++ right)) else .error (.operands op .text .text)
  | left, right => .error (.operands op left.kind right.kind)

/-- The opposite of a value. -/
def Value.negated : Value → Except Unsupported Value
  | null => .ok .null
  | int n =>
    match Bigint.ofInt? (-n.value) with
    | some word => .ok (.int word)
    | none => .error (.negationOverflow n)
  | float x => .ok (.float x.neg)
  | value => .error (.negation value.kind)

namespace Expr

mutual

/-- The value of a literal expression. -/
def evaluate : Expr → Except Unsupported Value
  | constant value => .ok value
  | list items => do
    let values ← evaluateItems items
    .ok (.list values)
  | arithmetic op left right => do
    let left ← evaluate left
    let right ← evaluate right
    op.apply left right
  | negate operand => do
    let value ← evaluate operand
    value.negated
  | field name => .error (.fieldValue name)
  | convert inner => evaluate inner
  | quote inner => evaluate inner
  | lambda inner => evaluate inner
  | expr => .error (.expression expr.kind)

/-- The values of expressions in order, or the first fault. -/
def evaluateItems : List Expr → Except Unsupported (List Value)
  | [] => .ok []
  | item :: items => do
    let value ← evaluate item
    let values ← evaluateItems items
    .ok (value :: values)

end

/-- The value of a literal expression as it is written in a clause. -/
def literal (expr : Expr) : Except Unsupported String := do
  let value ← expr.evaluate
  .ok value.literal

/-- The name that an expression gives to a field. -/
def fieldName : Expr → Except Unsupported String
  | field name => .ok name
  | convert inner => fieldName inner
  | quote inner => fieldName inner
  | lambda inner => fieldName inner
  | expr => .error (.notField expr.kind)

end Expr

end ColumnQuery
