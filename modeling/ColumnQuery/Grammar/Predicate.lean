import ColumnQuery.Grammar.Token

/-!
# Predicate and projection texts

A predicate text is a disjunction of conjunctions of denials, memberships, comparisons and groups;
operands are sums of products of signed literals, fields and groups. Every operator takes what
stands to its left first. A group leaves no node behind.

Groups, denials and minus signs nest at most `maxDepth` deep. The readers that nest take the number
of levels left and are built from those with one level less; without a level left the reading halts.
An opening bracket is first tried as a group of an operand and then as a group of a predicate.

A projection text is a star, for all fields, or names of fields with commas between.
-/
namespace ColumnQuery.Grammar

/-- Multiplication, division or remainder. -/
def productOperator : Reader Arithmetic := fun text =>
  ((char '*' text).map fun _ => .mul).orElse fun _ =>
  ((char '/' text).map fun _ => .div).orElse fun _ =>
  (char '%' text).map fun _ => .rem

/-- Addition or subtraction. -/
def sumOperator : Reader Arithmetic := fun text =>
  ((char '+' text).map fun _ => .add).orElse fun _ =>
  (char '-' text).map fun _ => .sub

/-- A sum of products of factors. -/
def sumOf (factor : Reader Expr) : Reader Expr :=
  chain (spaced sumOperator) (chain (spaced productOperator) factor .arithmetic) .arithmetic

/-- A factor of an operand: an opposite, a group, a literal or a field. -/
def factorAt : Nat → Reader Expr
  | 0 => fun text => .halt text .tooDeep
  | levels + 1 => fun text =>
    let text := Text.skipSeparators text
    ((preceded (char '-') (factorAt levels) text).map .negate).orElse fun _ =>
    (bracketed (spaced (sumOf (factorAt levels))) text).orElse fun _ =>
    ((literal text).map .constant).orElse fun _ =>
    (fieldName text).map .field

/-- An operand of a comparison, or an item of a set. -/
def operandAt (levels : Nat) : Reader Expr := sumOf (factorAt levels)

/-- The sign of a comparison, in any of its spellings. -/
def comparisonSign : Reader Comparison := fun text =>
  ((symbol "==" text).map fun _ => .eq).orElse fun _ =>
  ((symbol "!=" text).map fun _ => .ne).orElse fun _ =>
  ((symbol "<>" text).map fun _ => .ne).orElse fun _ =>
  ((symbol ">=" text).map fun _ => .ge).orElse fun _ =>
  ((symbol "<=" text).map fun _ => .le).orElse fun _ =>
  ((symbol "=" text).map fun _ => .eq).orElse fun _ =>
  ((symbol ">" text).map fun _ => .gt).orElse fun _ =>
  (symbol "<" text).map fun _ => .lt

/-- Two operands with a comparison between. -/
def comparison (operand : Reader Expr) : Reader Expr := fun text =>
  (spaced operand text).bind fun left rest =>
    (comparisonSign rest).bind fun op rest =>
      (spaced operand rest).map fun right => .compare op left right

/-- The items of a set in brackets. -/
def itemSet (operand : Reader Expr) : Reader (List Expr) := fun text =>
  (char '(' text).bind fun _ rest =>
    (separatedOrNone (spaced operand) rest).bind fun items rest =>
      (char ')' (Text.skipSeparators rest)).map fun _ => items

/-- A field and a set that its value lies in. -/
def membership (operand : Reader Expr) : Reader Expr := fun text =>
  (spaced fieldName text).bind fun name rest =>
    (keyword "in" rest).bind fun _ rest =>
      (itemSet operand (Text.skipSeparators rest)).bind fun items rest =>
        .done (.membership (.field name) (.list items)) (Text.skipSeparators rest)

/-- The sign of a denial. -/
def denialSign : Reader Unit := fun text =>
  (symbol "!" text).orElse fun _ => keyword "not" text

/-- The sign of a conjunction. -/
def conjunctionSign : Reader Connective := fun text =>
  ((symbol "&&" text).orElse fun _ => keyword "and" text).map fun _ => .and

/-- The sign of a disjunction. -/
def disjunctionSign : Reader Connective := fun text =>
  ((symbol "||" text).orElse fun _ => keyword "or" text).map fun _ => .or

/-- A disjunction of conjunctions of predicates. -/
def disjunctionOf (unary : Reader Expr) : Reader Expr :=
  chain (spaced disjunctionSign) (chain (spaced conjunctionSign) unary .logical) .logical

/-- A predicate without connectives outside brackets. -/
def unaryAt : Nat → Reader Expr
  | 0 => fun text => .halt text .tooDeep
  | levels + 1 => fun text =>
    let text := Text.skipSeparators text
    ((preceded denialSign (unaryAt levels) text).map .not).orElse fun _ =>
    (membership (operandAt (levels + 1)) text).orElse fun _ =>
    (comparison (operandAt (levels + 1)) text).orElse fun _ =>
    bracketed (spaced (disjunctionOf (unaryAt levels))) text

/-- A whole predicate. -/
def predicateAt (levels : Nat) : Reader Expr := disjunctionOf (unaryAt levels)

/-- Reads a predicate text. Outermost predicates have one level more than `maxDepth`, since the
limit counts what encloses a predicate and not the predicate itself. -/
def readPredicate (text : String) : Except ParseError Expr :=
  let text := Text.trim text.toList
  finish text (predicateAt (maxDepth + 1) text)

/-! ## Projections -/

/-- The selection of named fields. -/
def projection : Reader Expr := fun text =>
  (separated (spaced fieldName) text).map fun names =>
    .projection (names.map fun name => ⟨none, .field name⟩)

/-- Reads a projection text. -/
def readProjection (text : String) : Except ParseError Expr :=
  let text := Text.trim text.toList
  if text = ['*'] then .ok .row else finish text (projection text)

end ColumnQuery.Grammar
