import ColumnQuery.Json.Node
import ColumnQuery.Number.Layout
import ColumnQuery.Record
import ColumnQuery.Settings

/-!
# JSON trees of the library's types

A constructor with content is an object of one entry, its name and the content; one without content
is the string of its name. Structures are objects of their fields in order. A number that is not
finite has no numeral and is written as null.
-/
namespace ColumnQuery

open Json

/-- Floating point numbers in JSON: plain notation with a point from 10^-5 to below 10^16. -/
def Json.doubleLayout : Layout where
  tie := .even
  positional power := -5 ≤ power && power ≤ 15
  keepsPoint := true
  plusSign := true
  infinityText := "null"

/-- The tree of a floating point number. -/
def Double.node : Double → Node
  | nan => .null
  | signed negative magnitude =>
    if magnitude.isFinite then .number (doubleLayout.numeral negative magnitude) else .null

/-- The tree of a text that may be missing. -/
def Json.Node.optional (text : Option String) : Node := text.elim .null .text

namespace Value

mutual

/-- The tree of a value. -/
def node : Value → Node
  | null => .text Kind.null.name
  | bool b => .variant Kind.bool.name (.bool b)
  | int n => .variant Kind.int.name (.int n.value)
  | float x => .variant Kind.float.name x.node
  | text s => .variant Kind.text.name (.text s)
  | uuid u => .variant Kind.uuid.name (.text u.text)
  | timestamp t => .variant Kind.timestamp.name (.text t.text)
  | blob bytes => .variant Kind.blob.name (.array (bytes.map fun byte => .int byte.toNat))
  | list items => .variant Kind.list.name (.array (nodes items))

/-- The trees of values in order. -/
def nodes : List Value → List Node
  | [] => []
  | item :: items => node item :: nodes items

end

end Value

namespace Expr

mutual

/-- The tree of an expression. -/
def node : Expr → Node
  | constant value => .variant Kind.constant.name value.node
  | field name => .variant Kind.field.name (.text name)
  | row => .text Kind.row.name
  | compare op left right =>
    .variant Kind.compare.name
      (.record [("op", .text op.name), ("left", node left), ("right", node right)])
  | logical op left right =>
    .variant Kind.logical.name
      (.record [("op", .text op.name), ("left", node left), ("right", node right)])
  | not operand => .variant Kind.not.name (node operand)
  | membership column values =>
    .variant Kind.membership.name (.record [("field", node column), ("values", node values)])
  | list items => .variant Kind.list.name (.array (nodes items))
  | arithmetic op left right =>
    .variant Kind.arithmetic.name
      (.record [("op", .text op.name), ("left", node left), ("right", node right)])
  | negate operand => .variant Kind.negate.name (node operand)
  | source name => .variant Kind.source.name (.text name)
  | projection members => .variant Kind.projection.name (.array (memberNodes members))
  | call step target argument =>
    .variant Kind.call.name
      (.record [("method", .text step.name), ("target", node target), ("argument", node argument)])
  | convert inner => .variant Kind.convert.name (node inner)
  | quote inner => .variant Kind.quote.name (node inner)
  | lambda inner => .variant Kind.lambda.name (node inner)

/-- The trees of expressions in order. -/
def nodes : List Expr → List Node
  | [] => []
  | item :: items => node item :: nodes items

/-- The trees of members in order. -/
def memberNodes : List Member → List Node
  | [] => []
  | ⟨label, expr⟩ :: members =>
    .record [("alias", .optional label), ("expr", node expr)] :: memberNodes members

end

end Expr

/-- The tree of a compiled statement. -/
def Select.node (select : Select) : Node :=
  .record [("source", .text select.source), ("fields", .array (select.fields.map .text)),
    ("predicate", .optional select.predicate)]

/-- The tree of an index clause. -/
def IndexClause.node (clause : IndexClause) : Node :=
  .record [("field", .text clause.field), ("operator", .text clause.relation.name),
    ("value", clause.value.node)]

/-- The tree of a compiled index lookup. -/
def IndexScan.node (scan : IndexScan) : Node :=
  .record [("start_key", scan.startKey.node), ("limit", .int scan.limit.toNat),
    ("clauses", .array (scan.clauses.map IndexClause.node))]

/-- The tree of a column. -/
def Column.node (column : Column) : Node :=
  .record [("name", .text column.name), ("value", column.value.node)]

/-- The tree of a change. -/
def Mutation.node (mutation : Mutation) : Node :=
  .record [("kind", .text mutation.kind.name), ("column", .text mutation.column),
    ("value", mutation.value.node)]

/-- The tree of a record. -/
def Record.node (record : Record) : Node :=
  .record [("key", record.key.node), ("family", .text record.family),
    ("columns", .array (record.columns.map Column.node)),
    ("mutations", .array (record.mutations.map Mutation.node))]

/-- The tree of settings. -/
def Settings.node (settings : Settings) : Node :=
  .record [("default_limit", .int settings.defaultLimit.toNat),
    ("format", .text settings.format.name), ("single_line", .bool settings.singleLine)]

end ColumnQuery
