import ColumnQuery.Json.Reader
import ColumnQuery.Number.Scaled
import ColumnQuery.Record
import ColumnQuery.Settings

/-!
# The library's types from JSON

What `node` writes is read back, and some other forms are read too: a constructor without content
may be an object with null as content, and a structure may be the array of its fields in order.
Entries of an object with unknown keys are ignored, whatever they hold; a known key must not repeat.

A decoder takes the number of containers that may still be opened around what it decodes. Only
`maxNesting` may be open at once, those inside ignored entries not counted.
-/
namespace ColumnQuery

open Json

namespace Json

/-- The greatest number of containers around a value. -/
def maxNesting : Nat := 127

/-- What a tree stands for, with so many containers left to open. -/
abbrev Decoder (α : Type) := Nat → Node → Option α

namespace Node

/-- The text of a string that has one. -/
def text? : Node → Option String
  | string found => found
  | _ => none

/-- A truth value. -/
def bool? : Node → Option Bool
  | bool b => some b
  | _ => none

/-- An integer written without point and exponent. A negative zero is no integer. -/
def int? : Node → Option Int
  | number numeral =>
    if numeral.isWhole && !(numeral.negative && numeral.integer == 0) then some numeral.integer
    else none
  | _ => none

/-- A 64-bit integer. -/
def bigint? (node : Node) : Option Bigint := node.int?.bind Bigint.ofInt?

/-- A natural below a bound. -/
def natBelow? (bound : Nat) (node : Node) : Option Nat :=
  node.int?.bind fun n => if 0 ≤ n ∧ n < bound then some n.toNat else none

/-- A byte. -/
def byte? (node : Node) : Option UInt8 := (node.natBelow? UInt8.size).map UInt8.ofNat

/-- A 32-bit natural. -/
def word? (node : Node) : Option UInt32 := (node.natBelow? UInt32.size).map UInt32.ofNat

/-- A floating point number, by the scaled reading. -/
def double? : Node → Option Double
  | number numeral => numeral.scaled?
  | _ => none

/-- A text or null. -/
def optional? : Node → Option (Option String)
  | null => some none
  | string found => found.map some
  | _ => none

/-- What all entries of a key stand for. -/
def valuesOf (key : String) (entries : List Entry) : List Node :=
  entries.filterMap fun entry => if entry.key = some key then some entry.node else none

/-- What the entry of a key stands for, if there is one; there must not be several. -/
def single? (key : String) (entries : List Entry) : Option (Option Node) :=
  match valuesOf key entries with
  | [] => some none
  | [node] => some (some node)
  | _ => none

/-- The fields of a structure, each by its key or its place. Fields may be missing in an object; in
an array only those after the first `least` may. -/
def fields? (keys : List String) (least : Nat) : Node → Option (List (Option Node))
  | object entries =>
    if entries.all (·.key.isSome) then keys.mapM (single? · entries) else none
  | array items =>
    if least ≤ items.length ∧ items.length ≤ keys.length then
      some (items.map some ++ List.replicate (keys.length - items.length) none)
    else none
  | _ => none

/-- The fields of a structure that has them all. -/
def required? (keys : List String) (node : Node) : Option (List Node) :=
  (node.fields? keys keys.length).bind (·.mapM id)

end Node

/-- The items of an array, which is one of the containers. -/
def items? {α : Type} (item : Decoder α) : Decoder (List α)
  | levels + 1, .array items => items.mapM (item levels)
  | _, _ => none

/-- A constructor without content, by its name. -/
def bareName? {α : Type} (ofName? : String → Option α) : Decoder α
  | _, .string (some name) => ofName? name
  | _ + 1, .object [⟨some name, .null⟩] => ofName? name
  | _, _ => none

/-- What a whole text holds. -/
def ofText? {α : Type} (decode : Decoder α) (text : String) : Option α :=
  (Node.ofText? text).bind (decode maxNesting)

end Json

/-- A value from a tree. -/
def Value.ofNode? : Decoder Value
  | _, .string (some name) => if name = Kind.null.name then some null else none
  | levels + 1, .object [⟨some name, content⟩] => do
    let kind ← Kind.ofName? name
    match kind, content with
    | .null, .null => some null
    | .null, _ => none
    | .bool, content => content.bool?.map bool
    | .int, content => content.bigint?.map int
    | .float, content => content.double?.map float
    | .text, content => content.text?.map text
    | .uuid, content => (content.text?.bind Uuid.ofText?).map uuid
    | .timestamp, content => (content.text?.bind Timestamp.ofText?).map timestamp
    | .blob, content => (items? (fun _ => Node.byte?) levels content).map blob
    | .list, .array items =>
      match levels with
      | 0 => none
      | inner + 1 => (items.mapM (ofNode? inner)).map list
    | .list, _ => none
  | _, _ => none

/-- An expression from a tree. -/
def Expr.ofNode? : Decoder Expr
  | _, .string (some name) => if name = Kind.row.name then some row else none
  | levels + 1, .object [⟨some name, content⟩] => do
    let kind ← Kind.ofName? name
    match kind with
    | .constant => (Value.ofNode? levels content).map constant
    | .field => content.text?.map field
    | .row => if content matches .null then some row else none
    | .not => (ofNode? levels content).map not
    | .negate => (ofNode? levels content).map negate
    | .source => content.text?.map source
    | .convert => (ofNode? levels content).map convert
    | .quote => (ofNode? levels content).map quote
    | .lambda => (ofNode? levels content).map lambda
    | kind =>
      match levels with
      | 0 => none
      | inner + 1 =>
        match kind, content with
        | .compare, content => do
          let [op, left, right] ← content.required? ["op", "left", "right"] | none
          let op ← bareName? Comparison.ofName? inner op
          let left ← ofNode? inner left
          let right ← ofNode? inner right
          some (compare op left right)
        | .logical, content => do
          let [op, left, right] ← content.required? ["op", "left", "right"] | none
          let op ← bareName? Connective.ofName? inner op
          let left ← ofNode? inner left
          let right ← ofNode? inner right
          some (logical op left right)
        | .arithmetic, content => do
          let [op, left, right] ← content.required? ["op", "left", "right"] | none
          let op ← bareName? Arithmetic.ofName? inner op
          let left ← ofNode? inner left
          let right ← ofNode? inner right
          some (arithmetic op left right)
        | .membership, content => do
          let [column, values] ← content.required? ["field", "values"] | none
          let column ← ofNode? inner column
          let values ← ofNode? inner values
          some (membership column values)
        | .call, content => do
          let [step, target, argument] ← content.required? ["method", "target", "argument"] | none
          let step ← bareName? Step.ofName? inner step
          let target ← ofNode? inner target
          let argument ← ofNode? inner argument
          some (call step target argument)
        | .list, .array items => (items.mapM (ofNode? inner)).map list
        | .projection, .array items =>
          let member (item : Node) : Option Member :=
            match inner with
            | 0 => none
            | deeper + 1 => do
              let [label, some expr] ← item.fields? ["alias", "expr"] 2 | none
              let label ← label.elim (some none) Node.optional?
              let expr ← ofNode? deeper expr
              some ⟨label, expr⟩
          (items.mapM member).map projection
        | _, _ => none
  | _, _ => none

/-- A structure from a tree, with so many containers left for its fields. -/
def Json.structure? {α : Type} (keys : List String) (least : Nat)
    (fields : Nat → List (Option Node) → Option α) : Decoder α
  | 0, _ => none
  | levels + 1, node => (node.fields? keys least).bind (fields levels)

/-- A compiled statement from a tree. -/
def Select.ofNode? : Decoder Select :=
  structure? ["source", "fields", "predicate"] 3 fun levels fields => do
    let [some source, some names, predicate] := fields | none
    let source ← source.text?
    let names ← items? (fun _ => Node.text?) levels names
    let predicate ← predicate.elim (some none) Node.optional?
    some ⟨source, names, predicate⟩

/-- An index clause from a tree. -/
def IndexClause.ofNode? : Decoder IndexClause :=
  structure? ["field", "operator", "value"] 3 fun levels fields => do
    let [some field, some relation, some value] := fields | none
    let field ← field.text?
    let relation ← bareName? Relation.ofName? levels relation
    let value ← Value.ofNode? levels value
    some ⟨field, relation, value⟩

/-- A compiled index lookup from a tree. -/
def IndexScan.ofNode? : Decoder IndexScan :=
  structure? ["start_key", "limit", "clauses"] 3 fun levels fields => do
    let [some startKey, some limit, some clauses] := fields | none
    let startKey ← Value.ofNode? levels startKey
    let limit ← limit.word?
    let clauses ← items? IndexClause.ofNode? levels clauses
    some ⟨startKey, limit, clauses⟩

/-- A column from a tree. -/
def Column.ofNode? : Decoder Column :=
  structure? ["name", "value"] 2 fun levels fields => do
    let [some name, some value] := fields | none
    let name ← name.text?
    let value ← Value.ofNode? levels value
    some ⟨name, value⟩

/-- A change from a tree. -/
def Mutation.ofNode? : Decoder Mutation :=
  structure? ["kind", "column", "value"] 3 fun levels fields => do
    let [some kind, some column, some value] := fields | none
    let kind ← bareName? Kind.ofName? levels kind
    let column ← column.text?
    let value ← Value.ofNode? levels value
    some ⟨kind, column, value⟩

/-- A record from a tree; without a log it has no changes. -/
def Record.ofNode? : Decoder Record :=
  structure? ["key", "family", "columns", "mutations"] 3 fun levels fields => do
    let [some key, some family, some columns, mutations] := fields | none
    let key ← Value.ofNode? levels key
    let family ← family.text?
    let columns ← items? Column.ofNode? levels columns
    let mutations ← mutations.elim (some []) (items? Mutation.ofNode? levels)
    some ⟨key, family, columns, mutations⟩

/-- Settings from a tree; a missing setting has its default. -/
def Settings.ofNode? : Decoder Settings :=
  structure? ["default_limit", "format", "single_line"] 0 fun levels fields => do
    let [limit, format, singleLine] := fields | none
    let default : Settings := {}
    let defaultLimit ← limit.elim (some default.defaultLimit) Node.word?
    let format ← format.elim (some default.format) (bareName? Format.ofName? levels)
    let singleLine ← singleLine.elim (some default.singleLine) Node.bool?
    some ⟨defaultLimit, format, singleLine⟩

end ColumnQuery
