import ColumnQuery.Proofs.Json.Fits

/-!
# Written texts are canonical

Many texts are read as the same thing: structures as arrays, entries in any order and unknown ones
between them, constructors without content as objects, fields left out. The text that is written for
what was read is read as the same thing again, so writing it once more gives the same characters.
-/
namespace ColumnQuery

open Json

namespace Json

variable {α : Type}

/-- Whatever a decoder reads with some containers left, it also reads from the tree written for it
with as many left, provided that the finite numbers in it read back. -/
def Rereads (decode : Decoder α) (node : α → Node) (floats : α → List Double) : Prop :=
  ∀ levels tree value, decode levels tree = some value →
    (∀ x ∈ floats value, x.isFinite = true → x.ReadsBack) → decode levels (node value) = some value

/-- What fits and is taken for itself is read again. -/
theorem rereads_of_fits {decode : Decoder α} {node : α → Node} {floats : α → List Double}
    (fits : ∀ levels, Fits decode node floats levels)
    (decodes : ∀ value, (∀ x ∈ floats value, x.isFinite = true → x.ReadsBack) →
      Decodes decode (node value) (floats value) value) : Rereads decode node floats := by
  intro levels tree value reads faithful
  exact (decodes value faithful levels value).mpr ⟨fits levels tree value reads, rfl⟩

/-- Items that are each read from their own tree are read together. -/
theorem mapM_map_eq_some {item : Node → Option α} {node : α → Node} {values : List α}
    (each : ∀ value ∈ values, item (node value) = some value) :
    (values.map node).mapM item = some values := by
  induction values with
  | nil => rfl
  | cons value values ih =>
    obtain ⟨first, others⟩ := List.forall_mem_cons.mp each
    rw [List.map_cons, List.mapM_cons, first, ih others]
    rfl

/-- An array is read again if its items are. -/
theorem Rereads.items {item : Decoder α} {node : α → Node} {floats : α → List Double}
    (each : Rereads item node floats) :
    Rereads (items? item) (fun values => .array (values.map node)) (List.flatMap floats) := by
  intro levels tree values reads faithful
  obtain ⟨inner, rfl, found⟩ := exists_of_items? reads
  refine mapM_map_eq_some fun value member => ?_
  obtain ⟨tree, read⟩ := found value member
  refine each inner tree value read fun x inside => ?_
  exact faithful x (List.mem_flatMap.mpr ⟨value, member, inside⟩)

/-- A structure is read again if its fields are. -/
theorem rereads_structure {keys : List String} {least : Nat}
    {fields : Nat → List (Option Node) → Option α} {node : α → Node} {floats : α → List Double}
    {parts : α → List (Option Node)}
    (written : ∀ value, (node value).fields? keys least = some (parts value))
    (each : ∀ levels found value, fields levels found = some value →
      (∀ x ∈ floats value, x.isFinite = true → x.ReadsBack) →
        fields levels (parts value) = some value) :
    Rereads (structure? keys least fields) node floats := by
  intro levels tree value reads faithful
  cases levels with
  | zero => contradiction
  | succ inner =>
    obtain ⟨found, _, read⟩ := Option.bind_eq_some_iff.mp reads
    rw [structure?, written, Option.bind_some]
    exact each inner found value read faithful

/-- Whatever a text is read as, the text written for it is read as the same, so that it is also what
is written the second time, provided that the finite numbers in it read back. -/
def Canonical (decode : Decoder α) (node : α → Node) (floats : α → List Double) : Prop :=
  ∀ text value, ofText? decode text = some value →
    (∀ x ∈ floats value, x.isFinite = true → x.ReadsBack) →
      ofText? decode (node value).compactText = some value ∧
        (ofText? decode (node value).compactText).map (fun again => (node again).compactText) =
          some (node value).compactText

/-- Texts are canonical if trees are read again and can be held by a text. -/
theorem Rereads.canonical {decode : Decoder α} {node : α → Node} {floats : α → List Double}
    (rereads : Rereads decode node floats) (hasText : ∀ value, (node value).HasText) :
    Canonical decode node floats := by
  intro text value reads faithful
  obtain ⟨tree, _, read⟩ := Option.bind_eq_some_iff.mp reads
  have again : ofText? decode (node value).compactText = some value := by
    rw [ofText?, (hasText value).ofText?_compactText, Option.bind_some]
    exact rereads maxNesting tree value read faithful
  exact ⟨again, by rw [again, Option.map_some]⟩

end Json

/-! ## Values and expressions -/

/-- Values are read again. -/
theorem Value.rereads : Rereads ofNode? node floats :=
  rereads_of_fits fits_ofNode? fun _ => decodes_node

/-- Expressions are read again. -/
theorem Expr.rereads : Rereads ofNode? node floats :=
  rereads_of_fits fits_ofNode? fun _ => decodes_node

/-! ## Leaves -/

/-- Texts are read again. -/
theorem Json.rereads_text : Rereads (fun _ => Node.text?) .text fun _ => [] := by
  intro levels tree s _ _
  rfl

/-- A text that may be missing is read again. -/
theorem Json.Node.optional?_optional (text : Option String) :
    (Node.optional text).optional? = some text := by
  cases text <;> rfl

/-- The number of a 32-bit natural is read as that natural. -/
theorem Json.Node.word?_int (word : UInt32) : (Node.int word.toNat).word? = some word := by
  have inside : 0 ≤ (word.toNat : Int) ∧ (word.toNat : Int) < UInt32.size := by
    have small := word.toNat_lt
    simp only [UInt32.size]
    omega
  rw [word?, natBelow?, int?_int, Option.bind_some, if_pos inside]
  simp

/-! ## Statements and index lookups -/

/-- Statements are read again. -/
theorem Select.rereads : Rereads ofNode? node fun _ => [] := by
  refine rereads_structure (fun _ => rfl) fun levels found select reads faithful => ?_
  split at reads
  · simp only [Option.bind_eq_bind, Option.bind_eq_some_iff, Option.some.injEq] at reads
    obtain ⟨source, _, fields, listed, predicate, _, rfl⟩ := reads
    have again := rereads_text.items levels _ fields listed fun x inside => by simp at inside
    show (do
      let fields ← items? (fun _ => Node.text?) levels (.array (fields.map .text))
      let predicate ← (Node.optional predicate).optional?
      some (Select.mk source fields predicate)) = _
    rw [again, Node.optional?_optional]
    rfl
  · contradiction

/-- The floating point numbers in an index clause. -/
def IndexClause.floats (clause : IndexClause) : List Double := clause.value.floats

/-- The floating point numbers in an index lookup: those in its key and its clauses. -/
def IndexScan.floats (scan : IndexScan) : List Double :=
  scan.startKey.floats ++ scan.clauses.flatMap IndexClause.floats

/-- Index clauses are read again. -/
theorem IndexClause.rereads : Rereads ofNode? node floats := by
  refine rereads_structure (fun _ => rfl) fun levels found clause reads faithful => ?_
  split at reads
  · simp only [Option.bind_eq_bind, Option.bind_eq_some_iff, Option.some.injEq] at reads
    obtain ⟨field, _, relation, _, value, read, rfl⟩ := reads
    have again := Value.rereads levels _ value read faithful
    show (do
      let relation ← Relation.ofName? relation.name
      let value ← Value.ofNode? levels value.node
      some (IndexClause.mk field relation value)) = _
    rw [relation.ofName?_name, again]
    rfl
  · contradiction

/-- Index lookups are read again. -/
theorem IndexScan.rereads : Rereads ofNode? node floats := by
  refine rereads_structure (fun _ => rfl) fun levels found scan reads faithful => ?_
  split at reads
  · simp only [Option.bind_eq_bind, Option.bind_eq_some_iff, Option.some.injEq] at reads
    obtain ⟨startKey, read, limit, _, clauses, listed, rfl⟩ := reads
    obtain ⟨inKey, inClauses⟩ := List.forall_mem_append.mp faithful
    have again := Value.rereads levels _ startKey read inKey
    have listedAgain := IndexClause.rereads.items levels _ clauses listed inClauses
    show (do
      let startKey ← Value.ofNode? levels startKey.node
      let limit ← (Node.int limit.toNat).word?
      let clauses ← items? IndexClause.ofNode? levels (.array (clauses.map IndexClause.node))
      some (IndexScan.mk startKey limit clauses)) = _
    rw [again, Node.word?_int, listedAgain]
    rfl
  · contradiction

/-! ## Records -/

/-- The floating point numbers in a column. -/
def Column.floats (column : Column) : List Double := column.value.floats

/-- The floating point numbers in a change. -/
def Mutation.floats (mutation : Mutation) : List Double := mutation.value.floats

/-- The floating point numbers in a record: those in its key, its columns and its changes. -/
def Record.floats (record : Record) : List Double :=
  record.key.floats ++ record.columns.flatMap Column.floats ++
    record.mutations.flatMap Mutation.floats

/-- Columns are read again. -/
theorem Column.rereads : Rereads ofNode? node floats := by
  refine rereads_structure (fun _ => rfl) fun levels found column reads faithful => ?_
  split at reads
  · simp only [Option.bind_eq_bind, Option.bind_eq_some_iff, Option.some.injEq] at reads
    obtain ⟨name, _, value, read, rfl⟩ := reads
    have again := Value.rereads levels _ value read faithful
    show (do
      let value ← Value.ofNode? levels value.node
      some (Column.mk name value)) = _
    rw [again]
    rfl
  · contradiction

/-- Changes are read again. -/
theorem Mutation.rereads : Rereads ofNode? node floats := by
  refine rereads_structure (fun _ => rfl) fun levels found mutation reads faithful => ?_
  split at reads
  · simp only [Option.bind_eq_bind, Option.bind_eq_some_iff, Option.some.injEq] at reads
    obtain ⟨kind, _, column, _, value, read, rfl⟩ := reads
    have again := Value.rereads levels _ value read faithful
    show (do
      let kind ← Kind.ofName? kind.name
      let value ← Value.ofNode? levels value.node
      some (Mutation.mk kind column value)) = _
    rw [kind.ofName?_name, again]
    rfl
  · contradiction

/-- Records are read again. A log that was left out is written as an empty one, for which there is a
container left as there was one for the columns. -/
theorem Record.rereads : Rereads ofNode? node floats := by
  refine rereads_structure (fun _ => rfl) fun levels found record reads faithful => ?_
  split at reads
  · rename_i log
    simp only [Option.bind_eq_bind, Option.bind_eq_some_iff, Option.some.injEq] at reads
    obtain ⟨key, read, family, _, columns, listed, mutations, logged, rfl⟩ := reads
    obtain ⟨inState, inLog⟩ := List.forall_mem_append.mp faithful
    obtain ⟨inKey, inColumns⟩ := List.forall_mem_append.mp inState
    have again := Value.rereads levels _ key read inKey
    have listedAgain := Column.rereads.items levels _ columns listed inColumns
    have loggedAgain : items? Mutation.ofNode? levels (.array (mutations.map Mutation.node)) =
        some mutations := by
      cases log with
      | none =>
        cases logged
        obtain ⟨inner, rfl, _⟩ := exists_of_items? listed
        rfl
      | some log => exact Mutation.rereads.items levels log mutations logged inLog
    show (do
      let key ← Value.ofNode? levels key.node
      let columns ← items? Column.ofNode? levels (.array (columns.map Column.node))
      let mutations ← items? Mutation.ofNode? levels (.array (mutations.map Mutation.node))
      some (Record.mk key family columns mutations)) = _
    rw [again, listedAgain, loggedAgain]
    rfl
  · contradiction

/-! ## Trees with a text -/

/-- The tree of a text that may be missing can be held by a text. -/
theorem Json.Node.hasText_optional (text : Option String) : (Node.optional text).HasText := by
  cases text with
  | none => exact .null
  | some s => exact .string s

/-- The tree of a statement can be held by a text. -/
theorem Select.hasText_node (select : Select) : select.node.HasText := by
  apply Node.hasText_record
  simp only [List.forall_mem_cons]
  refine ⟨.string _, .array ?_, Node.hasText_optional _, List.forall_mem_nil _⟩
  rw [List.forall_mem_map]
  exact fun field _ => .string field

/-- The tree of an index clause can be held by a text. -/
theorem IndexClause.hasText_node (clause : IndexClause) : clause.node.HasText := by
  apply Node.hasText_record
  simp only [List.forall_mem_cons]
  exact ⟨.string _, .string _, clause.value.hasText_node, List.forall_mem_nil _⟩

/-- The tree of an index lookup can be held by a text. -/
theorem IndexScan.hasText_node (scan : IndexScan) : scan.node.HasText := by
  apply Node.hasText_record
  simp only [List.forall_mem_cons]
  refine ⟨scan.startKey.hasText_node, .number (Numeral.isJson_ofInt _), .array ?_,
    List.forall_mem_nil _⟩
  rw [List.forall_mem_map]
  exact fun clause _ => clause.hasText_node

/-- The tree of a column can be held by a text. -/
theorem Column.hasText_node (column : Column) : column.node.HasText := by
  apply Node.hasText_record
  simp only [List.forall_mem_cons]
  exact ⟨.string _, column.value.hasText_node, List.forall_mem_nil _⟩

/-- The tree of a change can be held by a text. -/
theorem Mutation.hasText_node (mutation : Mutation) : mutation.node.HasText := by
  apply Node.hasText_record
  simp only [List.forall_mem_cons]
  exact ⟨.string _, .string _, mutation.value.hasText_node, List.forall_mem_nil _⟩

/-- The tree of a record can be held by a text. -/
theorem Record.hasText_node (record : Record) : record.node.HasText := by
  apply Node.hasText_record
  simp only [List.forall_mem_cons]
  refine ⟨record.key.hasText_node, .string _, .array ?_, .array ?_, List.forall_mem_nil _⟩
  · rw [List.forall_mem_map]
    exact fun column _ => column.hasText_node
  · rw [List.forall_mem_map]
    exact fun mutation _ => mutation.hasText_node

/-! ## Whole texts -/

/-- **Writing again is canonical.** Whatever text an expression, a value, a statement, an index
lookup, a record or a change is read from, the text written for it is read as the same again and so
written as the same text. Of the numbers it is assumed only that each finite one in it is read back
from its own text. -/
theorem Json.canonical_texts :
    Canonical Expr.ofNode? Expr.node Expr.floats ∧
    Canonical Value.ofNode? Value.node Value.floats ∧
    Canonical Select.ofNode? Select.node (fun _ => []) ∧
    Canonical IndexScan.ofNode? IndexScan.node IndexScan.floats ∧
    Canonical Record.ofNode? Record.node Record.floats ∧
    Canonical Mutation.ofNode? Mutation.node Mutation.floats :=
  ⟨Expr.rereads.canonical Expr.hasText_node, Value.rereads.canonical Value.hasText_node,
    Select.rereads.canonical Select.hasText_node,
    IndexScan.rereads.canonical IndexScan.hasText_node,
    Record.rereads.canonical Record.hasText_node,
    Mutation.rereads.canonical Mutation.hasText_node⟩

/-- A text is read, another text is written for what it is read as, and that one is read as the
same. -/
def Json.Rewrites {α : Type} (decode : Decoder α) (node : α → Node) (text usual : String) : Prop :=
  ∃ value, ofText? decode text = some value ∧ (node value).compactText = usual ∧
    ofText? decode usual = some value

/-- A text whose numbers read back is rewritten as the text that is written for it. -/
theorem Json.Canonical.rewrites {α : Type} {decode : Decoder α} {node : α → Node}
    {floats : α → List Double} (canonical : Canonical decode node floats) {text usual : String}
    {numbers : List Double} (faithful : ∀ x ∈ numbers, x.ReadsBack)
    (reads : (ofText? decode text).map (fun value => (floats value, (node value).compactText)) =
      some (numbers, usual)) : Rewrites decode node text usual := by
  obtain ⟨value, read, same⟩ := Option.map_eq_some_iff.mp reads
  obtain ⟨rfl, rfl⟩ := Prod.mk.inj same
  exact ⟨value, read, rfl, (canonical text value read fun x inside _ => faithful x inside).1⟩

/-- Unusual texts of all six types are written in the usual way, and read again from that. They have
structures as arrays, constructors without content as objects, unknown and reordered entries, a
missing condition and a missing log, escapes, an offset of an hour, an identifier in capitals and
without hyphens, and numbers with needless signs, zeros and exponents. -/
theorem Json.canonical_texts_unusual :
    Rewrites Expr.ofNode? Expr.node
      ("\x7b\"Logical\":[\x7b\"And\":null\x7d,\x7b\"Row\":null\x7d," ++
        "\x7b\"Field\":\"\\u0041\\/\"\x7d]\x7d")
      ("\x7b\"Logical\":\x7b\"op\":\"And\",\"left\":\"Row\"," ++
        "\"right\":\x7b\"Field\":\"A/\"\x7d\x7d\x7d") ∧
    Rewrites Value.ofNode? Value.node
      (" \x7b\"List\":[\x7b\"Timestamp\":\"2020-01-01T00:30:00+01:00\"\x7d,\n" ++
        "\x7b\"Uuid\":\"550E8400E29B41D4A716446655440000\"\x7d,\x7b\"Null\":null\x7d]\x7d")
      ("\x7b\"List\":[\x7b\"Timestamp\":\"2019-12-31T23:30:00Z\"\x7d," ++
        "\x7b\"Uuid\":\"550e8400-e29b-41d4-a716-446655440000\"\x7d,\"Null\"]\x7d") ∧
    Rewrites Select.ofNode? Select.node
      "\x7b\"fields\":[\"N\\u0061me\"],\"source\":\"Users\"\x7d"
      "\x7b\"source\":\"Users\",\"fields\":[\"Name\"],\"predicate\":null\x7d" ∧
    Rewrites IndexScan.ofNode? IndexScan.node
      "[\"Null\",7,[[\"Age\",\x7b\"Ge\":null\x7d,\x7b\"Float\":1.50e0\x7d]]]"
      ("\x7b\"start_key\":\"Null\",\"limit\":7,\"clauses\":[" ++
        "\x7b\"field\":\"Age\",\"operator\":\"Ge\",\"value\":\x7b\"Float\":1.5\x7d\x7d]\x7d") ∧
    Rewrites Record.ofNode? Record.node
      ("[\x7b\"Null\":null\x7d,\"Users\",[" ++
        "\x7b\"value\":\x7b\"Float\":-0e7\x7d,\"note\":[null],\"name\":\"Age\"\x7d]]")
      ("\x7b\"key\":\"Null\",\"family\":\"Users\",\"columns\":[" ++
        "\x7b\"name\":\"Age\",\"value\":\x7b\"Float\":-0.0\x7d\x7d],\"mutations\":[]\x7d") ∧
    Rewrites Mutation.ofNode? Mutation.node
      "[\x7b\"Removed\":null\x7d,\"A\\u0067e\",\x7b\"Blob\":[255]\x7d]"
      "\x7b\"kind\":\"Removed\",\"column\":\"Age\",\"value\":\x7b\"Blob\":[255]\x7d\x7d" := by
  have laws := canonical_texts
  have none : ∀ x ∈ ([] : List Double), x.ReadsBack := List.forall_mem_nil _
  have half : ∀ x ∈ [Double.signed false ⟨0x3ff8000000000000, by decide⟩], x.ReadsBack := by
    rw [List.forall_mem_singleton, Double.ReadsBack]
    decide +kernel
  have zero : ∀ x ∈ [Double.signed true .zero], x.ReadsBack := by
    rw [List.forall_mem_singleton, Double.ReadsBack]
    decide +kernel
  refine ⟨?expr, ?value, ?select, ?scan, ?record, ?mutation⟩
  case expr => exact laws.1.rewrites none (by decide +kernel)
  case value => exact laws.2.1.rewrites none (by decide +kernel)
  case select => exact laws.2.2.1.rewrites none (by decide +kernel)
  case scan => exact laws.2.2.2.1.rewrites half (by decide +kernel)
  case record => exact laws.2.2.2.2.1.rewrites zero (by decide +kernel)
  case mutation => exact laws.2.2.2.2.2.rewrites none (by decide +kernel)

end ColumnQuery
