import ColumnQuery.Proofs.Json.Value

/-!
# Expressions are read back from their JSON texts

The text of an expression is read as that expression or not at all. It is refused in two cases: if
its nesting goes past the limit of the reader, and if a number in it is not finite, since such a
number is written as null.
-/
namespace ColumnQuery.Expr

open Json

mutual

/-- The floating point numbers in an expression at any depth. -/
def floats : Expr → List Double
  | constant value => value.floats
  | field _ => []
  | row => []
  | compare _ left right => floats left ++ floats right
  | logical _ left right => floats left ++ floats right
  | not operand => floats operand
  | membership column values => floats column ++ floats values
  | list items => floatsIn items
  | arithmetic _ left right => floats left ++ floats right
  | negate operand => floats operand
  | source _ => []
  | projection members => floatsInMembers members
  | call _ target argument => floats target ++ floats argument
  | convert inner => floats inner
  | quote inner => floats inner
  | lambda inner => floats inner

/-- The floating point numbers in some expressions. -/
def floatsIn : List Expr → List Double
  | [] => []
  | item :: items => floats item ++ floatsIn items

/-- The floating point numbers in some members. -/
def floatsInMembers : List Member → List Double
  | [] => []
  | ⟨_, expr⟩ :: members => floats expr ++ floatsInMembers members

end

/-- The floating point numbers in some expressions are those in each. -/
theorem floatsIn_eq_flatMap (items : List Expr) : floatsIn items = items.flatMap floats := by
  induction items with
  | nil => rfl
  | cons item items ih => rw [floatsIn, ih, List.flatMap_cons]

/-- The floating point numbers in some members are those in each. -/
theorem floatsInMembers_eq_flatMap (members : List Member) :
    floatsInMembers members = members.flatMap fun member => member.expr.floats := by
  induction members with
  | nil => rfl
  | cons member members ih =>
    obtain ⟨label, expr⟩ := member
    rw [floatsInMembers, ih, List.flatMap_cons]

/-- The trees of expressions are those of each. -/
theorem nodes_eq_map (items : List Expr) : nodes items = items.map node := by
  induction items with
  | nil => rfl
  | cons item items ih => rw [nodes, ih, List.map_cons]

/-- The tree of a member. -/
def memberNode (member : Member) : Node :=
  .record [("alias", .optional member.label), ("expr", member.expr.node)]

/-- The trees of members are those of each. -/
theorem memberNodes_eq_map (members : List Member) :
    memberNodes members = members.map memberNode := by
  induction members with
  | nil => rfl
  | cons member members ih =>
    obtain ⟨label, expr⟩ := member
    rw [memberNodes, ih, List.map_cons]
    rfl

/-! ## Texts -/

/-- The tree of an expression can be held by a text. -/
theorem hasText_node (expr : Expr) : expr.node.HasText := by
  induction expr with
  | constant value => exact Node.hasText_variant value.hasText_node
  | field name | source name => exact Node.hasText_variant (.string name)
  | row => exact .string _
  | compare op left right ihLeft ihRight | logical op left right ihLeft ihRight
  | arithmetic op left right ihLeft ihRight | call step left right ihLeft ihRight =>
    refine Node.hasText_variant (Node.hasText_record ?_)
    simp only [List.forall_mem_cons]
    exact ⟨.string _, ihLeft, ihRight, List.forall_mem_nil _⟩
  | membership column values ihColumn ihValues =>
    refine Node.hasText_variant (Node.hasText_record ?_)
    simp only [List.forall_mem_cons]
    exact ⟨ihColumn, ihValues, List.forall_mem_nil _⟩
  | not inner ih | negate inner ih | convert inner ih | quote inner ih | lambda inner ih =>
    exact Node.hasText_variant ih
  | list items ih =>
    refine Node.hasText_variant (.array ?_)
    rw [nodes_eq_map, List.forall_mem_map]
    exact ih
  | projection members ih =>
    refine Node.hasText_variant (.array ?_)
    rw [memberNodes_eq_map, List.forall_mem_map]
    intro member listed
    refine Node.hasText_record ?_
    simp only [List.forall_mem_cons]
    refine ⟨?_, ih member listed, List.forall_mem_nil _⟩
    cases member.label with
    | none => exact .null
    | some label => exact .string label

/-! ## Contents -/

/-- The content of an operator with two operands. -/
def operation? {α : Type} (keys : List String) (ofName? : String → Option α)
    (make : α → Expr → Expr → Expr) : Decoder Expr
  | 0, _ => none
  | levels + 1, content => do
    let [op, left, right] ← content.required? keys | none
    let op ← bareName? ofName? levels op
    let left ← ofNode? levels left
    let right ← ofNode? levels right
    some (make op left right)

/-- The content of a membership. -/
def membership? : Decoder Expr
  | 0, _ => none
  | levels + 1, content => do
    let [column, values] ← content.required? ["field", "values"] | none
    let column ← ofNode? levels column
    let values ← ofNode? levels values
    some (membership column values)

/-- A member of a projection. -/
def member? : Decoder Member
  | 0, _ => none
  | levels + 1, item => do
    let [label, some expr] ← item.fields? ["alias", "expr"] 2 | none
    let label ← label.elim (some none) Node.optional?
    let expr ← ofNode? levels expr
    some ⟨label, expr⟩

/-- A named case is read by its kind. -/
theorem ofNode?_variant (levels : Nat) (kind : Kind) (content : Node) :
    ofNode? (levels + 1) (.variant kind.name content) =
      (match kind with
      | .constant => (Value.ofNode? levels content).map constant
      | .field => content.text?.map field
      | .row => if content matches .null then some row else none
      | .compare => operation? ["op", "left", "right"] Comparison.ofName? compare levels content
      | .logical => operation? ["op", "left", "right"] Connective.ofName? logical levels content
      | .not => (ofNode? levels content).map not
      | .membership => membership? levels content
      | .list => (items? ofNode? levels content).map list
      | .arithmetic =>
        operation? ["op", "left", "right"] Arithmetic.ofName? arithmetic levels content
      | .negate => (ofNode? levels content).map negate
      | .source => content.text?.map source
      | .projection => (items? member? levels content).map projection
      | .call => operation? ["method", "target", "argument"] Step.ofName? call levels content
      | .convert => (ofNode? levels content).map convert
      | .quote => (ofNode? levels content).map quote
      | .lambda => (ofNode? levels content).map lambda) := by
  -- A content of null is told apart for the kind without content.
  by_cases bare : content = .null
  · subst bare
    rw [Node.variant, ofNode?, Kind.ofName?_name]
    cases kind <;> cases levels <;> rfl
  · rw [Node.variant, ofNode?, Kind.ofName?_name]
    · cases kind with
      | row => cases content <;> first | rfl | contradiction
      | compare | logical | arithmetic | call | membership => cases levels <;> rfl
      | list => cases content <;> cases levels <;> rfl
      | projection =>
        obtain _ | _ | levels := levels <;> cases content <;> rfl
      | _ => rfl
    · exact bare

/-! ## Decoding -/

/-- An operator with two operands is taken for itself if both operands are. -/
theorem decodes_operation {α : Type} {kind : Kind} {first second third : String}
    {ofName? : String → Option α} {make : α → Expr → Expr → Expr} {name : α → String} {op : α}
    {left right : Expr}
    (read : ∀ levels content, ofNode? (levels + 1) (.variant kind.name content) =
      operation? [first, second, third] ofName? make levels content)
    (fields : ∀ op left right : Node,
      (Node.record [(first, op), (second, left), (third, right)]).required?
        [first, second, third] = some [op, left, right])
    (named : ofName? (name op) = some op)
    (inside : Decodes ofNode? left.node left.floats left)
    (inside' : Decodes ofNode? right.node right.floats right) :
    Decodes ofNode? (.variant kind.name
        (.record [(first, .text (name op)), (second, left.node), (third, right.node)]))
      (left.floats ++ right.floats) (make op left right) := by
  have content : Decodes (operation? [first, second, third] ofName? make)
      (.record [(first, .text (name op)), (second, left.node), (third, right.node)])
      (left.floats ++ right.floats) (make op left right) := by
    refine inside.record inside' (fun bound => ?_) rfl (fun levels => ?_)
    · simp [Node.text, Node.nesting]
    · rw [operation?, fields]
      show (do
        let op ← ofName? (name op)
        let left ← ofNode? levels left.node
        let right ← ofNode? levels right.node
        some (make op left right)) = _
      rw [named]
      rfl
  exact content.content rfl fun levels => read levels _

/-- The tree of a member is taken for the member if its expression is. -/
theorem decodes_memberNode {member : Member}
    (inside : Decodes ofNode? member.expr.node member.expr.floats member.expr) :
    Decodes member? (memberNode member) member.expr.floats member := by
  obtain ⟨label, expr⟩ := member
  have leaf : Decodes (fun _ => Node.optional?) (.optional label) [] label := by
    cases label with
    | none => exact decodes_leaf rfl fun _ => rfl
    | some label => exact decodes_leaf rfl fun _ => rfl
  have flat : (Node.optional label).nesting = 0 := by cases label <;> rfl
  exact leaf.record inside (fun bound => by simp [flat]) rfl fun levels => rfl

/-- A membership is taken for itself if its parts are. -/
theorem decodes_membership {column values : Expr}
    (inside : Decodes ofNode? column.node column.floats column)
    (inside' : Decodes ofNode? values.node values.floats values) :
    Decodes ofNode? (membership column values).node (membership column values).floats
      (membership column values) := by
  have content : Decodes membership? (.record [("field", column.node), ("values", values.node)])
      (column.floats ++ values.floats) (membership column values) :=
    inside.record inside' (fun bound => by simp) rfl fun levels => rfl
  exact content.content rfl fun levels => ofNode?_variant levels .membership _

/-- **The tree of an expression is taken for the expression.** -/
theorem decodes_node {expr : Expr}
    (faithful : ∀ x ∈ expr.floats, x.isFinite = true → x.ReadsBack) :
    Decodes ofNode? expr.node expr.floats expr := by
  induction expr with
  | constant value =>
    exact (Value.decodes_node faithful).variant rfl fun levels => ofNode?_variant levels .constant _
  | field name =>
    exact (decodes_text name).variant rfl fun levels => ofNode?_variant levels .field _
  | row => exact decodes_leaf rfl fun levels => by cases levels <;> rfl
  | compare op left right ihLeft ihRight =>
    obtain ⟨first, second⟩ := List.forall_mem_append.mp faithful
    exact decodes_operation (fun levels => ofNode?_variant levels .compare) (fun _ _ _ => rfl)
      op.ofName?_name (ihLeft first) (ihRight second)
  | logical op left right ihLeft ihRight =>
    obtain ⟨first, second⟩ := List.forall_mem_append.mp faithful
    exact decodes_operation (fun levels => ofNode?_variant levels .logical) (fun _ _ _ => rfl)
      op.ofName?_name (ihLeft first) (ihRight second)
  | not operand ih =>
    exact (ih faithful).variant rfl fun levels => ofNode?_variant levels .not _
  | membership column values ihColumn ihValues =>
    obtain ⟨first, second⟩ := List.forall_mem_append.mp faithful
    exact decodes_membership (ihColumn first) (ihValues second)
  | list items ih =>
    rw [node, floats, nodes_eq_map, floatsIn_eq_flatMap] at *
    have each (item : Expr) (listed : item ∈ items) : Decodes ofNode? item.node item.floats item :=
      ih item listed fun x inside => faithful x (List.mem_flatMap.mpr ⟨item, listed, inside⟩)
    exact (decodes_array each).variant rfl fun levels => ofNode?_variant levels .list _
  | arithmetic op left right ihLeft ihRight =>
    obtain ⟨first, second⟩ := List.forall_mem_append.mp faithful
    exact decodes_operation (fun levels => ofNode?_variant levels .arithmetic) (fun _ _ _ => rfl)
      op.ofName?_name (ihLeft first) (ihRight second)
  | negate operand ih =>
    exact (ih faithful).variant rfl fun levels => ofNode?_variant levels .negate _
  | source name =>
    exact (decodes_text name).variant rfl fun levels => ofNode?_variant levels .source _
  | projection members ih =>
    rw [node, floats, memberNodes_eq_map, floatsInMembers_eq_flatMap] at *
    have each (member : Member) (listed : member ∈ members) :
        Decodes member? (memberNode member) member.expr.floats member :=
      decodes_memberNode (ih member listed fun x inside =>
        faithful x (List.mem_flatMap.mpr ⟨member, listed, inside⟩))
    exact (decodes_array each).variant rfl fun levels => ofNode?_variant levels .projection _
  | call step target argument ihTarget ihArgument =>
    obtain ⟨first, second⟩ := List.forall_mem_append.mp faithful
    exact decodes_operation (fun levels => ofNode?_variant levels .call) (fun _ _ _ => rfl)
      step.ofName?_name (ihTarget first) (ihArgument second)
  | convert inner ih =>
    exact (ih faithful).variant rfl fun levels => ofNode?_variant levels .convert _
  | quote inner ih =>
    exact (ih faithful).variant rfl fun levels => ofNode?_variant levels .quote _
  | lambda inner ih =>
    exact (ih faithful).variant rfl fun levels => ofNode?_variant levels .lambda _

/-! ## Whole texts -/

/-- **The JSON text of an expression is never read as another one.** It is read as that expression
if it is nested no deeper than the reader goes and no number in it is infinite or missing; otherwise
it is refused. Of the numbers it is assumed only that each finite one in the expression is read back
from its own text. -/
theorem ofText?_node_compactText {expr : Expr}
    (faithful : ∀ x ∈ expr.floats, x.isFinite = true → x.ReadsBack) :
    Json.ofText? ofNode? expr.node.compactText =
      if expr.node.nesting ≤ maxNesting ∧ ∀ x ∈ expr.floats, x.isFinite = true then some expr
      else none := by
  rw [Json.ofText?, expr.hasText_node.ofText?_compactText, Option.bind_some]
  have decodes := decodes_node faithful maxNesting
  split
  · rename_i holds
    exact (decodes expr).mpr ⟨holds, rfl⟩
  · rename_i fails
    rw [Option.eq_none_iff_forall_ne_some]
    intro found reads
    exact fails ((decodes found).mp reads).1

/-- A list that holds -1.5 is read back; one that holds an infinity is refused. -/
theorem ofText?_node_compactText_list :
    Json.ofText? ofNode? (quote (constant (.list
        [.text "a\"b", .float (.signed true (.ofPattern (2047 * Nat.pow 2 51)))]))).node.compactText
      = some (quote (constant (.list
        [.text "a\"b", .float (.signed true (.ofPattern (2047 * Nat.pow 2 51)))]))) ∧
    Json.ofText? ofNode? (constant (.list [.float (.signed true .infinity)])).node.compactText
      = none := by
  constructor
  · rw [ofText?_node_compactText]
    · exact if_pos (by decide)
    · intro x listed _
      obtain rfl := List.mem_singleton.mp listed
      unfold Double.ReadsBack
      decide +kernel
  · rw [ofText?_node_compactText]
    · exact if_neg (by decide)
    · intro x listed finite
      obtain rfl := List.mem_singleton.mp listed
      exact absurd finite (by decide)

end ColumnQuery.Expr
