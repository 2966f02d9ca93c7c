import ColumnQuery.Proofs.Json.Expr
import ColumnQuery.Proofs.Number.Scaled

/-!
# What is read is written within the same bounds

A value or an expression may be read from a tree that differs from the one written for it. Whatever
the tree was, the one written needs no more containers than were left when the first was read, and
every floating point number in it is finite: each form that is read has at least the containers of
the form that is written, and the reading of numbers gives finite ones only. The bounds are proved
by induction on the containers left, as the decoders go.
-/
namespace ColumnQuery

open Json

namespace Json

variable {α β : Type}

/-- With so many containers left, whatever is read has a tree within them and floating point numbers
that are finite. -/
def Fits (decode : Decoder α) (node : α → Node) (floats : α → List Double) (levels : Nat) : Prop :=
  ∀ tree value, decode levels tree = some value →
    (node value).nesting ≤ levels ∧ ∀ x ∈ floats value, x.isFinite = true

/-- What is found by a name has that name. -/
theorem name_of_find? {nameOf : β → String} {kinds : List β} {name : String} {kind : β}
    (found : kinds.find? (fun kind => nameOf kind == name) = some kind) : nameOf kind = name := by
  have same := List.find?_some found
  exact eq_of_beq same

/-- What is read of items is read of one of them each. -/
theorem exists_of_mapM {f : β → Option α} {items : List β} {values : List α}
    (reads : items.mapM f = some values) {value : α} (member : value ∈ values) :
    ∃ item ∈ items, f item = some value := by
  induction items generalizing values with
  | nil =>
    cases reads
    cases member
  | cons first others ih =>
    simp only [List.mapM_cons, Option.bind_eq_bind, Option.bind_eq_some_iff, pure,
      Option.some.injEq] at reads
    obtain ⟨head, read, tail, readOthers, rfl⟩ := reads
    cases member with
    | head => exact ⟨first, List.mem_cons_self, read⟩
    | tail _ inside =>
      obtain ⟨item, listed, readItem⟩ := ih readOthers inside
      exact ⟨item, List.mem_cons_of_mem _ listed, readItem⟩

/-- Items are read from an array, each with one container less left. -/
theorem exists_of_items? {item : Decoder α} {levels : Nat} {tree : Node} {values : List α}
    (reads : items? item levels tree = some values) :
    ∃ inner, levels = inner + 1 ∧ ∀ value ∈ values, ∃ tree, item inner tree = some value := by
  cases levels with
  | zero => contradiction
  | succ inner =>
    cases tree with
    | array items =>
      refine ⟨inner, rfl, fun value member => ?_⟩
      obtain ⟨tree, _, read⟩ := exists_of_mapM reads member
      exact ⟨tree, read⟩
    | _ => contradiction

/-- An array fits if its items do with one container less left. -/
theorem Fits.items {item : Decoder α} {node : α → Node} {floats : α → List Double} {levels : Nat}
    (each : ∀ inner < levels, Fits item node floats inner) :
    Fits (items? item) (fun values => .array (values.map node)) (List.flatMap floats) levels := by
  intro tree values reads
  obtain ⟨inner, rfl, found⟩ := exists_of_items? reads
  have fits (value : α) (member : value ∈ values) :
      (node value).nesting ≤ inner ∧ ∀ x ∈ floats value, x.isFinite = true := by
    obtain ⟨tree, read⟩ := found value member
    exact each inner (Nat.lt_succ_self inner) tree value read
  rw [Node.nesting_array_le, List.forall_mem_map]
  refine ⟨fun value member => (fits value member).1, fun x listed => ?_⟩
  obtain ⟨value, member, inside⟩ := List.mem_flatMap.mp listed
  exact (fits value member).2 x inside

/-- A named case fits if its content does with one container less left. -/
theorem fits_variant {name : String} {content : Node} {floats : List Double} {levels : Nat}
    (inside : content.nesting ≤ levels ∧ ∀ x ∈ floats, x.isFinite = true) :
    (Node.variant name content).nesting ≤ levels + 1 ∧ ∀ x ∈ floats, x.isFinite = true := by
  rw [Node.nesting_variant]
  exact ⟨Nat.succ_le_succ inside.1, inside.2⟩

/-- A tree without containers and without floating point numbers fits. -/
theorem fits_leaf {node : Node} (flat : node.nesting = 0) (levels : Nat) :
    node.nesting ≤ levels ∧ ∀ x ∈ ([] : List Double), x.isFinite = true := by
  rw [flat]
  exact ⟨Nat.zero_le levels, List.forall_mem_nil _⟩

/-- A number is read only if it is finite. -/
theorem isFinite_of_double? {node : Node} {x : Double} (reads : node.double? = some x) :
    x.isFinite = true := by
  cases node with
  | number numeral => exact Numeral.isFinite_of_scaled? reads
  | _ => contradiction

end Json

/-! ## Values -/

namespace Value

/-- A value is read from the string that is written for null, or from a named case. -/
theorem ofNode?_eq_some {levels : Nat} {tree : Node} {value : Value}
    (reads : ofNode? levels tree = some value) :
    value = null ∨ ∃ inner kind content,
      levels = inner + 1 ∧ tree = .variant (Kind.name kind) content := by
  unfold ofNode? at reads
  split at reads
  · split at reads
    · cases reads
      exact .inl rfl
    · contradiction
  · obtain ⟨kind, found, _⟩ := Option.bind_eq_some_iff.mp reads
    have named : kind.name = _ := name_of_find? found
    rw [← named]
    exact .inr ⟨_, kind, _, rfl, rfl⟩
  · contradiction

/-- **Values that are read fit.** -/
theorem fits_ofNode? (levels : Nat) : Fits ofNode? node floats levels := by
  induction levels using Nat.strongRecOn with
  | ind levels ih =>
    intro tree value reads
    obtain rfl | ⟨inner, kind, content, rfl, rfl⟩ := ofNode?_eq_some reads
    · exact fits_leaf rfl levels
    rw [ofNode?_variant] at reads
    cases kind with
    | null =>
      cases content with
      | null =>
        cases reads
        exact fits_leaf rfl _
      | _ => contradiction
    | bool | int | text | uuid | timestamp =>
      obtain ⟨_, _, rfl⟩ := Option.map_eq_some_iff.mp reads
      exact fits_variant (fits_leaf rfl inner)
    | float =>
      obtain ⟨x, read, rfl⟩ := Option.map_eq_some_iff.mp reads
      refine fits_variant ⟨?_, List.forall_mem_singleton.mpr (isFinite_of_double? read)⟩
      rw [x.nesting_node]
      exact Nat.zero_le inner
    | blob =>
      obtain ⟨bytes, read, rfl⟩ := Option.map_eq_some_iff.mp reads
      have leaf (inner : Nat) : Fits (fun _ => Node.byte?) (fun byte => .int byte.toNat)
          (fun _ => []) inner := fun _ _ _ => fits_leaf rfl inner
      have nested := (Fits.items (fun inner _ => leaf inner) content bytes read).1
      exact fits_variant ⟨nested, List.forall_mem_nil _⟩
    | list =>
      obtain ⟨items, read, rfl⟩ := Option.map_eq_some_iff.mp reads
      rw [node, floats, nodes_eq_map, floatsIn_eq_flatMap]
      have below (deeper : Nat) (less : deeper < inner) := ih deeper (Nat.lt_succ_of_lt less)
      exact fits_variant (Fits.items below content items read)

end Value

/-! ## Expressions -/

namespace Expr

/-- An expression is read from the string that is written for a row, or from a named case. -/
theorem ofNode?_eq_some {levels : Nat} {tree : Node} {expr : Expr}
    (reads : ofNode? levels tree = some expr) :
    expr = row ∨ ∃ inner kind content,
      levels = inner + 1 ∧ tree = .variant (Kind.name kind) content := by
  unfold ofNode? at reads
  split at reads
  · split at reads
    · cases reads
      exact .inl rfl
    · contradiction
  · obtain ⟨kind, found, _⟩ := Option.bind_eq_some_iff.mp reads
    have named : kind.name = _ := name_of_find? found
    rw [← named]
    exact .inr ⟨_, kind, _, rfl, rfl⟩
  · contradiction

/-- An operator is read with its two operands, each with one container less left. -/
theorem exists_of_operation? {α : Type} {keys : List String} {ofName? : String → Option α}
    {make : α → Expr → Expr → Expr} {levels : Nat} {content : Node} {expr : Expr}
    (reads : operation? keys ofName? make levels content = some expr) :
    ∃ inner op left right, levels = inner + 1 ∧ expr = make op left right ∧
      (∃ tree, ofNode? inner tree = some left) ∧ ∃ tree, ofNode? inner tree = some right := by
  cases levels with
  | zero => contradiction
  | succ inner =>
    obtain ⟨parts, _, read⟩ := Option.bind_eq_some_iff.mp reads
    split at read
    · obtain ⟨op, _, read⟩ := Option.bind_eq_some_iff.mp read
      obtain ⟨left, readLeft, read⟩ := Option.bind_eq_some_iff.mp read
      obtain ⟨right, readRight, same⟩ := Option.bind_eq_some_iff.mp read
      cases same
      exact ⟨inner, op, left, right, rfl, rfl, ⟨_, readLeft⟩, _, readRight⟩
    · contradiction

/-- A membership is read with its two parts, each with one container less left. -/
theorem exists_of_membership? {levels : Nat} {content : Node} {expr : Expr}
    (reads : membership? levels content = some expr) :
    ∃ inner column values, levels = inner + 1 ∧ expr = membership column values ∧
      (∃ tree, ofNode? inner tree = some column) ∧ ∃ tree, ofNode? inner tree = some values := by
  cases levels with
  | zero => contradiction
  | succ inner =>
    obtain ⟨parts, _, read⟩ := Option.bind_eq_some_iff.mp reads
    split at read
    · obtain ⟨column, readColumn, read⟩ := Option.bind_eq_some_iff.mp read
      obtain ⟨values, readValues, same⟩ := Option.bind_eq_some_iff.mp read
      cases same
      exact ⟨inner, column, values, rfl, rfl, ⟨_, readColumn⟩, _, readValues⟩
    · contradiction

/-- A member is read with its expression, with one container less left. -/
theorem exists_of_member? {levels : Nat} {tree : Node} {member : Member}
    (reads : member? levels tree = some member) :
    ∃ inner, levels = inner + 1 ∧ ∃ tree, ofNode? inner tree = some member.expr := by
  cases levels with
  | zero => contradiction
  | succ inner =>
    obtain ⟨parts, _, read⟩ := Option.bind_eq_some_iff.mp reads
    split at read
    · obtain ⟨label, _, read⟩ := Option.bind_eq_some_iff.mp read
      obtain ⟨expr, readExpr, same⟩ := Option.bind_eq_some_iff.mp read
      cases same
      exact ⟨inner, rfl, _, readExpr⟩
    · contradiction

/-- A structure of two expressions fits if both do with one container less left; its other fields
have no containers. -/
theorem fits_record {fields : List (String × Node)} {left right : Expr} {levels : Nat}
    (fits : Fits ofNode? node floats levels)
    (first : ∃ tree, ofNode? levels tree = some left)
    (second : ∃ tree, ofNode? levels tree = some right)
    (nested : ∀ field ∈ fields, field.2.nesting = 0 ∨ field.2 = left.node ∨ field.2 = right.node) :
    (Node.record fields).nesting ≤ levels + 1 ∧
      ∀ x ∈ left.floats ++ right.floats, x.isFinite = true := by
  obtain ⟨tree, read⟩ := first
  obtain ⟨tree', read'⟩ := second
  obtain ⟨near, finite⟩ := fits tree left read
  obtain ⟨near', finite'⟩ := fits tree' right read'
  rw [Node.nesting_record_le, List.forall_mem_append]
  refine ⟨fun field listed => ?_, finite, finite'⟩
  obtain flat | same | same := nested field listed
  · rw [flat]
    exact Nat.zero_le levels
  · rw [same]
    exact near
  · rw [same]
    exact near'

/-- A member fits if its expression does with one container less left. -/
theorem fits_member? {levels : Nat} (below : ∀ inner < levels, Fits ofNode? node floats inner) :
    Fits member? memberNode (fun member => member.expr.floats) levels := by
  intro tree member reads
  obtain ⟨inner, rfl, tree, read⟩ := exists_of_member? reads
  obtain ⟨near, finite⟩ := below inner (Nat.lt_succ_self inner) tree member.expr read
  refine ⟨?_, finite⟩
  have flat : (Node.optional member.label).nesting = 0 := by cases member.label <;> rfl
  rw [memberNode, Node.nesting_record_le]
  simp only [List.forall_mem_cons, flat]
  exact ⟨Nat.zero_le inner, near, List.forall_mem_nil _⟩

/-- **Expressions that are read fit.** -/
theorem fits_ofNode? (levels : Nat) : Fits ofNode? node floats levels := by
  induction levels using Nat.strongRecOn with
  | ind levels ih =>
    intro tree expr reads
    obtain rfl | ⟨inner, kind, content, rfl, rfl⟩ := ofNode?_eq_some reads
    · exact fits_leaf rfl levels
    have below (deeper : Nat) (less : deeper < inner) := ih deeper (Nat.lt_succ_of_lt less)
    have one := ih inner (Nat.lt_succ_self inner)
    rw [ofNode?_variant] at reads
    cases kind with
    | constant =>
      obtain ⟨value, read, rfl⟩ := Option.map_eq_some_iff.mp reads
      exact fits_variant (Value.fits_ofNode? inner content value read)
    | field | source =>
      obtain ⟨_, _, rfl⟩ := Option.map_eq_some_iff.mp reads
      exact fits_variant (fits_leaf rfl inner)
    | row =>
      cases content with
      | null =>
        cases reads
        exact fits_leaf rfl _
      | _ => contradiction
    | not | negate | convert | quote | lambda =>
      obtain ⟨operand, read, rfl⟩ := Option.map_eq_some_iff.mp reads
      exact fits_variant (one content operand read)
    | compare | logical | arithmetic | call =>
      obtain ⟨deeper, op, left, right, rfl, rfl, first, second⟩ := exists_of_operation? reads
      have fits := below deeper (Nat.lt_succ_self deeper)
      refine fits_variant (fits_record fits first second ?_)
      simp [Node.text, Node.nesting]
    | membership =>
      obtain ⟨deeper, column, values, rfl, rfl, first, second⟩ := exists_of_membership? reads
      have fits := below deeper (Nat.lt_succ_self deeper)
      refine fits_variant (fits_record fits first second ?_)
      simp
    | list =>
      obtain ⟨items, read, rfl⟩ := Option.map_eq_some_iff.mp reads
      rw [node, floats, nodes_eq_map, floatsIn_eq_flatMap]
      exact fits_variant (Fits.items below content items read)
    | projection =>
      obtain ⟨members, read, rfl⟩ := Option.map_eq_some_iff.mp reads
      rw [node, floats, memberNodes_eq_map, floatsInMembers_eq_flatMap]
      have each (deeper : Nat) (less : deeper < inner) :
          Fits member? memberNode (fun member => member.expr.floats) deeper :=
        fits_member? fun further lower => below further (Nat.lt_trans lower less)
      exact fits_variant (Fits.items each content members read)

end Expr

end ColumnQuery
