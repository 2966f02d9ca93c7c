import ColumnQuery.Json.Decode
import ColumnQuery.Proofs.Json.Text

/-!
# What decoders take trees for

`Decodes` says that a decoder takes a tree for one thing: as soon as enough containers are left for
the nesting of the tree and the floating point numbers in it are finite, it is read as that, and
otherwise not at all. The ways to build trees keep this, so it need not be unfolded for the types
that are read.
-/
namespace ColumnQuery.Json

/-! ## Nesting -/

namespace Node

mutual

/-- The greatest number of containers around a place of a tree. -/
def nesting : Node → Nat
  | array items => nestingItems items + 1
  | object entries => nestingEntries entries + 1
  | _ => 0

/-- The greatest nesting of some items. -/
def nestingItems : List Node → Nat
  | [] => 0
  | item :: items => max (nesting item) (nestingItems items)

/-- The greatest nesting of what some entries stand for. -/
def nestingEntries : List Entry → Nat
  | [] => 0
  | ⟨_, node⟩ :: entries => max (nesting node) (nestingEntries entries)

end

/-- A named case is one container around its content. -/
theorem nesting_variant (name : String) (content : Node) :
    (variant name content).nesting = content.nesting + 1 := by
  simp only [variant, nesting, nestingEntries, Nat.max_zero]

/-- An array is nested within a bound if its items are within one less. -/
theorem nesting_array_le {items : List Node} {bound : Nat} :
    (array items).nesting ≤ bound + 1 ↔ ∀ item ∈ items, item.nesting ≤ bound := by
  rw [nesting, Nat.add_le_add_iff_right]
  induction items with
  | nil => simp [nestingItems]
  | cons item items ih => rw [nestingItems, Nat.max_le, ih, List.forall_mem_cons]

/-- A structure is nested within a bound if its fields are within one less. -/
theorem nesting_record_le {fields : List (String × Node)} {bound : Nat} :
    (record fields).nesting ≤ bound + 1 ↔ ∀ field ∈ fields, field.2.nesting ≤ bound := by
  rw [record, nesting, Nat.add_le_add_iff_right]
  induction fields with
  | nil => simp [nestingEntries]
  | cons field fields ih =>
    rw [List.map_cons, nestingEntries, Nat.max_le, ih, List.forall_mem_cons]

/-- A named case can be held by a text if its content can. -/
theorem hasText_variant {name : String} {content : Node} (inside : content.HasText) :
    (variant name content).HasText := by
  refine .object (fun entry member => ?_) (fun entry member => ?_)
  · rw [List.mem_singleton.mp member]
    rfl
  · rw [List.mem_singleton.mp member]
    exact inside

/-- A structure can be held by a text if its fields can. -/
theorem hasText_record {fields : List (String × Node)}
    (inside : ∀ field ∈ fields, field.2.HasText) : (record fields).HasText := by
  refine .object (fun entry member => ?_) (fun entry member => ?_)
  · obtain ⟨field, _, rfl⟩ := List.mem_map.mp member
    rfl
  · obtain ⟨field, listed, rfl⟩ := List.mem_map.mp member
    exact inside field listed

end Node

/-! ## Decoding -/

variable {α β γ : Type}

/-- A decoder takes a tree with some floating point numbers in it for one thing: it is read as that
if enough containers are left for the tree and the numbers are finite, and else not at all. -/
def Decodes (decode : Decoder α) (node : Node) (floats : List Double) (value : α) : Prop :=
  ∀ levels found, decode levels node = some found ↔
    (node.nesting ≤ levels ∧ ∀ x ∈ floats, x.isFinite = true) ∧ value = found

/-- A tree without containers that is always read. -/
theorem decodes_leaf {decode : Decoder α} {node : Node} {value : α} (flat : node.nesting = 0)
    (reads : ∀ levels, decode levels node = some value) : Decodes decode node [] value := by
  intro levels found
  rw [reads, flat]
  simp

/-- A named case is read as its content is, with one container less left. -/
theorem Decodes.variant {inner : Decoder α} {outer : Decoder β} {make : α → β} {name : String}
    {content : Node} {floats : List Double} {value : α}
    (inside : Decodes inner content floats value)
    (closed : outer 0 (.variant name content) = none)
    (opened : ∀ levels, outer (levels + 1) (.variant name content) =
      (inner levels content).map make) :
    Decodes outer (.variant name content) floats (make value) := by
  intro levels found
  rw [Node.nesting_variant]
  cases levels with
  | zero => simp [closed]
  | succ levels =>
    rw [opened, Option.map_eq_some_iff]
    simp only [inside levels, Nat.add_le_add_iff_right]
    constructor
    · rintro ⟨_, ⟨holds, rfl⟩, rfl⟩
      exact ⟨holds, rfl⟩
    · rintro ⟨holds, rfl⟩
      exact ⟨value, ⟨holds, rfl⟩, rfl⟩

/-- A named case that is what its content is, with one container less left. -/
theorem Decodes.content {inner outer : Decoder α} {name : String} {content : Node}
    {floats : List Double} {value : α} (inside : Decodes inner content floats value)
    (closed : outer 0 (.variant name content) = none)
    (opened : ∀ levels, outer (levels + 1) (.variant name content) = inner levels content) :
    Decodes outer (.variant name content) floats value := by
  have same : Decodes outer (.variant name content) floats (id value) :=
    inside.variant closed fun levels => by rw [opened, Option.map_id, id]
  exact same

/-- Trees that are each taken for one thing are taken together for all of them. -/
theorem mapM_eq_some {item : Decoder α} {node : α → Node} {floats : α → List Double}
    {values : List α} (each : ∀ value ∈ values, Decodes item (node value) (floats value) value)
    (levels : Nat) (found : List α) :
    (values.map node).mapM (item levels) = some found ↔
      (∀ value ∈ values, (node value).nesting ≤ levels ∧ ∀ x ∈ floats value, x.isFinite = true) ∧
        values = found := by
  induction values generalizing found with
  | nil =>
    constructor
    · rintro ⟨⟩
      exact ⟨List.forall_mem_nil _, rfl⟩
    · rintro ⟨_, rfl⟩
      rfl
  | cons value values ih =>
    have head := each value List.mem_cons_self levels
    have tail := ih fun other member => each other (List.mem_cons_of_mem _ member)
    rw [List.map_cons, List.mapM_cons]
    simp only [Option.bind_eq_bind, Option.bind_eq_some_iff, head, tail, pure, Option.some.injEq,
      List.forall_mem_cons]
    constructor
    · rintro ⟨_, ⟨first, rfl⟩, _, ⟨others, rfl⟩, rfl⟩
      exact ⟨⟨first, others⟩, rfl⟩
    · rintro ⟨⟨first, others⟩, rfl⟩
      exact ⟨value, ⟨first, rfl⟩, values, ⟨others, rfl⟩, rfl⟩

/-- An array is read item by item, with one container less left. -/
theorem decodes_array {item : Decoder α} {node : α → Node} {floats : α → List Double}
    {values : List α} (each : ∀ value ∈ values, Decodes item (node value) (floats value) value) :
    Decodes (items? item) (.array (values.map node)) (values.flatMap floats) values := by
  intro levels found
  cases levels with
  | zero => simp [items?, Node.nesting]
  | succ levels =>
    rw [items?, mapM_eq_some each, Node.nesting_array_le, List.forall_mem_map]
    simp only [List.mem_flatMap]
    constructor
    · rintro ⟨holds, rfl⟩
      refine ⟨⟨fun value member => (holds value member).1, ?_⟩, rfl⟩
      rintro x ⟨value, member, inside⟩
      exact (holds value member).2 x inside
    · rintro ⟨⟨nested, finite⟩, rfl⟩
      refine ⟨fun value member => ⟨nested value member, fun x inside => ?_⟩, rfl⟩
      exact finite x ⟨value, member, inside⟩

/-- A structure with two parts is read part by part, with one container less left; its other fields
have no containers. -/
theorem Decodes.record {first : Decoder α} {second : Decoder β} {outer : Decoder γ}
    {make : α → β → γ} {fields : List (String × Node)} {left right : Node}
    {floats floats' : List Double} {value : α} {value' : β}
    (inside : Decodes first left floats value) (inside' : Decodes second right floats' value')
    (nested : ∀ bound, (∀ field ∈ fields, field.2.nesting ≤ bound) ↔
      left.nesting ≤ bound ∧ right.nesting ≤ bound)
    (closed : outer 0 (.record fields) = none)
    (opened : ∀ levels, outer (levels + 1) (.record fields) = do
      let a ← first levels left
      let b ← second levels right
      some (make a b)) :
    Decodes outer (.record fields) (floats ++ floats') (make value value') := by
  intro levels found
  cases levels with
  | zero =>
    rw [closed]
    simp [Node.record, Node.nesting]
  | succ levels =>
    rw [opened, Node.nesting_record_le, nested, List.forall_mem_append]
    simp only [Option.bind_eq_bind, Option.bind_eq_some_iff, inside levels, inside' levels,
      Option.some.injEq]
    constructor
    · rintro ⟨_, ⟨⟨near, finite⟩, rfl⟩, _, ⟨⟨near', finite'⟩, rfl⟩, rfl⟩
      exact ⟨⟨⟨near, near'⟩, finite, finite'⟩, rfl⟩
    · rintro ⟨⟨⟨near, near'⟩, finite, finite'⟩, rfl⟩
      exact ⟨value, ⟨⟨near, finite⟩, rfl⟩, value', ⟨⟨near', finite'⟩, rfl⟩, rfl⟩

/-! ## Leaves -/

/-- The number of an integer is read as that integer. -/
theorem Node.int?_int (n : Int) : (int n).int? = some n := by
  have negated : ((Numeral.ofInt n).negative && (Numeral.ofInt n).integer == 0) = false := by
    rw [Numeral.integer_ofInt]
    by_cases zero : n = 0
    · subst zero
      rfl
    · simp [zero]
  have whole : (Numeral.ofInt n).isWhole = true := rfl
  rw [int, int?, whole, negated, Numeral.integer_ofInt]
  rfl

/-- The number of a byte is read as that byte. -/
theorem Node.byte?_int (byte : UInt8) : (int byte.toNat).byte? = some byte := by
  have inside : 0 ≤ (byte.toNat : Int) ∧ (byte.toNat : Int) < UInt8.size := by
    have small := byte.toNat_lt
    simp only [UInt8.size]
    omega
  rw [byte?, natBelow?, int?_int, Option.bind_some, if_pos inside]
  simp

/-- A text is read as itself. -/
theorem decodes_text (s : String) : Decodes (fun _ => Node.text?) (.text s) [] s :=
  decodes_leaf rfl fun _ => rfl

end ColumnQuery.Json
