import ColumnQuery.Proofs.Expr.Induction
import ColumnQuery.Proofs.Json.Decode
import ColumnQuery.Proofs.Time.Timestamp
import ColumnQuery.Proofs.Uuid

/-!
# Values are read back from their trees

The tree of a value is taken for that value, provided that each finite floating point number in it
is read back from its own text (`Double.ReadsBack`): the reading of numbers rounds more than once,
so this is not so of every number.
-/
namespace ColumnQuery

open Json

/-! ## Floating point numbers -/

/-- A number whose JSON text is read as that number. -/
def Double.ReadsBack (x : Double) : Prop :=
  Json.ofText? (fun _ => Node.double?) x.node.compactText = some x

/-- The tree of a number can be held by a text. -/
theorem Double.hasText_node (x : Double) : x.node.HasText := by
  cases x with
  | nan => exact .null
  | signed negative magnitude =>
    rw [node]
    split
    · exact .number (doubleLayout.isJson_numeral negative magnitude)
    · exact .null

/-- The tree of a number has no containers. -/
theorem Double.nesting_node (x : Double) : x.node.nesting = 0 := by
  cases x with
  | nan => rfl
  | signed negative magnitude =>
    rw [node]
    split <;> rfl

/-- A number is read from its tree exactly if it is finite. -/
theorem Double.decodes_node {x : Double} (faithful : x.isFinite = true → x.ReadsBack) :
    Decodes (fun _ => Node.double?) x.node [x] x := by
  intro levels found
  show x.node.double? = some found ↔ _
  rw [x.nesting_node, List.forall_mem_singleton]
  by_cases finite : x.isFinite = true
  · have reads : x.node.double? = some x := by
      have whole := faithful finite
      rwa [ReadsBack, Json.ofText?, x.hasText_node.ofText?_compactText, Option.bind_some] at whole
    rw [reads]
    simp [finite]
  · have none : x.node = .null := by
      cases x with
      | nan => rfl
      | signed negative magnitude => exact if_neg finite
    rw [none]
    simp [finite, Node.double?]

/-! ## Values -/

namespace Value

mutual

/-- The floating point numbers in a value at any depth. -/
def floats : Value → List Double
  | float x => [x]
  | list items => floatsIn items
  | _ => []

/-- The floating point numbers in some values. -/
def floatsIn : List Value → List Double
  | [] => []
  | item :: items => floats item ++ floatsIn items

end

/-- The floating point numbers in some values are those in each. -/
theorem floatsIn_eq_flatMap (items : List Value) : floatsIn items = items.flatMap floats := by
  induction items with
  | nil => rfl
  | cons item items ih => rw [floatsIn, ih, List.flatMap_cons]

/-- The trees of values are those of each. -/
theorem nodes_eq_map (items : List Value) : nodes items = items.map node := by
  induction items with
  | nil => rfl
  | cons item items ih => rw [nodes, ih, List.map_cons]

/-- The tree of a value can be held by a text. -/
theorem hasText_node (value : Value) : value.node.HasText := by
  induction value with
  | null => exact .string _
  | bool b => exact Node.hasText_variant (.bool b)
  | int n => exact Node.hasText_variant (.number (Numeral.isJson_ofInt n.value))
  | float x => exact Node.hasText_variant x.hasText_node
  | text s => exact Node.hasText_variant (.string s)
  | uuid u => exact Node.hasText_variant (.string u.text)
  | timestamp t => exact Node.hasText_variant (.string t.text)
  | blob bytes =>
    refine Node.hasText_variant (.array fun item member => ?_)
    obtain ⟨byte, _, rfl⟩ := List.mem_map.mp member
    exact .number (Numeral.isJson_ofInt byte.toNat)
  | list items ih =>
    refine Node.hasText_variant (.array fun item member => ?_)
    rw [nodes_eq_map] at member
    obtain ⟨value, inside, rfl⟩ := List.mem_map.mp member
    exact ih value inside

/-- A named case is read by its kind. -/
theorem ofNode?_variant (levels : Nat) (kind : Kind) (content : Node) :
    ofNode? (levels + 1) (.variant kind.name content) =
      (match kind, content with
      | .null, .null => some null
      | .null, _ => none
      | .bool, content => content.bool?.map bool
      | .int, content => content.bigint?.map int
      | .float, content => content.double?.map float
      | .text, content => content.text?.map text
      | .uuid, content => (content.text?.bind Uuid.ofText?).map uuid
      | .timestamp, content => (content.text?.bind Timestamp.ofText?).map timestamp
      | .blob, content => (items? (fun _ => Node.byte?) levels content).map blob
      | .list, content => (items? ofNode? levels content).map list) := by
  rw [Node.variant, ofNode?, Kind.ofName?_name]
  cases kind with
  | null => cases content <;> rfl
  | list => cases content <;> cases levels <;> rfl
  | _ => rfl

/-- **The tree of a value is taken for the value.** -/
theorem decodes_node {value : Value}
    (faithful : ∀ x ∈ value.floats, x.isFinite = true → x.ReadsBack) :
    Decodes ofNode? value.node value.floats value := by
  induction value with
  | null => exact decodes_leaf rfl fun levels => by cases levels <;> rfl
  | bool b =>
    have leaf : Decodes (fun _ => Node.bool?) (.bool b) [] b := decodes_leaf rfl fun _ => rfl
    exact leaf.variant rfl fun levels => ofNode?_variant levels .bool _
  | int n =>
    have leaf : Decodes (fun _ => Node.bigint?) (.int n.value) [] n := by
      refine decodes_leaf rfl fun _ => ?_
      rw [Node.bigint?, Node.int?_int, Option.bind_some, Bigint.ofInt?_value]
    exact leaf.variant rfl fun levels => ofNode?_variant levels .int _
  | float x =>
    have leaf := Double.decodes_node (faithful x (List.mem_singleton_self x))
    exact leaf.variant rfl fun levels => ofNode?_variant levels .float _
  | text s => exact (decodes_text s).variant rfl fun levels => ofNode?_variant levels .text _
  | uuid u =>
    have leaf : Decodes (fun _ content => content.text?.bind Uuid.ofText?) (.text u.text) [] u := by
      refine decodes_leaf rfl fun _ => ?_
      rw [Node.text, Node.text?, Option.bind_some, u.ofText?_text]
    exact leaf.variant rfl fun levels => ofNode?_variant levels .uuid _
  | timestamp t =>
    have leaf : Decodes (fun _ content => content.text?.bind Timestamp.ofText?) (.text t.text) []
        t := by
      refine decodes_leaf rfl fun _ => ?_
      rw [Node.text, Node.text?, Option.bind_some, t.ofText?_text]
    exact leaf.variant rfl fun levels => ofNode?_variant levels .timestamp _
  | blob bytes =>
    have leaf (byte : UInt8) : Decodes (fun _ => Node.byte?) (.int byte.toNat) [] byte :=
      decodes_leaf rfl fun _ => Node.byte?_int byte
    have array := decodes_array fun byte (_ : byte ∈ bytes) => leaf byte
    rw [List.flatMap_eq_nil_iff.mpr fun _ _ => rfl] at array
    exact array.variant rfl fun levels => ofNode?_variant levels .blob _
  | list items ih =>
    rw [node, floats, nodes_eq_map, floatsIn_eq_flatMap] at *
    have each (item : Value) (member : item ∈ items) : Decodes ofNode? item.node item.floats item :=
      ih item member fun x inside => faithful x (List.mem_flatMap.mpr ⟨item, member, inside⟩)
    exact (decodes_array each).variant rfl fun levels => ofNode?_variant levels .list _

end Value

end ColumnQuery
