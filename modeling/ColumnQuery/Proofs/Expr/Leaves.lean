import Mathlib.Logic.ExistsUnique
import Mathlib.Logic.Relation
import ColumnQuery.Proofs.Expr.Exact
import ColumnQuery.Proofs.Expr.Induction

/-!
# Leaves decide results

Arithmetic is typed by its leaves alone, whatever the shape of the tree above them. One null among
them makes the result null; without one the result is an integer, a floating point number or a text,
as the leaves are integers, numbers or texts, and no other mixture has a result. Null wins over its
siblings but not over their faults: a fault anywhere below a tree is a fault of the tree.
-/
namespace ColumnQuery

/-! ## Operations -/

/-- How an operation comes to its result. -/
inductive Arithmetic.Gives (op : Arithmetic) : Value → Value → Value → Prop where
  /-- Null wins over any operand. -/
  | null {left right : Value} (absent : left = .null ∨ right = .null) : Gives op left right .null
  /-- Integers stay integers. -/
  | int (a b n : Bigint) : Gives op (.int a) (.int b) (.int n)
  /-- A floating point number makes its sibling one, and the result is finite. -/
  | float {left right : Value} {x : Double} (first : left.kind = .int ∨ left.kind = .float)
      (second : right.kind = .int ∨ right.kind = .float)
      (either : left.kind = .float ∨ right.kind = .float) (finite : x.isFinite = true) :
      Gives op left right (.float x)
  /-- Texts are joined. -/
  | text (a b : String) (adds : op = .add) : Gives op (.text a) (.text b) (.text (a ++ b))

/-- Arithmetic on floating point numbers has finite results only. -/
theorem Arithmetic.finite_of_onDoubles {op : Arithmetic} {left right : Double} {value : Value}
    (applies : op.onDoubles left right = .ok value) :
    ∃ x, value = .float x ∧ x.isFinite = true := by
  unfold onDoubles at applies
  by_cases zero : (op = .div ∨ op = .rem) ∧ right.isZero = true
  · rw [if_pos zero] at applies
    contradiction
  · rw [if_neg zero] at applies
    by_cases finite : (op.rounded left right).isFinite = true
    · simp only [finite, if_true, Except.ok.injEq] at applies
      exact ⟨_, applies.symm, finite⟩
    · simp only [finite] at applies
      contradiction

/-- Every result of an operation comes about in one of the four ways. -/
theorem Arithmetic.gives_of_apply {op : Arithmetic} {left right value : Value}
    (applies : op.apply left right = .ok value) : op.Gives left right value := by
  unfold apply at applies
  split at applies
  case h_1 =>
    cases applies
    exact .null (.inl rfl)
  case h_2 =>
    cases applies
    exact .null (.inr rfl)
  case h_3 a b =>
    obtain ⟨n, rfl, _⟩ := onInts_eq_ok.mp applies
    exact .int a b n
  case h_4 =>
    obtain ⟨x, rfl, finite⟩ := finite_of_onDoubles applies
    exact .float (.inl rfl) (.inr rfl) (.inr rfl) finite
  case h_5 =>
    obtain ⟨x, rfl, finite⟩ := finite_of_onDoubles applies
    exact .float (.inr rfl) (.inl rfl) (.inl rfl) finite
  case h_6 =>
    obtain ⟨x, rfl, finite⟩ := finite_of_onDoubles applies
    exact .float (.inr rfl) (.inr rfl) (.inl rfl) finite
  case h_7 a b =>
    by_cases adds : op = .add
    · rw [if_pos adds] at applies
      cases applies
      exact .text a b adds
    · rw [if_neg adds] at applies
      contradiction
  case h_8 => contradiction

namespace Expr

/-! ## Leaves -/

/-- The leaves of arithmetic from left to right, without their wrappers. -/
def leaves : Expr → List Expr
  | arithmetic _ left right => left.leaves ++ right.leaves
  | negate operand => operand.leaves
  | convert inner => inner.leaves
  | quote inner => inner.leaves
  | lambda inner => inner.leaves
  | leaf => [leaf]

/-- All operations above the leaves are additions. -/
def Adds : Expr → Prop
  | arithmetic op left right => op = .add ∧ left.Adds ∧ right.Adds
  | negate _ => False
  | convert inner => inner.Adds
  | quote inner => inner.Adds
  | lambda inner => inner.Adds
  | _ => True

/-- An expression, its wrappers aside, is an operation. -/
def Operates (expr : Expr) : Prop := expr.bare.kind = .arithmetic ∨ expr.bare.kind = .negate

/-- All leaves are integers. -/
def OnlyInts (expr : Expr) : Prop := ∀ leaf ∈ expr.leaves, ∃ n, leaf = .constant (.int n)

/-- All leaves are integers or floating point numbers. -/
def OnlyNumbers (expr : Expr) : Prop :=
  ∀ leaf ∈ expr.leaves, (∃ n, leaf = .constant (.int n)) ∨ ∃ x, leaf = .constant (.float x)

/-- Some leaf is a floating point number. -/
def SomeFloat (expr : Expr) : Prop := ∃ x, .constant (.float x) ∈ expr.leaves

/-- The leaves are these texts in order. -/
def OnlyTexts (expr : Expr) (texts : List String) : Prop :=
  expr.leaves = texts.map fun text => .constant (.text text)

/-- What a value tells about the expression it is the value of. A value of any other kind was never
computed, only written. -/
def Tells (expr : Expr) : Value → Prop
  | .null => .constant .null ∈ expr.leaves
  | .int _ => expr.OnlyInts
  | .float x =>
    expr.OnlyNumbers ∧ expr.SomeFloat ∧ (expr.bare.kind = .arithmetic → x.isFinite = true)
  | .text s => ∃ texts, expr.OnlyTexts texts ∧ expr.Adds ∧ s = String.join texts
  | _ => .constant .null ∉ expr.leaves ∧ ¬ expr.Operates

/-- Integers are numbers. -/
theorem OnlyInts.onlyNumbers {expr : Expr} (ints : expr.OnlyInts) : expr.OnlyNumbers :=
  fun leaf listed => .inl (ints leaf listed)

/-- No number is null. -/
theorem OnlyNumbers.present {expr : Expr} (numbers : expr.OnlyNumbers) :
    .constant .null ∉ expr.leaves := by
  intro listed
  rcases numbers _ listed with ⟨n, impossible⟩ | ⟨x, impossible⟩
  · cases impossible
  · cases impossible

/-- No text is null. -/
theorem OnlyTexts.present {expr : Expr} {texts : List String} (only : expr.OnlyTexts texts) :
    .constant .null ∉ expr.leaves := by
  rw [only]
  intro listed
  obtain ⟨text, _, impossible⟩ := List.mem_map.mp listed
  cases impossible

/-- A value that is a number tells that all leaves are numbers. -/
theorem Tells.onlyNumbers {expr : Expr} {value : Value} (tells : expr.Tells value)
    (number : value.kind = .int ∨ value.kind = .float) : expr.OnlyNumbers := by
  cases value with
  | int n => exact OnlyInts.onlyNumbers tells
  | float x => exact tells.1
  | _ => rcases number with impossible | impossible <;> cases impossible

/-- A floating point number tells that some leaf is one. -/
theorem Tells.someFloat {expr : Expr} {value : Value} (tells : expr.Tells value)
    (float : value.kind = .float) : expr.SomeFloat := by
  cases value with
  | float x => exact tells.2.1
  | _ => cases float

/-- The value of an operation tells about its leaves what the values of its operands tell about
theirs. -/
theorem Tells.arithmetic {op : Arithmetic} {left right : Expr} {first second value : Value}
    (tellsLeft : left.Tells first) (tellsRight : right.Tells second)
    (gives : op.Gives first second value) : (Expr.arithmetic op left right).Tells value := by
  cases gives with
  | null absent =>
    apply List.mem_append.mpr
    rcases absent with rfl | rfl
    · exact .inl tellsLeft
    · exact .inr tellsRight
  | int a b n => exact List.forall_mem_append.mpr ⟨tellsLeft, tellsRight⟩
  | float numberLeft numberRight either finite =>
    have numbers : (Expr.arithmetic op left right).OnlyNumbers := List.forall_mem_append.mpr
      ⟨tellsLeft.onlyNumbers numberLeft, tellsRight.onlyNumbers numberRight⟩
    -- The operand that made the result a floating point number has a leaf that is one.
    refine ⟨numbers, ?_, fun _ => finite⟩
    rcases either with float | float
    · obtain ⟨x, listed⟩ := tellsLeft.someFloat float
      exact ⟨x, List.mem_append.mpr (.inl listed)⟩
    · obtain ⟨x, listed⟩ := tellsRight.someFloat float
      exact ⟨x, List.mem_append.mpr (.inr listed)⟩
  | text a b adds =>
    obtain ⟨texts, onlyLeft, addsLeft, rfl⟩ := tellsLeft
    obtain ⟨texts', onlyRight, addsRight, rfl⟩ := tellsRight
    refine ⟨texts ++ texts', ?_, ⟨adds, addsLeft, addsRight⟩, String.join_append.symm⟩
    show left.leaves ++ right.leaves = _
    rw [onlyLeft, onlyRight, List.map_append]

/-- The opposite of a value tells about the leaves what the value does. -/
theorem Tells.negate {operand : Expr} {before value : Value} (tells : operand.Tells before)
    (negated : before.negated = .ok value) : (Expr.negate operand).Tells value := by
  cases before with
  | null =>
    cases negated
    exact tells
  | int n =>
    obtain ⟨m, rfl, _⟩ := Value.negated_int_eq_ok.mp negated
    exact tells
  | float x =>
    cases negated
    exact ⟨tells.1, tells.2.1, fun impossible => by cases impossible⟩
  | _ => contradiction

/-- A constant tells that it is the only leaf. -/
theorem tells_constant (value : Value) : (constant value).Tells value := by
  cases value with
  | null => exact List.mem_singleton_self _
  | int n =>
    intro leaf listed
    exact ⟨n, List.mem_singleton.mp listed⟩
  | float x =>
    refine ⟨?_, ⟨x, List.mem_singleton_self _⟩, fun impossible => by cases impossible⟩
    intro leaf listed
    exact .inr ⟨x, List.mem_singleton.mp listed⟩
  | text s =>
    have whole : s = String.join [s] := by
      rw [String.join_cons, String.join_nil, String.append_empty]
    exact ⟨[s], rfl, trivial, whole⟩
  | _ =>
    constructor
    · intro listed
      cases List.mem_singleton.mp listed
    · rintro (impossible | impossible) <;> cases impossible

/-- The value of an expression tells what its leaves are. -/
theorem tells_of_evaluate {expr : Expr} {value : Value} (evaluates : expr.evaluate = .ok value) :
    expr.Tells value := by
  induction expr generalizing value with
  | constant held =>
    cases evaluates
    exact tells_constant held
  | list items =>
    obtain ⟨values, _, same⟩ := bind_eq_ok.mp evaluates
    cases same
    constructor
    · intro listed
      cases List.mem_singleton.mp listed
    · rintro (impossible | impossible) <;> cases impossible
  | arithmetic op left right ihLeft ihRight =>
    obtain ⟨first, evaluatesLeft, evaluates⟩ := bind_eq_ok.mp evaluates
    obtain ⟨second, evaluatesRight, applies⟩ := bind_eq_ok.mp evaluates
    exact (ihLeft evaluatesLeft).arithmetic (ihRight evaluatesRight)
      (Arithmetic.gives_of_apply applies)
  | negate operand ih =>
    obtain ⟨before, evaluates, negated⟩ := bind_eq_ok.mp evaluates
    exact (ih evaluates).negate negated
  | convert inner ih | quote inner ih | lambda inner ih => exact ih evaluates
  | _ => contradiction

/-- The value of an operation is null exactly if some leaf is. -/
theorem Tells.null_iff {expr : Expr} {value : Value} (tells : expr.Tells value)
    (operates : expr.Operates) : value = .null ↔ .constant .null ∈ expr.leaves := by
  cases value with
  | null => exact iff_of_true rfl tells
  | int n => exact iff_of_false nofun (OnlyInts.onlyNumbers tells).present
  | float x => exact iff_of_false nofun tells.1.present
  | text s =>
    obtain ⟨texts, only, _⟩ := tells
    exact iff_of_false nofun only.present
  | _ => exact absurd operates tells.2

/-! ## Faults -/

/-- The expressions directly below an expression. -/
def children : Expr → List Expr
  | constant _ | field _ | row | source _ => []
  | not inner | negate inner | convert inner | quote inner | lambda inner => [inner]
  | compare _ left right | logical _ left right | arithmetic _ left right => [left, right]
  | membership column values => [column, values]
  | call _ target argument => [target, argument]
  | list items => items
  | projection members => members.map (·.expr)

/-- One expression is another or lies below it. -/
def Within (part whole : Expr) : Prop :=
  Relation.ReflTransGen (fun child parent => child ∈ parent.children) part whole

/-- The values of items are there only if each item has one. -/
theorem evaluates_of_mem {items : List Expr} {values : List Value}
    (evaluates : evaluateItems items = .ok values) {item : Expr} (listed : item ∈ items) :
    ∃ value, item.evaluate = .ok value := by
  induction items generalizing values with
  | nil => cases listed
  | cons first others ih =>
    obtain ⟨value, evaluatesFirst, evaluates⟩ := bind_eq_ok.mp evaluates
    obtain ⟨values', evaluatesOthers, _⟩ := bind_eq_ok.mp evaluates
    cases listed with
    | head => exact ⟨value, evaluatesFirst⟩
    | tail _ inside => exact ih evaluatesOthers inside

/-- An expression has a value only if everything directly below it has one. -/
theorem evaluates_of_child {part whole : Expr} (child : part ∈ whole.children) {value : Value}
    (evaluates : whole.evaluate = .ok value) : ∃ value, part.evaluate = .ok value := by
  cases whole with
  | constant => cases child
  | list items =>
    obtain ⟨values, evaluatesItems, _⟩ := bind_eq_ok.mp evaluates
    exact evaluates_of_mem evaluatesItems child
  | arithmetic op left right =>
    obtain ⟨first, evaluatesLeft, evaluates⟩ := bind_eq_ok.mp evaluates
    obtain ⟨second, evaluatesRight, _⟩ := bind_eq_ok.mp evaluates
    cases child with
    | head => exact ⟨first, evaluatesLeft⟩
    | tail _ inside =>
      rw [List.mem_singleton.mp inside]
      exact ⟨second, evaluatesRight⟩
  | negate operand =>
    obtain ⟨before, evaluates, _⟩ := bind_eq_ok.mp evaluates
    rw [List.mem_singleton.mp child]
    exact ⟨before, evaluates⟩
  | convert inner | quote inner | lambda inner =>
    rw [List.mem_singleton.mp child]
    exact ⟨value, evaluates⟩
  | _ => contradiction

/-- An expression has a value only if everything within it has one. -/
theorem Within.evaluates {part whole : Expr} (within : part.Within whole) {value : Value}
    (evaluates : whole.evaluate = .ok value) : ∃ value, part.evaluate = .ok value := by
  induction within generalizing value with
  | refl => exact ⟨value, evaluates⟩
  | tail _ child ih =>
    obtain ⟨value', evaluates'⟩ := evaluates_of_child child evaluates
    exact ih evaluates'

/-! ## Results -/

/-- The results that operations have besides null. -/
inductive Result where
  /-- An integer from integers. -/
  | integer
  /-- A floating point number from numbers. -/
  | number
  /-- A text from texts. -/
  | text

/-- The kind of the values of a result. -/
def Result.kind : Result → Value.Kind
  | integer => .int
  | number => .float
  | text => .text

/-- An expression comes to such a result, by its leaves and by its value. -/
def Yields (expr : Expr) (value : Value) : Result → Prop
  | .integer => expr.OnlyInts ∧ ∃ n, value = .int n
  | .number => expr.OnlyNumbers ∧ expr.SomeFloat ∧
      ∃ x, value = .float x ∧ (expr.bare.kind = .arithmetic → x.isFinite = true)
  | .text => ∃ texts, expr.OnlyTexts texts ∧ expr.Adds ∧ value = .text (String.join texts)

/-- The value of a result is of its kind. -/
theorem Yields.kind_eq {expr : Expr} {value : Value} {result : Result}
    (yields : expr.Yields value result) : value.kind = result.kind := by
  cases result with
  | integer =>
    obtain ⟨_, n, rfl⟩ := yields
    rfl
  | number =>
    obtain ⟨_, _, x, rfl, _⟩ := yields
    rfl
  | text =>
    obtain ⟨texts, _, _, rfl⟩ := yields
    rfl

/-- A value is of one result at most. -/
theorem Yields.unique {expr : Expr} {value : Value} {first second : Result}
    (yields : expr.Yields value first) (yields' : expr.Yields value second) : first = second := by
  have same : first.kind = second.kind := yields.kind_eq.symm.trans yields'.kind_eq
  cases first <;> cases second <;> first | rfl | cases same

/-- The value of an operation without null among its leaves is a result of them. -/
theorem Tells.exists_yields {expr : Expr} {value : Value} (tells : expr.Tells value)
    (operates : expr.Operates) (present : .constant .null ∉ expr.leaves) :
    ∃ result, expr.Yields value result := by
  cases value with
  | null => exact absurd tells present
  | int n => exact ⟨.integer, tells, n, rfl⟩
  | float x => exact ⟨.number, tells.1, tells.2.1, x, rfl, tells.2.2⟩
  | text s =>
    obtain ⟨texts, only, adds, rfl⟩ := tells
    exact ⟨.text, texts, only, adds, rfl⟩
  | _ => exact absurd operates tells.2

/-- **Leaves decide results.** The value of an operation, whatever its tree and its wrappers, is
null exactly if some leaf is; otherwise it is an integer from integers, a floating point number from
numbers that are not all integers, or the texts of the leaves joined by additions alone, and only
one of these. A fault anywhere within is a fault of the whole. -/
theorem evaluate_from_leaves {expr : Expr} (operates : expr.Operates) :
    (∀ value, expr.evaluate = .ok value →
      (value = .null ↔ .constant .null ∈ expr.leaves) ∧
      (.constant .null ∉ expr.leaves → ∃! result, expr.Yields value result)) ∧
    ∀ (part : Expr) (cause : Unsupported), part.Within expr → part.evaluate = .error cause →
      ∃ cause', expr.evaluate = .error cause' := by
  constructor
  · intro value evaluates
    have tells := tells_of_evaluate evaluates
    refine ⟨tells.null_iff operates, fun present => ?_⟩
    obtain ⟨result, yields⟩ := tells.exists_yields operates present
    exact ⟨result, yields, fun other yields' => yields'.unique yields⟩
  · intro part cause within fails
    cases evaluates : expr.evaluate with
    | error cause' => exact ⟨cause', rfl⟩
    | ok value =>
      obtain ⟨value', succeeds⟩ := within.evaluates evaluates
      rw [fails] at succeeds
      contradiction

/-- Texts are joined in order through wrappers, and null does not hide a division by zero. -/
theorem evaluate_from_leaves_texts :
    let text (s : String) := Expr.constant (.text s)
    let zero := Expr.constant (.int ⟨0, by decide, by decide⟩)
    let joined := Expr.quote (.arithmetic .add (text "A") (.convert
      (.arithmetic .add (text "da") (.lambda (text "ma")))))
    let hidden := Expr.arithmetic .mul (.constant .null) (.arithmetic .div zero zero)
    (joined.Operates ∧ joined.evaluate = .ok (.text "Adama") ∧
      ∃! result, joined.Yields (.text "Adama") result) ∧
    hidden.Operates ∧ ∃ cause, hidden.evaluate = .error cause := by
  intro text zero joined hidden
  have adds : joined.Operates := .inl rfl
  have multiplies : hidden.Operates := .inl rfl
  have evaluates : joined.evaluate = .ok (.text "Adama") := by rfl
  have present : .constant .null ∉ joined.leaves := by
    simp [joined, text, leaves]
  have divides : Within (.arithmetic .div zero zero) hidden :=
    .single (List.mem_cons_of_mem _ (List.mem_singleton_self _))
  exact ⟨⟨adds, evaluates, ((evaluate_from_leaves adds).1 _ evaluates).2 present⟩,
    multiplies, (evaluate_from_leaves multiplies).2 _ .divisionByZero divides rfl⟩

end Expr

end ColumnQuery
