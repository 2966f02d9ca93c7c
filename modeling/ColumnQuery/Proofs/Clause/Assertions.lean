import ColumnQuery.Proofs.Clause.InOrder

/-!
# Assertions decide whether a predicate compiles

Connectives and denials put assertions together: comparisons, memberships, and whatever else stands
where a predicate is expected. They add no fault of their own and hide none, so a predicate fails
with the fault of its first assertion that does, whatever stands above it.
-/
namespace ColumnQuery.Expr

/-- The assertions of a predicate from the left, without their wrappers: what is reached through
connectives and denials alone. -/
def assertions : Expr → List Expr
  | logical _ left right => left.assertions ++ right.assertions
  | not operand => operand.assertions
  | convert inner => inner.assertions
  | quote inner => inner.assertions
  | lambda inner => inner.assertions
  | leaf => [leaf]

/-- An expression is an assertion, sound or not, where a predicate is expected. -/
def IsAssertion : Expr → Prop
  | logical .. | not _ | convert _ | quote _ | lambda _ => False
  | _ => True

/-- A sound assertion compares a field with a value or looks for it in a list of values. -/
def Asserts : Expr → Prop
  | compare _ left right => (∃ name, left.bare = field name) ∧ ∃ value, right.evaluate = .ok value
  | membership column values =>
    (∃ name, column.bare = field name) ∧ ∃ items, values.evaluate = .ok (.list items)
  | _ => False

/-- What is found by taking connectives, denials and wrappers apart is none of them. -/
theorem isAssertion_of_mem {expr leaf : Expr} (listed : leaf ∈ expr.assertions) :
    leaf.IsAssertion := by
  induction expr with
  | logical op left right ihLeft ihRight =>
    rcases List.mem_append.mp listed with inLeft | inRight
    · exact ihLeft inLeft
    · exact ihRight inRight
  | not operand ih | convert operand ih | quote operand ih | lambda operand ih => exact ih listed
  | _ =>
    rw [List.mem_singleton.mp listed]
    trivial

/-- An expression names a field exactly if it is one inside its wrappers. -/
theorem fieldName_eq_ok {expr : Expr} {name : String} :
    expr.fieldName = .ok name ↔ expr.bare = field name := by
  induction expr with
  | field other => simp [fieldName, bare]
  | convert inner ih | quote inner ih | lambda inner ih => exact ih
  | _ => simp [fieldName, bare]

/-- An assertion compiles exactly if it is sound. -/
theorem IsAssertion.compiles_iff {leaf : Expr} (assertion : leaf.IsAssertion) :
    (∃ text, leaf.predicate = .ok text) ↔ leaf.Asserts := by
  cases leaf with
  | compare op left right =>
    simp only [predicate_compare_eq_ok, fieldName_eq_ok, Asserts]
    constructor
    · rintro ⟨_, name, value, named, evaluated, _⟩
      exact ⟨⟨name, named⟩, value, evaluated⟩
    · rintro ⟨⟨name, named⟩, value, evaluated⟩
      exact ⟨_, name, value, named, evaluated, rfl⟩
  | membership column values =>
    simp only [predicate_membership_eq_ok, fieldName_eq_ok, Asserts]
    constructor
    · rintro ⟨_, name, items, named, evaluated, _⟩
      exact ⟨⟨name, named⟩, items, evaluated⟩
    · rintro ⟨⟨name, named⟩, items, evaluated⟩
      exact ⟨_, name, items, named, evaluated, rfl⟩
  | logical | not | convert | quote | lambda => exact absurd assertion not_false
  | _ => simp [predicate, Asserts]

/-- Nothing but comparisons and memberships compiles, and the fault tells the kind. -/
theorem IsAssertion.predicate_of_kind {leaf : Expr} (assertion : leaf.IsAssertion)
    (noComparison : leaf.kind ≠ .compare) (noMembership : leaf.kind ≠ .membership) :
    leaf.predicate = .error (.expression leaf.kind) := by
  cases leaf with
  | compare => exact absurd rfl noComparison
  | membership => exact absurd rfl noMembership
  | logical | not | convert | quote | lambda => exact absurd assertion not_false
  | _ => rfl

/-- A predicate has the fault of its first assertion that has one. -/
theorem faultOf?_predicate (expr : Expr) :
    faultOf? expr.predicate = faultAmong? predicate expr.assertions := by
  induction expr with
  | logical op left right ihLeft ihRight =>
    rw [assertions, faultAmong?_append, ← ihLeft, ← ihRight]
    exact faultOf?_combine _ _ _
  | not operand ih =>
    rw [assertions, ← ih]
    exact faultOf?_make _ _
  | convert inner ih | quote inner ih | lambda inner ih => exact ih
  | _ => exact (faultAmong?_singleton _ _).symm

/-- **Assertions alone decide whether a predicate compiles.** It does exactly if all of them are
sound; otherwise it fails as the first of them does that does not compile on its own. What is no
comparison and no membership fails with its kind. Predicates with the same assertions compile or
fail alike, whatever connectives and denials stand above them. -/
theorem predicate_of_assertions (expr : Expr) :
    ((∃ text, expr.predicate = .ok text) ↔ ∀ leaf ∈ expr.assertions, leaf.Asserts) ∧
    (∀ fault, expr.predicate = .error fault ↔ FailsFirst predicate expr.assertions fault) ∧
    (∀ leaf ∈ expr.assertions, leaf.kind ≠ .compare → leaf.kind ≠ .membership →
      leaf.predicate = .error (.expression leaf.kind)) ∧
    ∀ other : Expr, other.assertions = expr.assertions →
      faultOf? other.predicate = faultOf? expr.predicate := by
  refine ⟨?_, ?_, ?_, ?_⟩
  · have compiles : (∃ text, expr.predicate = .ok text) ↔
        ∀ leaf ∈ expr.assertions, ∃ text, leaf.predicate = .ok text := by
      rw [← faultOf?_eq_none, faultOf?_predicate, faultAmong?_eq_none]
    rw [compiles]
    exact forall₂_congr fun leaf listed => (isAssertion_of_mem listed).compiles_iff
  · intro fault
    rw [← faultOf?_eq_some, faultOf?_predicate, faultAmong?_eq_some]
  · intro leaf listed
    exact (isAssertion_of_mem listed).predicate_of_kind
  · intro other same
    rw [faultOf?_predicate, faultOf?_predicate, same]

/-- A sum in the place of a predicate is told behind wrappers, a denial and two connectives, and
just so where they stand otherwise. -/
theorem predicate_of_assertions_sum :
    let sound := compareField "a" .eq (.text "x")
    let sum := arithmetic .add (constant .null) (field "b")
    let deep := sound.and (quote (not (sound.or (convert sum))))
    let flat := (sound.or sound).or (not (not sum))
    (sum ∈ deep.assertions ∧ sum.predicate = .error (.expression .arithmetic)) ∧
    deep.predicate = .error (.expression .arithmetic) ∧
    flat.assertions = deep.assertions ∧ faultOf? flat.predicate = faultOf? deep.predicate := by
  intro sound sum deep flat
  obtain ⟨_, fails, kinds, alike⟩ := predicate_of_assertions deep
  have listed : sum ∈ deep.assertions :=
    List.mem_cons_of_mem _ (List.mem_cons_of_mem _ (List.mem_singleton_self _))
  have refused := kinds sum listed nofun nofun
  have compiles : ∃ text, sound.predicate = .ok text := ⟨_, rfl⟩
  have earlier : ∀ leaf ∈ [sound, sound], ∃ text, leaf.predicate = .ok text :=
    List.forall_mem_cons.mpr ⟨compiles, List.forall_mem_singleton.mpr compiles⟩
  have first := (fails _).mpr ⟨[sound, sound], sum, [], rfl, refused, earlier⟩
  exact ⟨⟨listed, refused⟩, first, rfl, alike flat rfl⟩

end ColumnQuery.Expr
