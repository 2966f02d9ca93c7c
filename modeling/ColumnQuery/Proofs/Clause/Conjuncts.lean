import ColumnQuery.Proofs.Clause.InOrder

/-!
# Lookups go through conjuncts in order

A conjunction is compiled for an index by compiling its conjuncts from the left: the lookup has the
clauses of all of them in order, or the fault of the first that has one (`ScansInOrder`). So neither
the brackets of a conjunction nor its wrappers matter, and a lookup with further conditions has the
clauses of each condition compiled on its own.
-/
namespace ColumnQuery

/-- A lookup is the lookups of its parts one after another: it has the clauses of all of them in
order, or the fault of the first that does not compile on its own. -/
structure ScansInOrder (parts : List Expr) (startKey : Value) (limit : UInt32)
    (result : Except Unsupported IndexScan) : Prop where
  succeeds : ∀ scan, result = .ok scan ↔
    ∃ scans, parts.mapM (fun part => part.indexScan startKey limit) = .ok scans ∧
      ⟨startKey, limit, scans.flatMap (·.clauses)⟩ = scan
  fails : ∀ fault, result = .error fault ↔
    FailsFirst (fun part => part.indexScan startKey limit) parts fault

/-- The fault of a lookup is that of its first part that has one. -/
theorem ScansInOrder.faultOf?_eq {parts : List Expr} {startKey : Value} {limit : UInt32}
    {result : Except Unsupported IndexScan} (scans : ScansInOrder parts startKey limit result) :
    faultOf? result = faultAmong? (fun part => part.indexScan startKey limit) parts :=
  Option.ext fun fault =>
    faultOf?_eq_some.trans ((scans.fails fault).trans faultAmong?_eq_some.symm)

/-- Parts in order leave no choice of a lookup. -/
theorem ScansInOrder.unique {parts : List Expr} {startKey : Value} {limit : UInt32}
    {result result' : Except Unsupported IndexScan}
    (scans : ScansInOrder parts startKey limit result)
    (scans' : ScansInOrder parts startKey limit result') : result = result' := by
  cases result with
  | ok scan => exact ((scans'.succeeds scan).mpr ((scans.succeeds scan).mp rfl)).symm
  | error fault => exact ((scans'.fails fault).mpr ((scans.fails fault).mp rfl)).symm

namespace Expr

variable {startKey : Value} {limit : UInt32}

/-- The conjuncts of a predicate from the left, without their wrappers. -/
def conjuncts : Expr → List Expr
  | logical .and left right => left.conjuncts ++ right.conjuncts
  | convert inner => inner.conjuncts
  | quote inner => inner.conjuncts
  | lambda inner => inner.conjuncts
  | leaf => [leaf]

/-- A lookup keeps its start key and its limit. -/
theorem eq_of_indexScan {expr : Expr} {scan : IndexScan}
    (compiled : expr.indexScan startKey limit = .ok scan) :
    ⟨startKey, limit, scan.clauses⟩ = scan := by
  obtain ⟨clauses, _, rfl⟩ := indexScan_eq_ok.mp compiled
  rfl

/-- The lookup of a conjunction has the clauses of both sides in order. -/
theorem indexScan_and_eq_ok {left right : Expr} {scan : IndexScan} :
    (left.and right).indexScan startKey limit = .ok scan ↔
      ∃ first second, left.indexScan startKey limit = .ok first ∧
        right.indexScan startKey limit = .ok second ∧
          ⟨startKey, limit, first.clauses ++ second.clauses⟩ = scan := by
  simp only [Expr.and, indexScan_eq_ok, indexClauses_and_eq_ok]
  constructor
  · rintro ⟨_, ⟨first, second, compiled, compiled', rfl⟩, made⟩
    exact ⟨_, _, ⟨first, compiled, rfl⟩, ⟨second, compiled', rfl⟩, made⟩
  · rintro ⟨_, _, ⟨first, compiled, rfl⟩, ⟨second, compiled', rfl⟩, made⟩
    exact ⟨_, ⟨first, second, compiled, compiled', rfl⟩, made⟩

/-- The lookup of a conjunction has the fault of its left side, or else of its right side. -/
theorem faultOf?_indexScan_and (left right : Expr) :
    faultOf? ((left.and right).indexScan startKey limit) =
      (faultOf? (left.indexScan startKey limit)).or
        (faultOf? (right.indexScan startKey limit)) := by
  simp only [Expr.and, indexScan, faultOf?_make, indexClauses, faultOf?_combine]

/-- A lookup is that of its only part. -/
theorem scansInOrder_self (part : Expr) (startKey : Value) (limit : UInt32) :
    ScansInOrder [part] startKey limit (part.indexScan startKey limit) where
  succeeds scan := by
    constructor
    · intro compiled
      refine ⟨[scan], mapM_singleton_eq_ok.mpr ⟨scan, compiled, rfl⟩, ?_⟩
      rw [List.flatMap_singleton]
      exact eq_of_indexScan compiled
    · rintro ⟨_, mapped, rfl⟩
      obtain ⟨alone, compiled, rfl⟩ := mapM_singleton_eq_ok.mp mapped
      rw [List.flatMap_singleton, eq_of_indexScan compiled]
      exact compiled
  fails fault := by rw [← faultAmong?_eq_some, faultAmong?_singleton, faultOf?_eq_some]

/-- The lookup of a conjunction goes on with the parts of its right side. -/
theorem scansInOrder_and {parts others : List Expr} {left right : Expr}
    (first : ScansInOrder parts startKey limit (left.indexScan startKey limit))
    (second : ScansInOrder others startKey limit (right.indexScan startKey limit)) :
    ScansInOrder (parts ++ others) startKey limit
      ((left.and right).indexScan startKey limit) where
  succeeds scan := by
    simp only [indexScan_and_eq_ok, first.succeeds, second.succeeds, mapM_append_eq_ok]
    constructor
    · rintro ⟨_, _, ⟨before, mapped, rfl⟩, ⟨behind, mapped', rfl⟩, made⟩
      refine ⟨_, ⟨before, behind, mapped, mapped', rfl⟩, ?_⟩
      rw [List.flatMap_append]
      exact made
    · rintro ⟨_, ⟨before, behind, mapped, mapped', rfl⟩, made⟩
      rw [List.flatMap_append] at made
      exact ⟨_, _, ⟨before, mapped, rfl⟩, ⟨behind, mapped', rfl⟩, made⟩
  fails fault := by
    rw [← faultOf?_eq_some, faultOf?_indexScan_and, first.faultOf?_eq, second.faultOf?_eq,
      ← faultAmong?_append, faultAmong?_eq_some]

/-- A conjunction is looked up by its conjuncts in order. -/
theorem scansInOrder_conjuncts (expr : Expr) :
    ScansInOrder expr.conjuncts startKey limit (expr.indexScan startKey limit) := by
  induction expr with
  | logical op left right ihLeft ihRight =>
    cases op with
    | and => exact scansInOrder_and ihLeft ihRight
    | or => exact scansInOrder_self _ _ _
  | convert inner ih | quote inner ih | lambda inner ih => exact ih
  | _ => exact scansInOrder_self _ _ _

end Expr

/-- A lookup with further conditions goes through all of them in order. -/
theorem IndexQuery.scansInOrder_conditions (startKey : Value) (limit : UInt32) (first : Expr)
    (others : List Expr) :
    ScansInOrder (first :: others) startKey limit
      (others.foldl IndexQuery.and ⟨startKey, limit, first⟩).compile := by
  have kept (conditions : List Expr) :
      conditions.foldl IndexQuery.and ⟨startKey, limit, first⟩ =
        ⟨startKey, limit, conditions.foldl Expr.and first⟩ := by
    induction conditions using List.reverseRecOn with
    | nil => rfl
    | append_singleton conditions last ih =>
      simp only [List.foldl_append, List.foldl_cons, List.foldl_nil, ih, IndexQuery.and]
  rw [kept, compile]
  induction others using List.reverseRecOn with
  | nil => exact Expr.scansInOrder_self first startKey limit
  | append_singleton others last ih =>
    rw [List.foldl_append, ← List.cons_append]
    exact Expr.scansInOrder_and ih (Expr.scansInOrder_self last startKey limit)

/-- **A lookup depends only on the sequence of its conjuncts.** It has the clauses of each of them
in order if all compile on their own, and otherwise the fault of the first that does not. Predicates
with the same conjuncts have the same lookup, whatever brackets and wrappers put them together, and
a query with further conditions has the clauses of each condition compiled on its own, or the first
fault among them. -/
theorem Expr.indexScan_in_order (expr : Expr) (startKey : Value) (limit : UInt32) :
    ScansInOrder expr.conjuncts startKey limit (expr.indexScan startKey limit) ∧
    (∀ other : Expr, other.conjuncts = expr.conjuncts →
      other.indexScan startKey limit = expr.indexScan startKey limit) ∧
    ∀ conditions : List Expr, ScansInOrder (expr :: conditions) startKey limit
      (conditions.foldl IndexQuery.and ⟨startKey, limit, expr⟩).compile := by
  have scans (other : Expr) :
      ScansInOrder other.conjuncts startKey limit (other.indexScan startKey limit) :=
    other.scansInOrder_conjuncts
  refine ⟨scans expr, ?_, IndexQuery.scansInOrder_conditions startKey limit expr⟩
  intro other same
  have scans' := scans other
  rw [same] at scans'
  exact scans'.unique (scans expr)

/-- Neither brackets nor wrappers tell two lookups apart, a query goes on with the clauses of its
further condition, and of two faults the first is told. -/
theorem Expr.indexScan_in_order_regrouped :
    let first := compareField "a" .eq (.text "x")
    let second := compareField "b" .ge (.bool true)
    let third := compareField "c" .ne .null
    let left := (first.and second).and third
    let right := quote (first.and (convert (second.and (lambda third))))
    (right.conjuncts = left.conjuncts ∧
      right.indexScan .null 5 = left.indexScan .null 5 ∧
      left.indexScan .null 5 = .error .inequality) ∧
    ((IndexQuery.mk .null 5 first).and second).compile =
      .ok ⟨.null, 5, [⟨"a", .eq, .text "x"⟩, ⟨"b", .ge, .bool true⟩]⟩ := by
  intro first second third left right
  have regrouped := (indexScan_in_order left .null 5).2.1 right rfl
  have earlier : ∀ part ∈ [first, second], ∃ scan, part.indexScan .null 5 = .ok scan :=
    List.forall_mem_cons.mpr ⟨⟨_, rfl⟩, List.forall_mem_singleton.mpr ⟨_, rfl⟩⟩
  have fails := ((indexScan_in_order left .null 5).1.fails .inequality).mpr
    ⟨[first, second], third, [], rfl, rfl, earlier⟩
  have goesOn := (indexScan_in_order first .null 5).2.2 [second]
  exact ⟨⟨rfl, regrouped, fails⟩, (goesOn.succeeds _).mpr ⟨_, rfl, rfl⟩⟩

end ColumnQuery
