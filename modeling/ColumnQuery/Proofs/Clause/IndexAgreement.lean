import Mathlib.Data.List.Forall2
import ColumnQuery.Proofs.Clause.Compile

/-!
# Index lookups and clause texts agree

The comparisons of a conjunction can be compiled to the text of a clause and to the typed clauses of
an index. `Expr.Indexable` says what an index can answer beyond what a clause can say, and
`Expr.joinAlong` puts texts in the place of the comparisons of a conjunction: written as
comparisons, the clauses of an index make up the clause text again.
-/
namespace ColumnQuery

/-- The comparison that a relation stands for. -/
def Relation.comparison : Relation → Comparison
  | eq => .eq
  | gt => .gt
  | ge => .ge
  | lt => .lt
  | le => .le

/-- A relation is found for a comparison exactly if it stands for it. -/
theorem Relation.ofComparison_eq_ok {op : Comparison} {relation : Relation} :
    Relation.ofComparison op = .ok relation ↔ relation.comparison = op := by
  cases op <;> cases relation <;> simp [Relation.ofComparison, Relation.comparison]

/-- Every comparison but inequality has a relation. -/
theorem Relation.exists_ofComparison {op : Comparison} (relational : op ≠ .ne) :
    ∃ relation, Relation.ofComparison op = .ok relation := by
  cases op <;> first | exact ⟨_, rfl⟩ | contradiction

/-- An index clause written as a comparison. -/
def IndexClause.criterion (clause : IndexClause) : String :=
  clause.field ++ " " ++ clause.relation.comparison.symbol ++ " " ++ clause.value.literal

namespace Expr

/-- What an index can answer: inside any wrappers, in the place of predicates, only conjunctions and
comparisons, none of them for inequality and none with a value of null. -/
inductive Indexable : Expr → Prop where
  | compare {op : Comparison} {left right : Expr} (relational : op ≠ .ne)
      (present : right.evaluate ≠ .ok .null) : Indexable (compare op left right)
  | and {left right : Expr} (first : Indexable left) (second : Indexable right) :
      Indexable (logical .and left right)
  | convert {inner : Expr} (inside : Indexable inner) : Indexable (convert inner)
  | quote {inner : Expr} (inside : Indexable inner) : Indexable (quote inner)
  | lambda {inner : Expr} (inside : Indexable inner) : Indexable (lambda inner)

/-- The comparisons of a conjunction from the left, with their operands. -/
def comparisons : Expr → List (Comparison × Expr × Expr)
  | compare op left right => [(op, left, right)]
  | logical _ left right => comparisons left ++ comparisons right
  | convert inner => comparisons inner
  | quote inner => comparisons inner
  | lambda inner => comparisons inner
  | _ => []

/-- Texts joined in the place of the comparisons of a conjunction, and the texts left over. -/
def joinAlong : Expr → List String → String × List String
  | logical _ left right, texts =>
    let first := joinAlong left texts
    let second := joinAlong right first.2
    ("(" ++ first.1 ++ " AND " ++ second.1 ++ ")", second.2)
  | convert inner, texts => joinAlong inner texts
  | quote inner, texts => joinAlong inner texts
  | lambda inner, texts => joinAlong inner texts
  | _, texts => (texts.headD "", texts.tail)

end Expr

/-- An index clause is what a comparison compiles to. -/
def IndexClause.Answers (clause : IndexClause) (comparison : Comparison × Expr × Expr) : Prop :=
  clause.relation.comparison = comparison.1 ∧ comparison.2.1.fieldName = .ok clause.field ∧
    comparison.2.2.evaluate = .ok clause.value

/-- What compiles to index clauses is indexable and compiles to a clause text. -/
theorem Expr.indexable_of_indexClauses {expr : Expr} {clauses : List IndexClause}
    (compiled : expr.indexClauses = .ok clauses) :
    expr.Indexable ∧ ∃ text, expr.predicate = .ok text := by
  fun_induction Expr.indexClauses expr generalizing clauses with
  | case1 left right ihLeft ihRight =>
    obtain ⟨first, second, compiledLeft, compiledRight, _⟩ := indexClauses_and_eq_ok.mp compiled
    obtain ⟨indexable, text, written⟩ := ihLeft compiledLeft
    obtain ⟨indexable', text', written'⟩ := ihRight compiledRight
    exact ⟨.and indexable indexable', _,
      predicate_logical_eq_ok.mpr ⟨text, text', written, written', rfl⟩⟩
  | case2 op left right =>
    obtain ⟨relation, field, value, related, named, evaluated, present, _⟩ :=
      indexClauses_compare_eq_ok.mp compiled
    refine ⟨.compare ?_ ?_, _, predicate_compare_eq_ok.mpr ⟨field, value, named, evaluated, rfl⟩⟩
    · rintro rfl
      cases related
    · rw [evaluated]
      intro same
      cases same
      contradiction
  | case3 => cases compiled
  | case4 inner ih =>
    obtain ⟨indexable, written⟩ := ih compiled
    exact ⟨.convert indexable, written⟩
  | case5 inner ih =>
    obtain ⟨indexable, written⟩ := ih compiled
    exact ⟨.quote indexable, written⟩
  | case6 inner ih =>
    obtain ⟨indexable, written⟩ := ih compiled
    exact ⟨.lambda indexable, written⟩
  | case7 => cases compiled

/-- What is indexable and compiles to a clause text compiles to index clauses, one for each
comparison from the left, which make up the text. -/
theorem Expr.Indexable.indexClauses {expr : Expr} {text : String} (indexable : expr.Indexable)
    (written : expr.predicate = .ok text) :
    ∃ clauses, expr.indexClauses = .ok clauses ∧
      List.Forall₂ IndexClause.Answers clauses expr.comparisons ∧
        ∀ more, expr.joinAlong (clauses.map IndexClause.criterion ++ more) = (text, more) := by
  induction indexable generalizing text with
  | @compare op left right relational present =>
    obtain ⟨field, value, named, evaluated, rfl⟩ := predicate_compare_eq_ok.mp written
    obtain ⟨relation, related⟩ := Relation.exists_ofComparison relational
    have there : value ≠ .null := by
      rintro rfl
      exact present evaluated
    have stands := Relation.ofComparison_eq_ok.mp related
    refine ⟨[⟨field, relation, value⟩], indexClauses_compare_eq_ok.mpr
      ⟨relation, field, value, related, named, evaluated, there, rfl⟩, ?_, ?_⟩
    · exact .cons ⟨stands, named, evaluated⟩ .nil
    · intro more
      simp only [joinAlong, List.map_cons, List.map_nil, IndexClause.criterion, stands,
        Comparison.clause_of_symbol fun null => absurd null there, List.cons_append,
        List.nil_append, List.headD_cons, List.tail_cons]
  | @and left right first second ihFirst ihSecond =>
    obtain ⟨textLeft, textRight, writtenLeft, writtenRight, rfl⟩ :=
      predicate_logical_eq_ok.mp written
    obtain ⟨clauses, compiled, answers, joined⟩ := ihFirst writtenLeft
    obtain ⟨clauses', compiled', answers', joined'⟩ := ihSecond writtenRight
    refine ⟨clauses ++ clauses', indexClauses_and_eq_ok.mpr ⟨_, _, compiled, compiled', rfl⟩,
      List.rel_append answers answers', fun more => ?_⟩
    simp only [joinAlong, List.map_append, List.append_assoc, joined, joined', Connective.keyword]
    have spaced : " AND " = " " ++ "AND" ++ " " := by decide
    simp only [spaced, String.append_assoc]
  | convert inside ih => exact ih written
  | quote inside ih => exact ih written
  | lambda inside ih => exact ih written

/-- **A conjunction compiles for an index exactly if it compiles to a clause text and an index can
answer it.** The lookup keeps its start key and its limit and has one clause for each comparison in
order, and its clauses alone make up the clause text again. -/
theorem Expr.indexScan_agrees (expr : Expr) (startKey : Value) (limit : UInt32) :
    ((∃ scan, expr.indexScan startKey limit = .ok scan) ↔
      (∃ text, expr.predicate = .ok text) ∧ expr.Indexable) ∧
    ∀ scan text, expr.indexScan startKey limit = .ok scan → expr.predicate = .ok text →
      scan.startKey = startKey ∧ scan.limit = limit ∧
        List.Forall₂ IndexClause.Answers scan.clauses expr.comparisons ∧
          expr.joinAlong (scan.clauses.map IndexClause.criterion) = (text, []) := by
  refine ⟨⟨?_, ?_⟩, ?_⟩
  · rintro ⟨scan, compiled⟩
    obtain ⟨clauses, collected, _⟩ := indexScan_eq_ok.mp compiled
    obtain ⟨indexable, written⟩ := indexable_of_indexClauses collected
    exact ⟨written, indexable⟩
  · rintro ⟨⟨text, written⟩, indexable⟩
    obtain ⟨clauses, collected, _⟩ := indexable.indexClauses written
    exact ⟨_, indexScan_eq_ok.mpr ⟨clauses, collected, rfl⟩⟩
  · intro scan text compiled written
    obtain ⟨clauses, collected, rfl⟩ := indexScan_eq_ok.mp compiled
    obtain ⟨indexable, _⟩ := indexable_of_indexClauses collected
    obtain ⟨clauses', collected', answers, joined⟩ := indexable.indexClauses written
    rw [collected] at collected'
    cases collected'
    have whole := joined []
    rw [List.append_nil] at whole
    exact ⟨rfl, rfl, answers, whole⟩

end ColumnQuery
