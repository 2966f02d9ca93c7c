import ColumnQuery.Clause.Index
import ColumnQuery.Clause.Select

/-!
# When clauses compile

A compiler succeeds exactly when each of its parts does; here each constructor that can succeed has
one law that says what its parts came to. Wrappers need none, since a wrapped expression compiles by
definition as what it wraps.
-/
namespace ColumnQuery

/-- Two steps in a row succeed exactly when both do. -/
theorem bind_eq_ok {ε α β : Type} {first : Except ε α} {next : α → Except ε β} {result : β} :
    (first >>= next) = .ok result ↔ ∃ value, first = .ok value ∧ next value = .ok result := by
  cases first with
  | ok value =>
    constructor
    · intro rest
      exact ⟨value, rfl, rest⟩
    · rintro ⟨_, same, rest⟩
      cases same
      exact rest
  | error fault =>
    constructor
    · intro impossible
      cases impossible
    · rintro ⟨_, impossible, _⟩
      cases impossible

/-- Two steps in a row fail exactly when one of them does. -/
theorem bind_eq_error {ε α β : Type} {first : Except ε α} {next : α → Except ε β} {fault : ε} :
    (first >>= next) = .error fault ↔
      first = .error fault ∨ ∃ value, first = .ok value ∧ next value = .error fault := by
  cases first with
  | ok value =>
    constructor
    · intro fails
      exact .inr ⟨value, rfl, fails⟩
    · rintro (impossible | ⟨_, same, fails⟩)
      · cases impossible
      · cases same
        exact fails
  | error cause =>
    constructor
    · intro fails
      cases fails
      exact .inl rfl
    · rintro (fails | ⟨_, impossible, _⟩)
      · cases fails
        rfl
      · cases impossible

/-- Only equality and inequality with null have words of their own. -/
theorem Comparison.clause_of_symbol {op : Comparison} {field : String} {value : Value}
    (symbolic : value = .null → op ≠ .eq ∧ op ≠ .ne) :
    op.clause field value = field ++ " " ++ op.symbol ++ " " ++ value.literal := by
  cases value with
  | null => cases op <;> first | rfl | simp at symbolic
  | _ => cases op <;> rfl

namespace Expr

/-- A comparison is a clause of the name of its left side and the value of its right side. -/
theorem predicate_compare_eq_ok {op : Comparison} {left right : Expr} {text : String} :
    (compare op left right).predicate = .ok text ↔
      ∃ field value, left.fieldName = .ok field ∧ right.evaluate = .ok value ∧
        op.clause field value = text := by
  simp only [predicate, bind_eq_ok, Except.ok.injEq]
  constructor
  · rintro ⟨field, named, value, evaluated, made⟩
    exact ⟨field, value, named, evaluated, made⟩
  · rintro ⟨field, value, named, evaluated, made⟩
    exact ⟨field, named, value, evaluated, made⟩

/-- Two predicates are joined in brackets. -/
theorem predicate_logical_eq_ok {op : Connective} {left right : Expr} {text : String} :
    (logical op left right).predicate = .ok text ↔
      ∃ first second, left.predicate = .ok first ∧ right.predicate = .ok second ∧
        "(" ++ first ++ " " ++ op.keyword ++ " " ++ second ++ ")" = text := by
  simp only [predicate, bind_eq_ok, Except.ok.injEq]
  constructor
  · rintro ⟨first, compiled, second, compiled', made⟩
    exact ⟨first, second, compiled, compiled', made⟩
  · rintro ⟨first, second, compiled, compiled', made⟩
    exact ⟨first, compiled, second, compiled', made⟩

/-- A predicate is denied in brackets. -/
theorem predicate_not_eq_ok {operand : Expr} {text : String} :
    (not operand).predicate = .ok text ↔
      ∃ inner, operand.predicate = .ok inner ∧ "NOT (" ++ inner ++ ")" = text := by
  simp only [predicate, bind_eq_ok, Except.ok.injEq]

/-- The items of a value are there exactly if it is a list. -/
theorem items_eq_ok {value : Value} {items : List Value} :
    value.items = .ok items ↔ value = .list items := by
  cases value <;> simp [Value.items]

/-- A membership is a clause of the name of its field and the values of its list. -/
theorem predicate_membership_eq_ok {column values : Expr} {text : String} :
    (membership column values).predicate = .ok text ↔
      ∃ field items, column.fieldName = .ok field ∧ values.evaluate = .ok (.list items) ∧
        membershipClause field items = text := by
  simp only [predicate, bind_eq_ok, Except.ok.injEq, items_eq_ok]
  constructor
  · rintro ⟨field, named, _, evaluated, items, rfl, made⟩
    exact ⟨field, items, named, evaluated, made⟩
  · rintro ⟨field, items, named, evaluated, made⟩
    exact ⟨field, named, _, evaluated, items, rfl, made⟩

/-- A comparison is one clause of an index if it has a relation and a value. -/
theorem indexClauses_compare_eq_ok {op : Comparison} {left right : Expr}
    {clauses : List IndexClause} :
    (compare op left right).indexClauses = .ok clauses ↔
      ∃ relation field value, Relation.ofComparison op = .ok relation ∧
        left.fieldName = .ok field ∧ right.evaluate = .ok value ∧ value ≠ .null ∧
          [⟨field, relation, value⟩] = clauses := by
  have present (value : Value) : value.isNull = true ↔ value = .null := by
    cases value <;> simp [Value.isNull]
  simp only [indexClauses, bind_eq_ok]
  constructor
  · rintro ⟨relation, related, field, named, value, evaluated, made⟩
    split at made
    · cases made
    · rename_i there
      cases made
      exact ⟨relation, field, value, related, named, evaluated, mt (present value).mpr there, rfl⟩
  · rintro ⟨relation, field, value, related, named, evaluated, there, made⟩
    refine ⟨relation, related, field, named, value, evaluated, ?_⟩
    rw [if_neg (mt (present value).mp there), made]

/-- The clauses of a conjunction are those of its sides in order. -/
theorem indexClauses_and_eq_ok {left right : Expr} {clauses : List IndexClause} :
    (logical .and left right).indexClauses = .ok clauses ↔
      ∃ first second, left.indexClauses = .ok first ∧ right.indexClauses = .ok second ∧
        first ++ second = clauses := by
  simp only [indexClauses, bind_eq_ok, Except.ok.injEq]
  constructor
  · rintro ⟨first, compiled, second, compiled', made⟩
    exact ⟨first, second, compiled, compiled', made⟩
  · rintro ⟨first, second, compiled, compiled', made⟩
    exact ⟨first, compiled, second, compiled', made⟩

/-- A lookup is compiled exactly if its clauses are. -/
theorem indexScan_eq_ok {expr : Expr} {startKey : Value} {limit : UInt32} {scan : IndexScan} :
    expr.indexScan startKey limit = .ok scan ↔
      ∃ clauses, expr.indexClauses = .ok clauses ∧ ⟨startKey, limit, clauses⟩ = scan := by
  simp only [indexScan, bind_eq_ok, Except.ok.injEq]

end Expr

end ColumnQuery
