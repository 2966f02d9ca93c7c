import ColumnQuery.Clause.Select

/-!
# Statements on a single line

`Select.singleLine` drops every line break of a statement, also those inside a name or a text
literal. `Select.oneLine` is the statement without the line breaks between its clauses and with
nothing else changed; the two are the same exactly for statements whose clauses hold no line break.
-/
namespace ColumnQuery

/-- A text without its line breaks. -/
def unbroken (text : String) : String := String.ofList (text.toList.filter (· != '\n'))

/-- Line breaks are dropped from texts in a row one by one. -/
theorem unbroken_append (first second : String) :
    unbroken (first ++ second) = unbroken first ++ unbroken second := by
  unfold unbroken
  rw [String.toList_append, List.filter_append, String.ofList_append]

/-- No text gets longer without its line breaks. -/
theorem length_unbroken_le (text : String) : (unbroken text).length ≤ text.length := by
  rw [← String.length_toList, ← String.length_toList, unbroken, String.toList_ofList]
  exact List.length_filter_le _ _

/-- A text keeps its length exactly if it holds no line break. -/
theorem length_unbroken_eq_iff {text : String} :
    (unbroken text).length = text.length ↔ '\n' ∉ text.toList := by
  rw [← String.length_toList, ← String.length_toList, unbroken, String.toList_ofList,
    List.length_filter_eq_length_iff]
  constructor
  · intro others member
    have other := others _ member
    contradiction
  · intro free c member
    have other : c ≠ '\n' := fun same => free (same ▸ member)
    simpa using other

/-- A text without line breaks is left as it is. -/
theorem unbroken_eq_self {text : String} (free : '\n' ∉ text.toList) : unbroken text = text := by
  have others : ∀ c ∈ text.toList, (c != '\n') = true := by
    intro c member
    have other : c ≠ '\n' := fun same => free (same ▸ member)
    simpa using other
  rw [unbroken, List.filter_eq_self.mpr others, String.ofList_toList]

namespace Select

/-- The statement on one line: its clauses as they are, without the line breaks between them. -/
def oneLine (select : Select) : String :=
  "SELECT " ++ select.fieldsClause ++ " FROM " ++ select.source ++
    select.predicate.elim "" (" WHERE " ++ ·)

/-- A single line holds the clauses without their line breaks. -/
theorem singleLine_eq (select : Select) :
    select.singleLine = "SELECT " ++ unbroken select.fieldsClause ++ " FROM " ++
      unbroken select.source ++ select.predicate.elim "" (" WHERE " ++ unbroken ·) := by
  have first : unbroken "SELECT " = "SELECT " := by decide
  have second : unbroken " \nFROM " = " FROM " := by decide
  have third : unbroken " \nWHERE " = " WHERE " := by decide
  have line : select.singleLine = unbroken select.text := rfl
  rw [line, text]
  cases select.predicate with
  | none =>
    have nothing : unbroken "" = "" := by decide
    simp only [unbroken_append, first, second, nothing, Option.elim]
  | some clause => simp only [unbroken_append, first, second, third, Option.elim]

/-- **A single line holds the clauses without their line breaks**, so it is the statement without
the line breaks between its clauses exactly if no clause holds a line break. -/
theorem singleLine_eq_oneLine_iff (select : Select) :
    select.singleLine = "SELECT " ++ unbroken select.fieldsClause ++ " FROM " ++
      unbroken select.source ++ select.predicate.elim "" (" WHERE " ++ unbroken ·) ∧
    (select.singleLine = select.oneLine ↔
      '\n' ∉ select.fieldsClause.toList ∧ '\n' ∉ select.source.toList ∧
        ∀ clause ∈ select.predicate, '\n' ∉ clause.toList) := by
  refine ⟨select.singleLine_eq, ?_, ?_⟩
  · intro same
    have lengths := congrArg String.length same
    rw [singleLine_eq, oneLine] at lengths
    -- No clause is longer than it was, so none may be shorter either.
    have fields := length_unbroken_le select.fieldsClause
    have source := length_unbroken_le select.source
    simp only [← length_unbroken_eq_iff]
    cases held : select.predicate with
    | none =>
      simp only [held, Option.elim, String.length_append] at lengths
      exact ⟨by omega, by omega, by simp⟩
    | some clause =>
      have condition := length_unbroken_le clause
      simp only [held, Option.elim, String.length_append] at lengths
      refine ⟨by omega, by omega, ?_⟩
      rintro other ⟨⟩
      omega
  · rintro ⟨fields, source, condition⟩
    rw [singleLine_eq, oneLine, unbroken_eq_self fields, unbroken_eq_self source]
    cases held : select.predicate with
    | none => rfl
    | some clause => rw [Option.elim, Option.elim, unbroken_eq_self (condition clause held)]

/-- A text literal with a line break loses it on a single line. -/
theorem singleLine_of_broken_literal :
    ∃ select, Expr.select (.call .filter (.source "Users") (.lambda
        (.compare .eq (.field "Name") (.constant (.text "a\nb"))))) = .ok select ∧
      select.singleLine = "SELECT * FROM Users WHERE Name = 'ab'" ∧
        select.oneLine = "SELECT * FROM Users WHERE Name = 'a\nb'" ∧
          select.singleLine ≠ select.oneLine := by
  exact ⟨⟨"Users", [], some "Name = 'a\nb'"⟩, by rfl, by decide, by decide, by decide⟩

end Select

end ColumnQuery
