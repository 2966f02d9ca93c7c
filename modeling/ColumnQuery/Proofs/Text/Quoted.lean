import ColumnQuery.Text.Literal

/-!
# Quoted text is read back

Writing every single quote twice and closing with one quote is undone by reading up to the first
quote that stands alone, whatever text follows; and nothing else than what would be written is read.
-/
namespace ColumnQuery.Text.Quoted

/-- A body is read up to its closing quote, unless a further quote follows that one. -/
theorem scanBody_double (content rest : List Char) (alone : ∀ tail, rest ≠ '\'' :: tail) :
    scanBody (double content ++ '\'' :: rest) = some (content, rest) := by
  induction content with
  | nil =>
    cases rest with
    | nil => rfl
    | cons c tail =>
      have other : c ≠ '\'' := fun same => alone tail (by rw [same])
      simp [double, scanBody, other]
  | cons c content ih =>
    by_cases quote : c = '\''
    · subst quote
      simp only [double, ↓reduceIte, List.cons_append, scanBody, ih, Option.map_some]
    · simp only [double, quote, ↓reduceIte, List.cons_append]
      rw [scanBody]
      · simp [quote, ih]
      · intro tail impossible
        exact absurd impossible quote

/-- A body that is read was written as the text found, and no further quote follows it. -/
theorem eq_of_scanBody {body content rest : List Char}
    (read : scanBody body = some (content, rest)) :
    body = double content ++ '\'' :: rest ∧ ∀ tail, rest ≠ '\'' :: tail := by
  fun_induction scanBody body generalizing content with
  | case1 => contradiction
  | case2 body ih =>
    obtain ⟨⟨text, tail⟩, inner, same⟩ := Option.map_eq_some_iff.mp read
    cases same
    obtain ⟨rfl, alone⟩ := ih inner
    exact ⟨by simp [double], alone⟩
  | case3 body single =>
    cases read
    refine ⟨rfl, ?_⟩
    intro tail same
    exact single tail rfl same
  | case4 c body single other ih =>
    obtain ⟨⟨text, tail⟩, inner, same⟩ := Option.map_eq_some_iff.mp read
    cases same
    obtain ⟨rfl, alone⟩ := ih inner
    exact ⟨by simp [double, other], alone⟩

end ColumnQuery.Text.Quoted
