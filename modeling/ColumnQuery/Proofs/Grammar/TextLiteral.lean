import ColumnQuery.Proofs.Grammar.Token

/-!
# The extent of a text literal

Inside a text literal two quotes stand for one, so the quotes of a run are taken in pairs and one is
left over exactly if the run is odd. The literal ends at the first quote that is left over
(`Text.Quoted.Closes`), whatever precedes it and whatever follows it. `textLiteral_exact` says for
every text what the reader makes of it: the content of the literal in front of it, a halt at its
opening quote where no quote closes it, or a miss.
-/
namespace ColumnQuery

namespace Text.Quoted

/-! ## Closing quotes -/

/-- Somewhere in a text stands an odd run of quotes, with no further quote on either side of it. -/
def Closes (body : List Char) : Prop :=
  ∃ before pairs after, body = before ++ (List.replicate (2 * pairs + 1) '\'' ++ after) ∧
    before.getLast? ≠ some '\'' ∧ after.head? ≠ some '\''

/-- The empty text has no quote to close with. -/
theorem not_closes_nil : ¬ Closes [] := by
  rintro ⟨before, pairs, after, written, _⟩
  have noRun := (List.append_eq_nil_iff.mp written.symm).2
  simp [List.replicate_succ] at noRun

/-- A quote that no other quote follows closes. -/
theorem closes_single {rest : List Char} (alone : rest.head? ≠ some '\'') :
    Closes ('\'' :: rest) :=
  ⟨[], 0, rest, rfl, by simp, alone⟩

/-- Other characters in front leave a text closed or open. -/
theorem closes_cons {c : Char} (other : c ≠ '\'') (rest : List Char) :
    Closes (c :: rest) ↔ Closes rest := by
  constructor
  · rintro ⟨before, pairs, after, written, apart, alone⟩
    cases before with
    | nil =>
      rw [List.nil_append, List.replicate_succ, List.cons_append] at written
      exact absurd (List.cons.inj written).1 other
    | cons d before =>
      obtain ⟨_, written⟩ := List.cons.inj written
      refine ⟨before, pairs, after, written, ?_, alone⟩
      intro last
      simp [List.getLast?_cons, last] at apart
  · rintro ⟨before, pairs, after, rfl, apart, alone⟩
    refine ⟨c :: before, pairs, after, rfl, ?_, alone⟩
    cases before with
    | nil => simpa using other
    | cons d before => simpa [List.getLast?_cons] using apart

/-- A pair of quotes in front leaves a text closed or open. -/
theorem closes_pair (rest : List Char) : Closes ('\'' :: '\'' :: rest) ↔ Closes rest := by
  constructor
  · rintro ⟨before, pairs, after, written, apart, alone⟩
    match before with
    | [] =>
      -- The pair begins the run, which goes on after it: a single quote would not be alone.
      cases pairs with
      | zero =>
        have next : after = '\'' :: rest := (List.cons.inj written).2.symm
        exact absurd (next ▸ rfl) alone
      | succ pairs =>
        have run : 2 * (pairs + 1) + 1 = 2 * pairs + 1 + 1 + 1 := by omega
        rw [run, List.replicate_succ, List.replicate_succ] at written
        have inner := (List.cons.inj (List.cons.inj written).2).2
        exact ⟨[], pairs, after, inner, by simp, alone⟩
    | [c] =>
      have first : '\'' = c := (List.cons.inj written).1
      exact absurd (first ▸ rfl) apart
    | c :: d :: before =>
      have second := (List.cons.inj written).2
      obtain ⟨quote, inner⟩ := List.cons.inj second
      refine ⟨before, pairs, after, inner, ?_, alone⟩
      intro last
      simp [List.getLast?_cons, last] at apart
  · rintro ⟨before, pairs, after, rfl, apart, alone⟩
    cases before with
    | nil => exact ⟨[], pairs + 1, after, rfl, by simp, alone⟩
    | cons c before =>
      exact ⟨'\'' :: '\'' :: c :: before, pairs, after, rfl, by simpa using apart, alone⟩

/-- A body is read unless it has no closing quote. -/
theorem scanBody_eq_none_iff (body : List Char) : scanBody body = none ↔ ¬ Closes body := by
  fun_induction scanBody body with
  | case1 => exact iff_of_true rfl not_closes_nil
  | case2 rest ih => rw [Option.map_eq_none_iff, closes_pair, ih]
  | case3 rest single =>
    have alone : rest.head? ≠ some '\'' := by
      intro quote
      obtain ⟨tail, rfl⟩ := List.head?_eq_some_iff.mp quote
      exact single tail rfl rfl
    have closes := closes_single alone
    exact iff_of_false (by simp) (not_not_intro closes)
  | case4 c rest _ other ih => rw [Option.map_eq_none_iff, closes_cons other, ih]

end Text.Quoted

namespace Grammar

open Outcome Text.Quoted

/-- The text literal of a text is its characters between quotes, with every quote doubled. -/
theorem toList_literal_text (s : String) : (Value.text s).literal.toList = encode s.toList := by
  rw [Value.literal, String.toList_ofList, Value.literalChars]

/-- A text without an opening quote is missed. -/
theorem textLiteral_of_other {text : List Char} (other : text.head? ≠ some '\'') :
    textLiteral text = .miss text .char := by
  unfold textLiteral
  split
  · simp at other
  · rfl

/-- After an opening quote the body decides. -/
theorem textLiteral_of_quote (body : List Char) :
    textLiteral ('\'' :: body) = match scanBody body with
      | some (content, rest) => .done (.text (String.ofList content)) rest
      | none => .halt ('\'' :: body) .unclosed := rfl

/-- A text literal is read exactly where its literal stands in front of something else than a
further quote. -/
theorem textLiteral_eq_done {text rest : List Char} {value : Value} :
    textLiteral text = .done value rest ↔ ∃ s : String, value = .text s ∧
      text = (Value.text s).literal.toList ++ rest ∧ rest.head? ≠ some '\'' := by
  constructor
  · intro read
    by_cases quote : text.head? = some '\''
    · obtain ⟨body, rfl⟩ := List.head?_eq_some_iff.mp quote
      rw [textLiteral_of_quote] at read
      cases scanned : scanBody body with
      | none =>
        rw [scanned] at read
        contradiction
      | some found =>
        obtain ⟨content, behind⟩ := found
        rw [scanned] at read
        cases read
        obtain ⟨written, alone⟩ := eq_of_scanBody scanned
        refine ⟨String.ofList content, rfl, ?_, ?_⟩
        · rw [toList_literal_text, String.toList_ofList, written]
          simp [encode]
        · intro further
          obtain ⟨tail, same⟩ := List.head?_eq_some_iff.mp further
          exact alone tail same
    · rw [textLiteral_of_other quote] at read
      contradiction
  · rintro ⟨s, rfl, rfl, alone⟩
    have body : scanBody (double s.toList ++ '\'' :: rest) = some (s.toList, rest) := by
      apply scanBody_double
      rintro tail rfl
      simp at alone
    have opened : (Value.text s).literal.toList ++ rest =
        '\'' :: (double s.toList ++ '\'' :: rest) := by
      rw [toList_literal_text]
      simp [encode]
    rw [opened, textLiteral_of_quote, body]
    simp only [String.ofList_toList]

/-- Reading a text literal halts exactly at an opening quote that nothing closes. -/
theorem textLiteral_eq_halt {text place : List Char} {cause : Halt} :
    textLiteral text = .halt place cause ↔ place = text ∧ cause = .unclosed ∧
      ∃ body, text = '\'' :: body ∧ ¬ Closes body := by
  by_cases quote : text.head? = some '\''
  · obtain ⟨body, rfl⟩ := List.head?_eq_some_iff.mp quote
    rw [textLiteral_of_quote]
    cases scanned : scanBody body with
    | none =>
      have opened := (scanBody_eq_none_iff body).mp scanned
      simp only [Outcome.halt.injEq]
      constructor
      · rintro ⟨rfl, rfl⟩
        exact ⟨rfl, rfl, body, rfl, opened⟩
      · rintro ⟨rfl, rfl, _⟩
        exact ⟨rfl, rfl⟩
    | some found =>
      simp only [reduceCtorEq, false_iff, not_and]
      rintro _ _ ⟨_, same, opened⟩
      cases same
      rw [(scanBody_eq_none_iff body).mpr opened] at scanned
      contradiction
  · rw [textLiteral_of_other quote]
    simp only [reduceCtorEq, false_iff, not_and]
    rintro _ _ ⟨_, rfl, _⟩
    simp at quote

/-- **Text literals are read exactly as they are written, in any context.** A text is read from the
literal that is written for it, whatever follows that does not begin with a quote, and from nothing
else; all of that literal is taken and no more. Reading halts, at the opening quote, exactly if
there is an opening quote that no quote closes, and it misses exactly if there is none to open. -/
theorem textLiteral_exact (text : List Char) :
    (∀ value rest, textLiteral text = .done value rest ↔ ∃ s : String, value = .text s ∧
      text = (Value.text s).literal.toList ++ rest ∧ rest.head? ≠ some '\'') ∧
    (∀ place cause, textLiteral text = .halt place cause ↔ place = text ∧ cause = .unclosed ∧
      ∃ body, text = '\'' :: body ∧ ¬ Closes body) ∧
    ((textLiteral text).Misses ↔ text.head? ≠ some '\'') := by
  refine ⟨fun _ _ => textLiteral_eq_done, fun _ _ => textLiteral_eq_halt, ?_, fun other => ?_⟩
  · intro misses quote
    obtain ⟨body, rfl⟩ := List.head?_eq_some_iff.mp quote
    rw [textLiteral_of_quote] at misses
    obtain ⟨_, _, missed⟩ := misses
    split at missed <;> contradiction
  · rw [textLiteral_of_other other]
    exact misses_miss text .char

/-- Of the quotes at the end of a literal the last one closes it if they are odd. -/
example : textLiteral ['\'', 'a', '\'', '\'', '\'', ','] = .done (.text "a'") [','] := by rfl

end Grammar

end ColumnQuery
