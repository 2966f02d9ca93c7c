import ColumnQuery.Grammar.Predicate
import ColumnQuery.Proofs.Grammar.Operand

/-!
# Lists of names

A projection text other than the star is a list of field names with commas between, and separators
around each name. The reader of projections takes every such list whole and nothing else.
-/
namespace ColumnQuery.Phrase

open Grammar

/-- At least one name of a field, with commas between. -/
inductive Names : List Char → List String → List Char → Prop where
  | one {text start rest : List Char} {name : String} (gap : Gap text start)
      (field : Field start name rest) : Names text [name] rest
  | more {text start mid next rest : List Char} {name : String} {names : List String}
      (gap : Gap text start) (field : Field start name mid) (comma : Gap mid (',' :: next))
      (others : Names next names rest) : Names text (name :: names) rest

/-- Names take something. -/
theorem Names.takes {text rest : List Char} {names : List String}
    (found : Names text names rest) : Takes text rest := by
  induction found with
  | one gap field => exact gap.takes field.takes
  | more gap field comma others ih =>
    exact gap.takes (field.takes.trans (comma.takes ((takes_cons _ _).trans ih)))

/-- After separators a field stands first. -/
theorem Field.skip {text start rest : List Char} {name : String} (field : Field start name rest)
    (gap : Gap text start) : Text.skipSeparators text = start := by
  obtain ⟨c, tail, rfl, begins⟩ := field.begins
  exact gap.skip_cons (isSeparator_of_beginsOperand (beginsOperand_of_token begins))

/-- After separators names begin with the first of them. -/
theorem Names.begins {text rest : List Char} {names : List String}
    (found : Names text names rest) :
    ∃ c tail, Text.skipSeparators text = c :: tail ∧ beginsToken c = true := by
  cases found with
  | one gap field | more gap field comma others =>
    rw [field.skip gap]
    exact field.begins

end ColumnQuery.Phrase

namespace ColumnQuery.Grammar

open Outcome Phrase

/-- A comma and a name after it. -/
def furtherName : Reader String := preceded (char ',') (spaced fieldName)

/-- Names that are read after a first one are names of the grammar with it. -/
theorem names_of_many {text start mid rest : List Char} {first : String} {others : List String}
    (gap : Gap text start) (field : Field start first mid)
    (reads : many furtherName (Text.skipSeparators mid) = .done others rest) :
    ∃ close, Names text (first :: others) close ∧ Text.skipSeparators close = rest := by
  induction others generalizing text start mid first with
  | nil => exact ⟨mid, .one gap field, (eq_of_many_nil reads).symm⟩
  | cons second others ih =>
    obtain ⟨after, readsSecond, readsOthers⟩ := of_many_cons reads
    obtain ⟨_, next, comma, readsSecond⟩ := bind_eq_done.mp readsSecond
    obtain ⟨close, inner, rfl⟩ := spaced_eq_done readsSecond
    obtain ⟨close, names, closed⟩ :=
      ih (gap_skipSeparators next) (fieldName_eq_done.mp inner) readsOthers
    have separated := gap_skipSeparators mid
    rw [char_eq_done.mp comma] at separated
    exact ⟨close, .more gap field separated names, closed⟩

/-- Names are read only where the grammar has them, and separators after them as well. -/
theorem names_of_eq_done {text rest : List Char} {names : List String}
    (reads : separated (spaced fieldName) text = .done names rest) :
    ∃ close, Names text names close ∧ Text.skipSeparators close = rest := by
  obtain ⟨first, behind, readsFirst, reads⟩ := bind_eq_done.mp reads
  obtain ⟨others, readsOthers, rfl⟩ := map_eq_done.mp reads
  obtain ⟨mid, inner, rfl⟩ := spaced_eq_done readsFirst
  exact names_of_many (gap_skipSeparators text) (fieldName_eq_done.mp inner) readsOthers

/-- Names of the grammar are read one after another, up to where no comma follows. -/
theorem many_of_names {text close : List Char} {names : List String}
    (found : Names text names close) (last : ∀ tail, Text.skipSeparators close ≠ ',' :: tail) :
    ∃ first others behind, names = first :: others ∧ behind.length < text.length ∧
      spaced fieldName text = .done first behind ∧
        many furtherName behind = .done others (Text.skipSeparators close) := by
  -- A name is read first in either case.
  have readsField {text start mid : List Char} {name : String} (gap : Gap text start)
      (field : Field start name mid) :
      spaced fieldName text = .done name (Text.skipSeparators mid) := by
    apply spaced_of_done
    rw [field.skip gap]
    exact fieldName_eq_done.mpr field
  induction found with
  | @one text start close name gap field =>
    have ended : (furtherName (Text.skipSeparators close)).Misses :=
      (char_misses last).bind fun _ => spaced fieldName
    have shorter := ((gap.takes field.takes).trans_gap (gap_skipSeparators close)).length_lt
    exact ⟨name, [], _, rfl, shorter, readsField gap field, many_of_misses ended⟩
  | @more text start mid next close name names gap field comma listed ih =>
    have skipped := comma.skip_cons (by decide)
    have reads := readsField gap field
    rw [skipped] at reads
    obtain ⟨second, others, behind, rfl, shorter, readsSecond, readsOthers⟩ := ih last
    have step : furtherName (',' :: next) = .done second behind := by
      simp only [furtherName, preceded, char, ↓reduceIte, done_bind, readsSecond]
    have before := (gap.takes field.takes).trans_gap comma
    refine ⟨name, second :: others, _, rfl, before.length_lt, reads, ?_⟩
    rw [many_of_done step (Nat.lt_succ_of_lt shorter), readsOthers]
    rfl

/-- Names of the grammar are read where no comma follows. -/
theorem names_eq_done {text close : List Char} {names : List String}
    (found : Names text names close) (last : ∀ tail, Text.skipSeparators close ≠ ',' :: tail) :
    separated (spaced fieldName) text = .done names (Text.skipSeparators close) := by
  obtain ⟨first, others, behind, rfl, _, readsFirst, readsOthers⟩ := many_of_names found last
  unfold furtherName at readsOthers
  simp only [separated, readsFirst, done_bind, readsOthers, done_map]

/-- The selection of fields with these names. -/
def selection (names : List String) : Expr :=
  .projection (names.map fun name => ⟨none, .field name⟩)

/-- A text that the grammar has as names is read as their selection. -/
theorem readProjection_of_names {text : String} {names : List String}
    (found : Names (Text.trim text.toList) names []) :
    readProjection text = .ok (selection names) := by
  have noStar : Text.trim text.toList ≠ ['*'] := by
    intro star
    obtain ⟨c, tail, skipped, begins⟩ := found.begins
    rw [star] at skipped
    cases skipped
    revert begins
    decide
  have reads := names_eq_done found fun tail impossible => by cases impossible
  unfold readProjection
  dsimp only
  rw [if_neg noStar, projection, reads]
  rfl

end ColumnQuery.Grammar
