import ColumnQuery.Proofs.Grammar.Cut
import ColumnQuery.Proofs.Grammar.Depth
import ColumnQuery.Proofs.Grammar.Forward

/-!
# Where reading stopped

An error of a whole text tells a position, counted in bytes of the trimmed text, and quotes what
stands there. Readers only go forward (`Forward`), so what they left is an end of the text and the
position is the size of what stands before it. Where a whole expression was read and more follows,
the part before it is accepted without the rest, because a phrase does not depend on the text behind
it (`Predicate.alone`, `Names.alone`).
-/
namespace ColumnQuery.Grammar

open Outcome Phrase

/-! ## Bytes -/

/-- The bytes of two texts in a row add up. -/
theorem byteLength_append (front rest : List Char) :
    byteLength (front ++ rest) = byteLength front + byteLength rest := by
  induction front with
  | nil => exact (Nat.zero_add _).symm
  | cons c front ih =>
    show c.utf8Size + byteLength (front ++ rest) = c.utf8Size + byteLength front + byteLength rest
    rw [ih, Nat.add_assoc]

/-- The bytes that a text takes are those of its encoding. -/
theorem byteLength_eq_utf8ByteSize (text : List Char) :
    byteLength text = (String.ofList text).utf8ByteSize := by
  induction text with
  | nil => rfl
  | cons c text ih =>
    rw [String.ofList_cons, String.utf8ByteSize_append, String.utf8ByteSize_singleton, ← ih]
    rfl

/-! ## Places -/

/-- An error points at a place of a text: its position is the number of bytes before the place, and
its message quotes what stands behind it. -/
structure PointsAt (read : String → Except ParseError Expr) (error : ParseError)
    (front rest : String) : Prop where
  /-- The position counts the bytes before the place. -/
  position : error.position = front.utf8ByteSize
  /-- All that follows is quoted after a whole expression, at most sixteen characters of it where an
  expectation failed, and nothing where the limit of nesting was passed. -/
  message :
    (error.cause.detail = "Unexpected trailing content: '" ++ rest ++ "'" ∧ rest ≠ "" ∧
      ∃ expr, read front = .ok expr) ∨
    (∃ expected : Expected, error.cause.detail =
      "Unexpected input near '" ++ String.ofList (rest.toList.take 16) ++
        "' (" ++ expected.name ++ ")") ∨
    error.cause.detail = "Nesting exceeds 64 levels"

/-- An error of a reader of whole texts is true of the text, without the white space around it, of
which a reader made an outcome. -/
structure Sound (read : String → Except ParseError Expr) (text : String) (outcome : Outcome Expr)
    (error : ParseError) : Prop where
  /-- The error is the answer to the outcome. -/
  answer : finish (Text.trim text.toList) outcome = .error error
  /-- What was left is an end of the text. -/
  ending : outcome.left <:+ Text.trim text.toList
  /-- The position and the bytes left are the bytes of the text, so their difference, which the
  answer takes for the position, is never cut off at zero. -/
  exact : error.position + byteLength outcome.left = byteLength (Text.trim text.toList)
  /-- The position is within the text. -/
  bounded : error.position ≤ (String.ofList (Text.trim text.toList)).utf8ByteSize
  /-- The position is between two characters. -/
  boundary : String.Pos.Raw.IsValid (String.ofList (Text.trim text.toList)) ⟨error.position⟩
  /-- The error points at the place of its position, behind which stands what was left. -/
  place : ∃ front, String.ofList (Text.trim text.toList) = front ++ String.ofList outcome.left ∧
    PointsAt read error front (String.ofList outcome.left)

/-- An answer that is an error is about what its reader left, and the reader was either done with
something left, or missed, or halted. -/
theorem cause_of_finish {text : List Char} {outcome : Outcome Expr} {error : ParseError}
    (fails : finish text outcome = .error error) :
    error.position = byteLength text - byteLength outcome.left ∧
    ((error.cause = .trailing outcome.left ∧ outcome.left ≠ [] ∧
        ∃ value, outcome = .done value outcome.left) ∨
      (∃ expected, error.cause = .unexpected outcome.left expected) ∨
      error.cause = .tooDeep) := by
  cases outcome with
  | done value rest =>
    cases rest with
    | nil => cases fails
    | cons c rest =>
      cases fails
      exact ⟨rfl, .inl ⟨rfl, List.cons_ne_nil c rest, value, rfl⟩⟩
  | miss rest expected =>
    cases fails
    exact ⟨rfl, .inr (.inl ⟨expected, rfl⟩)⟩
  | halt rest cause =>
    cases cause with
    | tooDeep =>
      cases fails
      exact ⟨rfl, .inr (.inr rfl)⟩
    | unclosed =>
      cases fails
      exact ⟨rfl, .inr (.inl ⟨.char, rfl⟩)⟩

/-- An error is true of a text if it is the answer to an outcome that stopped within the text, and
what stands before anything that was left is accepted. -/
theorem sound_of_finish {read : String → Except ParseError Expr} {text : String}
    {outcome : Outcome Expr} {error : ParseError}
    (fails : finish (Text.trim text.toList) outcome = .error error)
    (within : outcome.Within (Text.trim text.toList))
    (accepts : ∀ value front rest, outcome = .done value rest →
      Text.trim text.toList = front ++ rest → read (String.ofList front) = .ok value) :
    Sound read text outcome error := by
  obtain ⟨front, whole⟩ := within
  obtain ⟨difference, cause⟩ := cause_of_finish fails
  have position : error.position = byteLength front := by
    rw [difference, ← whole, byteLength_append, Nat.add_sub_cancel]
  have points : PointsAt read error (String.ofList front) (String.ofList outcome.left) := by
    constructor
    · rw [position, byteLength_eq_utf8ByteSize]
    · rcases cause with ⟨trailing, filled, value, done⟩ | ⟨expected, unexpected⟩ | deep
      · refine .inl ⟨?_, ?_, value, accepts value front _ done whole.symm⟩
        · rw [trailing]
          rfl
        · intro empty
          have nothing := congrArg String.toList empty
          rw [String.toList_ofList] at nothing
          exact filled nothing
      · refine .inr (.inl ⟨expected, ?_⟩)
        rw [unexpected, String.toList_ofList]
        rfl
      · refine .inr (.inr ?_)
        rw [deep]
        exact detail_tooDeep
  have parts : String.ofList (Text.trim text.toList) =
      String.ofList front ++ String.ofList outcome.left := by
    rw [← whole, String.ofList_append]
  constructor
  case answer => exact fails
  case ending => exact ⟨front, whole⟩
  case exact => rw [position, ← whole, byteLength_append]
  case bounded =>
    rw [points.position, parts, String.utf8ByteSize_append]
    exact Nat.le_add_right _ _
  case boundary =>
    rw [parts, String.Pos.Raw.isValid_iff_exists_append]
    exact ⟨_, _, rfl, String.Pos.Raw.ext points.position⟩
  case place => exact ⟨_, parts, points⟩

/-! ## Texts before the place -/

/-- What stands before a place of a trimmed text, up to a gap before the place, is what trimming
leaves of the part before the place. -/
theorem trim_front {text : String} {front mid rest : List Char}
    (whole : Text.trim text.toList = front ++ rest) (lands : Lands (Text.trim text.toList) mid)
    (gap : Gap mid rest) : Text.trim text.toList = Text.trim front ++ mid := by
  obtain ⟨core, ends, same⟩ := lands
  obtain ⟨separators, blank, rfl⟩ := gap
  have parts : front = core ++ separators := by
    apply List.append_cancel_right
    rw [← whole, same, List.append_assoc]
  have begins : Text.BeginsSolid core := by
    have filled : Text.trim text.toList ≠ [] := by
      rw [same]
      exact List.append_ne_nil_of_left_ne_nil ends.ne_nil _
    have solid := Text.beginsSolid_trim filled
    rw [same] at solid
    exact solid.of_append ends.ne_nil
  rw [parts, Text.trim_append_blank begins ends fun c member =>
    Text.isWhiteSpace_of_isSeparator (blank c member)]
  exact same

/-- What stands before the rest that a predicate leaves is that predicate. -/
theorem readPredicate_front {text : String} {front rest : List Char} {predicate : Expr}
    (reads : predicateAt (maxDepth + 1) (Text.trim text.toList) = .done predicate rest)
    (whole : Text.trim text.toList = front ++ rest) :
    readPredicate (String.ofList front) = .ok predicate := by
  obtain ⟨depth, deep, mid, found, gap⟩ := hasPredicate_of_predicateAt reads
  rw [trim_front whole found.lands gap] at found
  have alone :
      Predicate .disjunction depth (Text.trim (String.ofList front).toList) predicate [] := by
    rw [String.toList_ofList]
    exact found.alone
  exact readPredicate_of_predicate alone (Nat.le_of_lt_succ deep)

/-- What stands before the rest that names leave is their selection. -/
theorem readProjection_front {text : String} {front rest : List Char} {value : Expr}
    (reads : projection (Text.trim text.toList) = .done value rest)
    (whole : Text.trim text.toList = front ++ rest) :
    readProjection (String.ofList front) = .ok value := by
  obtain ⟨names, readsNames, rfl⟩ := map_eq_done.mp reads
  obtain ⟨mid, found, closed⟩ := names_of_eq_done readsNames
  have gap : Gap mid rest := closed ▸ gap_skipSeparators mid
  rw [trim_front whole found.lands gap] at found
  have alone : Names (Text.trim (String.ofList front).toList) names [] := by
    rw [String.toList_ofList]
    exact found.alone
  exact readProjection_of_names alone

/-- **Errors tell where reading stopped.** An error of a predicate or projection text is the answer
to what the reader made of the trimmed text. What the reader left is an end of that text, and the
position is the number of bytes before it, with nothing cut off in the subtraction; so it lies
within the trimmed text and between two of its characters. The message quotes what stands at that
position: all of it if a whole expression was read and more follows, and then the text before the
position is accepted by itself; and its first sixteen characters, or all if there are fewer, if an
expectation failed there. -/
theorem errors_sound (text : String) (error : ParseError) :
    (readPredicate text = .error error →
      Sound readPredicate text (predicateAt (maxDepth + 1) (Text.trim text.toList)) error) ∧
    (readProjection text = .error error →
      Sound readProjection text (projection (Text.trim text.toList)) error) := by
  constructor
  · intro fails
    refine sound_of_finish fails (forward_predicateAt _ _) fun value front rest reads whole => ?_
    exact readPredicate_front reads whole
  · intro fails
    unfold readProjection at fails
    dsimp only at fails
    split at fails
    · cases fails
    · refine sound_of_finish fails (forward_projection _) fun value front rest reads whole => ?_
      exact readProjection_front reads whole

/-- A bracket that was never opened follows a predicate, and a second name follows a name; the
letter with an accent counts for two bytes. -/
theorem errors_sound_trailing :
    (readPredicate "a = 1 )" = .error ⟨6, .trailing [')']⟩ ∧
      Sound readPredicate "a = 1 )"
        (predicateAt (maxDepth + 1) (Text.trim "a = 1 )".toList)) ⟨6, .trailing [')']⟩) ∧
    (readProjection "\"é\" b" = .error ⟨5, .trailing ['b']⟩ ∧
      Sound readProjection "\"é\" b"
        (projection (Text.trim "\"é\" b".toList)) ⟨5, .trailing ['b']⟩) := by
  have predicate : readPredicate "a = 1 )" = .error ⟨6, .trailing [')']⟩ := by
    have trimmed : Text.trim "a = 1 )".toList = ['a', ' ', '=', ' ', '1', ' ', ')'] := by
      decide +kernel
    have name : Field ['a', ' ', '=', ' ', '1', ' ', ')'] "a" [' ', '=', ' ', '1', ' ', ')'] :=
      fieldName_eq_done.mp rfl
    have one : Literal ['1', ' ', ')'] (.int ⟨1, by decide, by decide⟩) [' ', ')'] :=
      .integer (List.cons_ne_nil 1 []) rfl (ended_cons.mpr rfl) rfl
    have sign : ComparisonSign .eq ['=', ' ', '1', ' ', ')'] [' ', '1', ' ', ')'] :=
      ⟨"=", by decide, rfl⟩
    have comparison : unaryAt (maxDepth + 1) ['a', ' ', '=', ' ', '1', ' ', ')'] =
        .done (.compare .eq (.field "a") (.constant (.int ⟨1, by decide, by decide⟩))) [')'] :=
      unaryAt_comparison (name.operand (Gap.refl _)) (by decide) (gap_skipSeparators _) sign
        (.ofProduct (.ofFactor (.literal (gap_skipSeparators _) one))) (ended_cons.mpr (by decide))
    have whole := conjunctionAt_of_reads (chain_of_done comparison) (ended_cons.mpr (by decide))
    have reads := predicateAt_of_reads (chain_of_done whole) (ended_cons.mpr (by decide))
    rw [readPredicate, trimmed, reads]
    rfl
  have names : readProjection "\"é\" b" = .error ⟨5, .trailing ['b']⟩ := by
    have trimmed : Text.trim "\"é\" b".toList = ['"', 'é', '"', ' ', 'b'] := by decide +kernel
    have name : Field ['"', 'é', '"', ' ', 'b'] "é" [' ', 'b'] := fieldName_eq_done.mp rfl
    have reads := names_eq_done (.one (Gap.refl _) name) fun tail impossible => by cases impossible
    rw [readProjection, trimmed, if_neg (by decide), projection, reads]
    rfl
  exact ⟨⟨predicate, (errors_sound _ _).1 predicate⟩, ⟨names, (errors_sound _ _).2 names⟩⟩

end ColumnQuery.Grammar
