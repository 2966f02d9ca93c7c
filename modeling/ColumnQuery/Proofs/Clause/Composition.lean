import ColumnQuery.Proofs.Clause.Chain
import ColumnQuery.Proofs.Expr.Display
import ColumnQuery.Proofs.Grammar.Context

/-!
# Predicate texts compose

A text that is read as a predicate stays that predicate between brackets, whatever stands around
them. So texts in brackets with a connective between them are read as the predicates combined from
the left, and a query with some conditions in order compiles as one with the condition read from
their texts joined by AND. A bracket costs one level of nesting, a denial another one.
-/
namespace ColumnQuery

open Grammar Phrase

/-! ## Texts -/

/-- A text without blanks around it that is read as a predicate, and has at most so many groups,
denials and minus signs around any place in it. -/
structure Accepted (levels : Nat) (text : String) (predicate : Expr) : Prop where
  /-- No blanks stand around it. -/
  trimmed : Text.trim text.toList = text.toList
  /-- It is read as the predicate. -/
  reads : readPredicate text = .ok predicate
  /-- It has no more levels. -/
  nested : ∃ depth ≤ levels, Predicate .disjunction depth text.toList predicate []

/-- What is shown of a predicate is accepted with as many levels as it has. -/
theorem accepted_display {expr : Expr} (predicate : expr.IsPredicate) {levels : Nat}
    (within : expr.levels ≤ levels) (limit : levels ≤ maxDepth) :
    Accepted levels expr.display expr := by
  obtain ⟨begins, ends⟩ := predicate.solid
  have trimmed := Text.trim_eq_self begins ends
  have phrase := predicate.phrase (ended_nil isIdentChar)
  rw [List.append_nil] at phrase
  have whole : Predicate .disjunction expr.levels expr.display.toList expr [] :=
    .ofConjunction (.ofUnary phrase)
  have reads : readPredicate expr.display = .ok expr := by
    refine readPredicate_of_predicate ?_ (Nat.le_trans within limit)
    rw [trimmed]
    exact whole
  exact ⟨trimmed, reads, expr.levels, within, whole⟩

/-- A text between brackets. -/
def inBrackets (text : String) : String := "(" ++ text ++ ")"

/-- Texts between brackets with the word of a connective between them. -/
def joinTexts (op : Connective) (texts : List String) : String :=
  String.intercalate (" " ++ op.keyword ++ " ") (texts.map inBrackets)

/-- Texts between brackets, each after the word of a connective. -/
def laterChars (op : Connective) (texts : List String) : List Char :=
  texts.flatMap fun text => ' ' :: (op.keyword.toList ++ ' ' :: '(' :: (text.toList ++ [')']))

/-- Joined texts begin with the first one between brackets. -/
theorem toList_joinTexts (op : Connective) (first : String) (others : List String) :
    (joinTexts op (first :: others)).toList =
      '(' :: (first.toList ++ ')' :: laterChars op others) := by
  induction others generalizing first with
  | nil => simp [joinTexts, inBrackets, laterChars]
  | cons second others ih =>
    have split : joinTexts op (first :: second :: others) =
        inBrackets first ++ (" " ++ op.keyword ++ " ") ++ joinTexts op (second :: others) := by
      simp only [joinTexts, List.map_cons, String.intercalate_cons_cons]
    rw [split, String.toList_append, ih]
    simp [inBrackets, laterChars]

/-- The last of some texts between brackets ends with a bracket. -/
theorem endsSolid_laterChars (op : Connective) (before : List Char) (texts : List String) :
    Text.EndsSolid (before ++ ')' :: laterChars op texts) := by
  induction texts generalizing before with
  | nil => exact ⟨before, ')', rfl, by decide⟩
  | cons text texts ih =>
    have split : before ++ ')' :: laterChars op (text :: texts) =
        (before ++ ')' :: ' ' :: (op.keyword.toList ++ ' ' :: '(' :: text.toList)) ++
          ')' :: laterChars op texts := by
      simp [laterChars]
    rw [split]
    exact ih _

/-- A text that begins and ends with a bracket has no blanks around it. -/
theorem trim_joinTexts (op : Connective) (first : String) (others : List String) :
    Text.trim (joinTexts op (first :: others)).toList =
      (joinTexts op (first :: others)).toList := by
  rw [toList_joinTexts]
  have ends := endsSolid_laterChars op ('(' :: first.toList) others
  exact Text.trim_eq_self ⟨'(', _, rfl, by decide⟩ ends

/-! ## Phrases -/

/-- The rank of what a connective combines from the left. -/
def Connective.rank : Connective → PredicateRank
  | .and => .conjunction
  | .or => .disjunction

/-- A predicate without connectives outside brackets may begin a combination. -/
theorem predicate_first {op : Connective} {depth : Nat} {text rest : List Char} {predicate : Expr}
    (found : Predicate .unary depth text predicate rest) :
    Predicate op.rank depth text predicate rest := by
  cases op with
  | and => exact .ofUnary found
  | or => exact .ofConjunction (.ofUnary found)

/-- A predicate without connectives outside brackets may go on with a combination. -/
theorem predicate_later {op : Connective} {depth depth' : Nat}
    {text mid sign next rest : List Char} {left right : Expr}
    (before : Predicate op.rank depth text left mid) (gap : Gap mid sign)
    (signed : ConnectiveSign op sign next) (after : Predicate .unary depth' next right rest) :
    Predicate op.rank (max depth depth') text (.logical op left right) rest := by
  cases op with
  | and => exact .and before gap signed after
  | or => exact .or before gap signed (.ofUnary after)

/-- A combination is a predicate. -/
theorem predicate_whole {op : Connective} {depth : Nat} {text rest : List Char} {predicate : Expr}
    (found : Predicate op.rank depth text predicate rest) :
    Predicate .disjunction depth text predicate rest := by
  cases op with
  | and => exact .ofConjunction found
  | or => exact found

/-- The word of a connective between spaces leads to what follows it. -/
theorem connectiveSign_keyword (op : Connective) (rest : List Char) :
    ConnectiveSign op (op.keyword.toList ++ ' ' :: rest) (' ' :: rest) := by
  have ended : Ended isIdentChar (' ' :: rest) := ended_cons.mpr (by decide)
  cases op with
  | and | or => exact .inr (keyword_of_word _ (by decide) ended)

/-- Accepted texts go on with a combination one by one. The place before them stays where the
combination began. -/
theorem predicate_laterChars {op : Connective} {whole : List Char} {others : List (String × Expr)}
    (accepted : ∀ part ∈ others, Accepted (maxDepth - 1) part.1 part.2) {depth : Nat}
    (deep : depth ≤ maxDepth) {left : Expr}
    (found : Predicate op.rank depth whole left (laterChars op (others.map (·.1)))) :
    ∃ depth ≤ maxDepth, Predicate op.rank depth whole
      ((others.map (·.2)).foldl (.logical op) left) [] := by
  induction others generalizing depth left with
  | nil => exact ⟨depth, deep, found⟩
  | cons part others ih =>
    obtain ⟨depth', deep', inside⟩ := (accepted part List.mem_cons_self).nested
    have group := inside.bracketed (laterChars op (others.map (·.1)))
    have between : laterChars op ((part :: others).map (·.1)) =
        ' ' :: (op.keyword.toList ++ ' ' :: '(' ::
          (part.1.toList ++ ')' :: laterChars op (others.map (·.1)))) := by
      simp [laterChars]
    rw [between] at found
    have longer := predicate_later found (gap_space _) (connectiveSign_keyword op _)
      (group.afterGap (gap_space _))
    have within : max depth (depth' + 1) ≤ maxDepth := by
      have limit : maxDepth = 64 := rfl
      omega
    exact ih (fun part member => accepted part (List.mem_cons_of_mem _ member)) within longer

/-- Accepted texts between brackets with a connective between them are read as the predicates
combined from the left. -/
theorem readPredicate_joinTexts (op : Connective) {first : String × Expr}
    {others : List (String × Expr)}
    (accepted : ∀ part ∈ first :: others, Accepted (maxDepth - 1) part.1 part.2) :
    readPredicate (joinTexts op ((first :: others).map (·.1))) =
      .ok ((others.map (·.2)).foldl (.logical op) first.2) := by
  obtain ⟨depth, deep, inside⟩ := (accepted first List.mem_cons_self).nested
  have group := inside.bracketed (laterChars op (others.map (·.1)))
  have limit : maxDepth = 64 := rfl
  obtain ⟨depth', deep', whole⟩ := predicate_laterChars
    (fun part member => accepted part (List.mem_cons_of_mem _ member))
    (by omega : depth + 1 ≤ maxDepth) (predicate_first group)
  refine readPredicate_of_predicate ?_ deep'
  rw [List.map_cons, trim_joinTexts, toList_joinTexts]
  exact predicate_whole whole

/-- An accepted text between brackets is denied by the word before them. -/
theorem readPredicate_denial {text : String} {predicate : Expr}
    (accepted : Accepted (maxDepth - 2) text predicate) :
    readPredicate ("NOT " ++ inBrackets text) = .ok (.not predicate) := by
  obtain ⟨depth, deep, inside⟩ := accepted.nested
  have group := inside.bracketed []
  have ended : Ended isIdentChar (' ' :: '(' :: (text.toList ++ [')'])) :=
    ended_cons.mpr (by decide)
  have sign : DenialSign ("NOT".toList ++ ' ' :: '(' :: (text.toList ++ [')']))
      (' ' :: '(' :: (text.toList ++ [')'])) := .inr (keyword_of_word _ (by decide) ended)
  have denied := Predicate.denial (Gap.refl _) sign (group.afterGap (gap_space _))
  have written : ("NOT " ++ inBrackets text).toList =
      "NOT".toList ++ ' ' :: '(' :: (text.toList ++ [')']) := by
    simp [inBrackets]
  have begins : Text.BeginsSolid ("NOT " ++ inBrackets text).toList := by
    rw [written]
    exact ⟨'N', _, rfl, by decide⟩
  have ends : Text.EndsSolid ("NOT " ++ inBrackets text).toList :=
    ⟨"NOT (".toList ++ text.toList, ')', by simp [inBrackets], by decide⟩
  have within : depth + 1 + 1 ≤ maxDepth := by
    have limit : maxDepth = 64 := rfl
    omega
  refine readPredicate_of_predicate ?_ within
  rw [Text.trim_eq_self begins ends, written]
  exact .ofConjunction (.ofUnary denied)

/-! ## Conditions -/

/-- Two conditions on what has none yet add their conjunction to it, or fail as it does. -/
theorem Assembly.add_add_filter {built : Assembly} (unconditioned : built.predicate = none)
    (condition next : Expr) :
    (do
      let reached ← built.add .filter condition
      reached.add .filter next) = built.add .filter (condition.and next) := by
  obtain ⟨source, fields, predicate⟩ := built
  cases unconditioned
  have whole : (condition.and next).predicate = (do
      let first ← condition.predicate
      let second ← next.predicate
      .ok ("(" ++ first ++ " " ++ Connective.and.keyword ++ " " ++ second ++ ")")) := rfl
  simp only [add, whole]
  cases compiled : condition.predicate with
  | error fault => rfl
  | ok first =>
    cases next.predicate with
    | error fault => rfl
    | ok second =>
      have joined := conjoin_predicate compiled second
      show Except.ok (⟨source, fields, some (conjoin (some first) second)⟩ : Assembly) = _
      rw [joined]
      rfl

namespace Query

/-- What more steps assemble depends only on what is assembled before them. -/
theorem assemble_foldl_addStep {query other : Query}
    (same : Expr.assemble {} query.chain = Expr.assemble {} other.chain)
    (steps : List (Step × Expr)) :
    Expr.assemble {} (steps.foldl addStep query).chain =
      Expr.assemble {} (steps.foldl addStep other).chain := by
  induction steps generalizing query other with
  | nil => exact same
  | cons step steps ih =>
    obtain ⟨kind, argument⟩ := step
    have next : Expr.assemble {} (query.addStep (kind, argument)).chain =
        Expr.assemble {} (other.addStep (kind, argument)).chain := by
      cases kind with
      | filter | project => simp only [addStep, filter, select, Expr.assemble, same]
    exact ih next

/-- Selections alone assemble no condition. -/
theorem predicate_of_selections {name : String} {selections : List Expr} {built : Assembly}
    (assembled : Expr.assemble {} (selections.foldl select (source name)).chain = .ok built) :
    built.predicate = none := by
  induction selections using List.reverseRecOn generalizing built with
  | nil =>
    cases assembled
    rfl
  | append_singleton selections last ih =>
    rw [List.foldl_append] at assembled
    obtain ⟨before, reached, added⟩ := bind_eq_ok.mp assembled
    have unconditioned : before.predicate = none := ih reached
    obtain ⟨names, _, same⟩ := bind_eq_ok.mp added
    cases same
    exact unconditioned

/-- Conditions in order are assembled as their conjunction from the left. -/
theorem assemble_foldl_filter {query : Query}
    (unconditioned : ∀ built, Expr.assemble {} query.chain = .ok built → built.predicate = none)
    (first : Expr) (others : List Expr) :
    Expr.assemble {} ((first :: others).foldl filter query).chain =
      Expr.assemble {} (query.filter (others.foldl .and first)).chain := by
  induction others generalizing first with
  | nil => rfl
  | cons next others ih =>
    have joined : Expr.assemble {} ((query.filter first).filter next).chain =
        Expr.assemble {} (query.filter (first.and next)).chain := by
      show ((Expr.assemble {} query.chain >>= fun built => _) >>= fun reached => _) = _ >>= _
      cases reached : Expr.assemble {} query.chain with
      | error fault => rfl
      | ok built =>
        exact Assembly.add_add_filter (unconditioned built reached) first next
    have steps (start : Query) : others.foldl filter start =
        (others.map fun condition => (Step.filter, condition)).foldl addStep start := by
      rw [List.foldl_map]
      rfl
    calc Expr.assemble {} ((first :: next :: others).foldl filter query).chain
      _ = Expr.assemble {} (others.foldl filter ((query.filter first).filter next)).chain := rfl
      _ = Expr.assemble {} (others.foldl filter (query.filter (first.and next))).chain := by
        rw [steps, steps, assemble_foldl_addStep joined]
      _ = Expr.assemble {} (query.filter (others.foldl .and (first.and next))).chain :=
        ih (first.and next)

/-- Conditions in order, with selections before them and any steps after them, compile as their
conjunction from the left. -/
theorem compile_filters (name : String) (selections : List Expr) (first : Expr)
    (others : List Expr) (later : List (Step × Expr)) :
    (later.foldl addStep
      ((first :: others).foldl filter (selections.foldl select (source name)))).compile =
      (later.foldl addStep
        ((selections.foldl select (source name)).filter (others.foldl .and first))).compile := by
  have unconditioned (built : Assembly)
      (assembled : Expr.assemble {} (selections.foldl select (source name)).chain = .ok built) :
      built.predicate = none := predicate_of_selections assembled
  have joined := assemble_foldl_filter unconditioned first others
  unfold compile Expr.select
  rw [assemble_foldl_addStep joined]

end Query

/-- **Composing predicate texts composes predicates.** Accepted texts between brackets, with one
level to spare, are read with a connective between them as their predicates combined from the left;
with two levels to spare, an accepted text is denied by the word before its brackets. So a query
with the conditions in order, whatever is selected before them and whatever follows, compiles to the
same statement as one with the condition read from the texts joined by AND, or fails with the same
cause. -/
theorem readPredicate_composed {first : String × Expr} {others : List (String × Expr)}
    (accepted : ∀ part ∈ first :: others, Accepted (maxDepth - 1) part.1 part.2) :
    (∀ op, readPredicate (joinTexts op ((first :: others).map (·.1))) =
      .ok ((others.map (·.2)).foldl (.logical op) first.2)) ∧
    (∀ text predicate, Accepted (maxDepth - 2) text predicate →
      readPredicate ("NOT " ++ inBrackets text) = .ok (.not predicate)) ∧
    ∃ condition, readPredicate (joinTexts .and ((first :: others).map (·.1))) = .ok condition ∧
      ∀ (name : String) (selections : List Expr) (later : List (Step × Expr)),
        let start := selections.foldl Query.select (Query.source name)
        (later.foldl Query.addStep
          (((first :: others).map (·.2)).foldl Query.filter start)).compile =
          (later.foldl Query.addStep (start.filter condition)).compile := by
  have joined (op : Connective) := readPredicate_joinTexts op accepted
  refine ⟨joined, fun text predicate => readPredicate_denial, _, joined .and, ?_⟩
  intro name selections later
  exact Query.compile_filters name selections first.2 (others.map (·.2)) later

/-- A comparison with a text that has brackets and a connective in it. -/
def quotedBrackets : Expr := .compareField "Name" .eq (.text ") OR (1 = 1")

/-- A denied membership in a set that has the word of a connective in it. -/
def quotedWord : Expr := .not (.isIn "Id" [.text "AND", .null])

/-- Brackets and words in quotes stay in the brackets around a text. -/
theorem readPredicate_composed_quotes :
    readPredicate "((Name = ') OR (1 = 1')) AND (NOT Id IN ('AND', NULL))" =
      .ok (quotedBrackets.and quotedWord) := by
  have brackets : quotedBrackets.IsPredicate :=
    .compare (.field rfl) (.constant (.text _) rfl)
  have word : quotedWord.IsPredicate := by
    refine .not (.membership rfl fun item member => ?_)
    simp only [List.map_cons, List.map_nil, List.mem_cons, List.not_mem_nil, or_false] at member
    obtain rfl | rfl := member
    · exact .constant (.text _) rfl
    · exact .constant .null rfl
  have written : joinTexts .and [quotedBrackets.display, quotedWord.display] =
      "((Name = ') OR (1 = 1')) AND (NOT Id IN ('AND', NULL))" := by decide +kernel
  have accepted : ∀ part ∈ [(quotedBrackets.display, quotedBrackets),
      (quotedWord.display, quotedWord)], Accepted (maxDepth - 1) part.1 part.2 := by
    intro part member
    simp only [List.mem_cons, List.not_mem_nil, or_false] at member
    obtain rfl | rfl := member
    · exact accepted_display brackets (by decide) (by decide)
    · exact accepted_display word (by decide) (by decide)
  rw [← written]
  exact (readPredicate_composed accepted).1 .and

end ColumnQuery
