import ColumnQuery.Proofs.Grammar.Predicate

/-!
# The limit of nesting

A phrase of the grammar that is too deep for the levels left halts the reading for just that reason.
Readers take what stands before the first place that is too deep as the grammar has it, and a halt
goes through every choice and repetition around that place. A bracket of a predicate is first tried
as a group of an operand, at the same depth: that attempt ends before the first relation, so it
halts only where the predicate is too deep as well (`stopsShort_or_tooDeep`).
-/
namespace ColumnQuery.Grammar

open Outcome Phrase

variable {α β : Type}

/-! ## Halts go through -/

/-- The reading ended because nesting went past the limit. -/
def Outcome.TooDeep (outcome : Outcome α) : Prop := ∃ rest, outcome = halt rest .tooDeep

/-- What follows is not reached. -/
theorem Outcome.TooDeep.bind {outcome : Outcome α} (deep : outcome.TooDeep)
    (next : α → Reader β) : (outcome.bind next).TooDeep := by
  obtain ⟨rest, rfl⟩ := deep
  exact ⟨rest, rfl⟩

/-- Nothing is made of what was not read. -/
theorem Outcome.TooDeep.map {outcome : Outcome α} (deep : outcome.TooDeep) (f : α → β) :
    (outcome.map f).TooDeep := deep.bind _

/-- No other reader is tried. -/
theorem Outcome.TooDeep.orElse {outcome : Outcome α} (deep : outcome.TooDeep)
    (other : Unit → Outcome α) : (outcome.orElse other).TooDeep := by
  obtain ⟨rest, rfl⟩ := deep
  exact ⟨rest, rfl⟩

/-- What is too deep is no miss. -/
theorem Outcome.TooDeep.not_misses {outcome : Outcome α} (deep : outcome.TooDeep) :
    ¬ outcome.Misses := by
  obtain ⟨rest, rfl⟩ := deep
  rintro ⟨_, _, impossible⟩
  contradiction

/-- What is too deep is not done. -/
theorem Outcome.TooDeep.ne_done {outcome : Outcome α} (deep : outcome.TooDeep) (value : α)
    (rest : List Char) : outcome ≠ .done value rest := by
  obtain ⟨rest, rfl⟩ := deep
  intro impossible
  contradiction

/-- Separators around a reader change nothing. -/
theorem spaced_tooDeep {read : Reader α} {text : List Char}
    (deep : (read (Text.skipSeparators text)).TooDeep) : (spaced read text).TooDeep := deep.bind _

/-- Brackets are too deep where their inside is. -/
theorem bracketed_tooDeep {read : Reader α} {inner : List Char} (deep : (read inner).TooDeep) :
    (bracketed read ('(' :: inner)).TooDeep := by
  simp only [bracketed, char, ↓reduceIte, done_bind]
  exact deep.bind _

/-- A repetition does not end where its reader is too deep. -/
theorem many_tooDeep {read : Reader α} {text : List Char} (deep : (read text).TooDeep) :
    (many read text).TooDeep := by
  obtain ⟨rest, halts⟩ := deep
  rw [many, halts]
  exact ⟨rest, rfl⟩

section Chain

variable {operator : Reader β} {operand : Reader α} {combine : β → α → α → α}

/-- A chain is too deep where its first operand is. -/
theorem chain_tooDeep {text : List Char} (deep : (operand text).TooDeep) :
    (chain operator operand combine text).TooDeep := deep.bind _

/-- A chain is too deep where the operand after an operator is. -/
theorem resume_tooDeep {text mid : List Char} {before : α} {op : β}
    (signed : operator text = .done op mid) (deep : (operand mid).TooDeep) :
    (resume operator operand combine before text).TooDeep := by
  have step : (link operator operand text).TooDeep := by
    rw [link, signed, done_bind]
    exact deep.map _
  exact (many_tooDeep step).map _

end Chain

/-! ## Operands -/

/-- The reader of the operands of a rank. -/
def rankedOperand (levels : Nat) : OperandRank → Reader Expr
  | .factor => factorAt levels
  | .product => productAt levels
  | .sum => operandAt levels

/-- Without a level left every factor is too deep. -/
theorem factorAt_zero (text : List Char) : (factorAt 0 text).TooDeep := ⟨text, rfl⟩

/-- An operand is too deep where its first factor is. -/
theorem operandAt_tooDeep {levels : Nat} {text : List Char}
    (deep : (factorAt levels text).TooDeep) : (operandAt levels text).TooDeep := by
  have product : (productAt levels text).TooDeep := chain_tooDeep deep
  exact chain_tooDeep product

/-- Without a level left every operand is too deep. -/
theorem operandAt_zero (text : List Char) : (operandAt 0 text).TooDeep :=
  operandAt_tooDeep (factorAt_zero text)

/-- An operand that is too deep is so between separators. -/
theorem spaced_operandAt_tooDeep {levels : Nat} {text : List Char}
    (deep : (operandAt levels text).TooDeep) : (spaced (operandAt levels) text).TooDeep := by
  apply spaced_tooDeep
  cases levels with
  | zero => exact operandAt_zero _
  | succ levels =>
    rw [operandAt_skip (Nat.succ_pos levels)]
    exact deep

/-- A group is too deep where its inside is. -/
theorem factorAt_tooDeep_of_group {levels : Nat} {text inner : List Char}
    (opening : Gap text ('(' :: inner)) (deep : (operandAt levels inner).TooDeep) :
    (factorAt (levels + 1) text).TooDeep := by
  have noOpposite : (preceded (char '-') (factorAt levels) ('(' :: inner)).Misses :=
    opposite_misses (by decide)
  simp only [factorAt, opening.skip_cons (by decide)]
  rw [(noOpposite.map _).orElse]
  have group : (bracketed (spaced (operandAt levels)) ('(' :: inner)).TooDeep :=
    bracketed_tooDeep (spaced_operandAt_tooDeep deep)
  exact group.orElse _

/-- An operand that is as deep as there are levels left is too deep. -/
theorem rankedOperand_tooDeep {rank : OperandRank} {depth levels : Nat} {text rest : List Char}
    {operand : Expr} (found : Operand rank depth text operand rest) (deep : levels ≤ depth) :
    (rankedOperand levels rank text).TooDeep := by
  induction found generalizing levels with
  | literal gap literal =>
    rw [Nat.le_zero.mp deep]
    exact factorAt_zero _
  | field gap field =>
    rw [Nat.le_zero.mp deep]
    exact factorAt_zero _
  | @opposite depth text inner rest operand sign factor ih =>
    cases levels with
    | zero => exact factorAt_zero text
    | succ levels =>
      have inside : (factorAt levels inner).TooDeep := ih (Nat.le_of_succ_le_succ deep)
      show (factorAt (levels + 1) text).TooDeep
      simp only [factorAt, sign.skip_cons (by decide), preceded, char, ↓reduceIte, done_bind]
      exact (inside.map _).orElse _
  | @group depth text inner close rest operand opening sum closing ih =>
    cases levels with
    | zero => exact factorAt_zero text
    | succ levels =>
      exact factorAt_tooDeep_of_group opening (ih (Nat.le_of_succ_le_succ deep))
  | ofFactor factor ih => exact chain_tooDeep (ih deep)
  | ofProduct product ih => exact chain_tooDeep (ih deep)
  | @times depth depth' text mid sign next rest left right op before gap signed after ihBefore
      ihAfter =>
    by_cases early : levels ≤ depth
    · exact ihBefore early
    · obtain ⟨skipped, follows⟩ := signed.follows gap
      have reads : ReadsOperand levels text left mid .product :=
        readsOperand before (Nat.lt_of_not_le early) (skipped ▸ follows)
      have operator : spaced productOperator mid = .done op (Text.skipSeparators next) :=
        spaced_of_done (skipped ▸ productOperator_eq_done.mpr signed)
      have factor : (factorAt levels (Text.skipSeparators next)).TooDeep := by
        rw [factorAt_skip (by omega)]
        exact ihAfter (by omega)
      show (productAt levels text).TooDeep
      rw [reads]
      exact resume_tooDeep operator factor
  | @plus depth depth' text mid sign next rest left right op before gap signed after ihBefore
      ihAfter =>
    by_cases early : levels ≤ depth
    · exact ihBefore early
    · obtain ⟨skipped, follows⟩ := signed.follows gap
      have reads : ReadsOperand levels text left mid .sum :=
        readsOperand before (Nat.lt_of_not_le early) (skipped ▸ follows)
      have operator : spaced sumOperator mid = .done op (Text.skipSeparators next) :=
        spaced_of_done (skipped ▸ sumOperator_eq_done.mpr signed)
      have product : (productAt levels (Text.skipSeparators next)).TooDeep := by
        rw [productAt_skip (by omega)]
        exact ihAfter (by omega)
      show (operandAt levels text).TooDeep
      rw [reads]
      exact resume_tooDeep operator product

/-! ## Sets -/

/-- Items after a first one are too deep where the rest of them is. -/
theorem many_furtherItem_tooDeep {levels depth : Nat} {text close : List Char}
    {items : List Expr} (found : Items depth text items close) (deep : levels ≤ depth) :
    (spaced (operandAt levels) text).TooDeep ∨ ∃ first behind, behind.length < text.length ∧
      spaced (operandAt levels) text = .done first behind ∧
        (many (furtherItem levels) behind).TooDeep := by
  induction found with
  | one last => exact .inl (spaced_operandAt_tooDeep (rankedOperand_tooDeep last deep))
  | @more depth depth' text mid next close item items first comma others ih =>
    by_cases early : levels ≤ depth
    · exact .inl (spaced_operandAt_tooDeep (rankedOperand_tooDeep first early))
    · have skipped := comma.skip_cons (by decide)
      have ends : Ended prolongsSum (Text.skipSeparators mid) := by
        rw [skipped]
        exact ended_cons.mpr (by decide)
      have reads := spaced_operandAt first (Nat.lt_of_not_le early) ends
      rw [skipped] at reads
      refine .inr ⟨item, _, (first.takes.trans_gap comma).length_lt, reads, ?_⟩
      have step : furtherItem levels (',' :: next) = spaced (operandAt levels) next := by
        simp only [furtherItem, preceded, char, ↓reduceIte, done_bind]
      rcases ih (by omega) with halts | ⟨second, behind, shorter, readsSecond, halts⟩
      · exact many_tooDeep (step ▸ halts)
      · rw [many_of_done (step.trans readsSecond) (Nat.lt_succ_of_lt shorter)]
        exact halts.map _

/-- A set is too deep if one of its items is. -/
theorem itemSet_tooDeep {levels depth : Nat} {text rest : List Char} {items : List Expr}
    (found : ItemSet depth text items rest) (left : 0 < levels) (deep : levels ≤ depth) :
    (itemSet (operandAt levels) (Text.skipSeparators text)).TooDeep := by
  cases found with
  | empty opening closing => omega
  | @items depth text inner close rest items opening listed closing =>
    simp only [itemSet, opening.skip_cons (by decide), char, ↓reduceIte, done_bind]
    refine TooDeep.bind ?_ _
    unfold separatedOrNone
    rcases many_furtherItem_tooDeep listed deep with halts | ⟨first, behind, _, reads, halts⟩
    · obtain ⟨place, halts⟩ := halts
      rw [halts]
      exact ⟨place, rfl⟩
    · rw [reads]
      exact halts.map _

/-! ## Predicates -/

/-- The reader of the predicates of a rank. -/
def rankedPredicate (levels : Nat) : PredicateRank → Reader Expr
  | .unary => unaryAt levels
  | .conjunction => conjunctionAt levels
  | .disjunction => predicateAt levels

/-- Without a level left every predicate without connectives is too deep. -/
theorem unaryAt_zero (text : List Char) : (unaryAt 0 text).TooDeep := ⟨text, rfl⟩

/-- What is read as an operand from the front of a predicate stops short, or it is too deep. -/
theorem stopsShort_or_tooDeep {rank : PredicateRank} {depth : Nat} {text rest : List Char}
    {predicate : Expr} (found : Predicate rank depth text predicate rest) (levels : Nat) :
    StopsShort levels text ∨ (operandAt levels text).TooDeep := by
  induction found generalizing levels with
  | denial gap sign unary ih =>
    cases levels with
    | zero => exact .inr (operandAt_zero _)
    | succ levels => exact .inl (.inl (operandAt_misses_of_denial gap sign))
  | @group depth text inner close rest predicate opening disjunction closing ih =>
    have outside {levels : Nat} (inside : (operandAt levels inner).TooDeep) :
        (operandAt (levels + 1) text).TooDeep :=
      operandAt_tooDeep (factorAt_tooDeep_of_group opening inside)
    cases levels with
    | zero => exact .inr (operandAt_zero _)
    | succ levels =>
      cases levels with
      | zero => exact .inr (outside (operandAt_zero inner))
      | succ levels =>
        cases ih (levels + 1) with
        | inl short => exact .inl (.inl (operandAt_misses_of_group opening (by omega) short))
        | inr inside => exact .inr (outside inside)
  | membership gap field between word listed =>
    cases levels with
    | zero => exact .inr (operandAt_zero _)
    | succ levels => exact .inl (stopsShort_of_membership (Nat.succ_pos _) gap field between word)
  | @comparison depth depth' text mid sign next rest left right op before gap signed after =>
    by_cases early : levels ≤ depth
    · exact .inr (rankedOperand_tooDeep before early)
    · exact .inl (stopsShort_of_comparison before (Nat.lt_of_not_le early) gap signed)
  | ofUnary unary ih => exact ih levels
  | ofConjunction conjunction ih => exact ih levels
  | and before gap signed after ih => exact ih levels
  | or before gap signed after ih => exact ih levels

/-- A predicate is too deep where an operand in its place is: nothing is tried before the
comparison that could be read or halt otherwise. -/
theorem unaryAt_tooDeep_of_operandAt {levels : Nat} {text : List Char}
    (deep : (operandAt (levels + 1) text).TooDeep) : (unaryAt (levels + 1) text).TooDeep := by
  have noDenial : (denialSign (Text.skipSeparators text)).Misses := by
    refine denialSign_misses fun inner sign => ?_
    exact deep.not_misses (operandAt_misses_of_denial (gap_skipSeparators text) sign)
  have noMembership : (membership (operandAt (levels + 1)) text).Misses := by
    refine membership_misses_of_not fun name mid set field keyed => ?_
    -- A field before the keyword would have been read as an operand.
    obtain ⟨reads, _⟩ := operandAt_of_membership (Nat.succ_pos levels)
      (gap_skipSeparators text) field (gap_skipSeparators mid) keyed
    exact deep.ne_done _ _ reads
  have comparing : (comparison (operandAt (levels + 1)) text).TooDeep :=
    (spaced_operandAt_tooDeep deep).bind _
  simp only [unaryAt, preceded, membership_skip, comparison_skip]
  rw [((noDenial.bind _).map _).orElse, noMembership.orElse]
  exact comparing.orElse _

/-- A predicate that is too deep is so between separators. -/
theorem spaced_predicateAt_tooDeep {levels : Nat} {text : List Char} (left : 0 < levels)
    (deep : (predicateAt levels text).TooDeep) : (spaced (predicateAt levels) text).TooDeep := by
  apply spaced_tooDeep
  rw [predicateAt_skip left]
  exact deep

/-- A predicate that is as deep as there are levels left is too deep. -/
theorem rankedPredicate_tooDeep {rank : PredicateRank} {depth levels : Nat}
    {text rest : List Char} {predicate : Expr} (found : Predicate rank depth text predicate rest)
    (deep : levels ≤ depth) : (rankedPredicate levels rank text).TooDeep := by
  induction found generalizing levels with
  | @denial depth text start inner rest operand gap sign unary ih =>
    cases levels with
    | zero => exact unaryAt_zero text
    | succ levels =>
      have inside : (unaryAt levels inner).TooDeep := ih (Nat.le_of_succ_le_succ deep)
      obtain ⟨other, decides⟩ := unaryAt_of_denialSign levels gap sign
      show (unaryAt (levels + 1) text).TooDeep
      rw [decides]
      exact (inside.map _).orElse _
  | @group depth text inner close rest predicate opening disjunction closing ih =>
    cases levels with
    | zero => exact unaryAt_zero text
    | succ levels =>
      have inside : (predicateAt levels inner).TooDeep := ih (Nat.le_of_succ_le_succ deep)
      have asOperand (halts : (operandAt levels inner).TooDeep) :
          (unaryAt (levels + 1) text).TooDeep :=
        unaryAt_tooDeep_of_operandAt (operandAt_tooDeep (factorAt_tooDeep_of_group opening halts))
      show (unaryAt (levels + 1) text).TooDeep
      cases levels with
      | zero => exact asOperand (operandAt_zero inner)
      | succ levels =>
        cases stopsShort_or_tooDeep disjunction (levels + 1) with
        | inr halts => exact asOperand halts
        | inl short =>
          rw [unaryAt_of_opening opening (Nat.succ_pos levels) short]
          exact bracketed_tooDeep (spaced_predicateAt_tooDeep (Nat.succ_pos levels) inside)
  | @membership depth text start mid word set rest name items gap field between keyed listed =>
    cases levels with
    | zero => exact unaryAt_zero text
    | succ levels =>
      have items := itemSet_tooDeep listed (Nat.succ_pos levels) deep
      obtain ⟨other, decides⟩ := unaryAt_of_membershipKeyword levels gap field between keyed
      show (unaryAt (levels + 1) text).TooDeep
      rw [decides]
      exact (items.bind _).orElse _
  | @comparison depth depth' text mid sign next rest left right op before gap signed after =>
    cases levels with
    | zero => exact unaryAt_zero text
    | succ levels =>
      show (unaryAt (levels + 1) text).TooDeep
      by_cases early : levels + 1 ≤ depth
      · exact unaryAt_tooDeep_of_operandAt (rankedOperand_tooDeep before early)
      · have within := Nat.lt_of_not_le early
        have second : (operandAt (levels + 1) next).TooDeep :=
          rankedOperand_tooDeep after (by omega)
        obtain ⟨c, tail, skipped, begins⟩ := after.begins
        rw [unaryAt_of_comparison before within gap signed,
          comparison_of_sign before within gap signed skipped begins]
        exact ((spaced_operandAt_tooDeep second).map _).orElse _
  | ofUnary unary ih => exact chain_tooDeep (ih deep)
  | ofConjunction conjunction ih => exact chain_tooDeep (ih deep)
  | @and depth depth' text mid sign next rest left right before gap signed after ihBefore ihAfter =>
    by_cases early : levels ≤ depth
    · exact ihBefore early
    · obtain ⟨skipped, c, tail, rfl, begins⟩ := skip_connectiveSign gap signed
      have follows : Ended prolongsSum (Text.skipSeparators mid) :=
        skipped ▸ ended_cons.mpr (prolongsSum_of_begins (.inr ⟨.and, begins⟩))
      obtain ⟨behind, gapBefore, reads⟩ := readsPredicate before (Nat.lt_of_not_le early) follows
      have operator := (spaced_connectiveSign gap signed gapBefore).1
      have operand : (unaryAt levels (Text.skipSeparators next)).TooDeep := by
        rw [unaryAt_skip (by omega)]
        exact ihAfter (by omega)
      show (conjunctionAt levels text).TooDeep
      rw [reads]
      exact resume_tooDeep operator operand
  | @or depth depth' text mid sign next rest left right before gap signed after ihBefore ihAfter =>
    by_cases early : levels ≤ depth
    · exact ihBefore early
    · obtain ⟨skipped, c, tail, rfl, begins⟩ := skip_connectiveSign gap signed
      have follows : Ended prolongsConjunction (Text.skipSeparators mid) :=
        skipped ▸ ended_cons.mpr (prolongsConjunction_of_or begins)
      obtain ⟨behind, gapBefore, reads⟩ := readsPredicate before (Nat.lt_of_not_le early) follows
      have operator := (spaced_connectiveSign gap signed gapBefore).1
      have operand : (conjunctionAt levels (Text.skipSeparators next)).TooDeep := by
        rw [conjunctionAt_skip (by omega)]
        exact ihAfter (by omega)
      show (predicateAt levels text).TooDeep
      rw [reads]
      exact resume_tooDeep operator operand

/-! ## Whole texts -/

/-- What is said of a text that is nested too deeply. -/
theorem detail_tooDeep : Misreading.tooDeep.detail = "Nesting exceeds 64 levels" := by
  have digits : decimalText maxDepth = ['6', '4'] := by decide +kernel
  unfold Misreading.detail
  rw [digits]
  decide

/-- A text that the grammar has beyond the limit of depth is refused for its depth. -/
theorem readPredicate_tooDeep {text : String} {depth : Nat} {predicate : Expr}
    (found : Predicate .disjunction depth (Text.trim text.toList) predicate [])
    (deep : maxDepth < depth) :
    ∃ error, readPredicate text = .error error ∧ error.cause = .tooDeep := by
  have halts : (predicateAt (maxDepth + 1) (Text.trim text.toList)).TooDeep :=
    rankedPredicate_tooDeep found deep
  obtain ⟨rest, halts⟩ := halts
  rw [readPredicate, halts]
  exact ⟨_, rfl, rfl⟩

/-- **The limit of nesting is exact, and it is the error that is reported.** A text that the grammar
has at some depth is read if the depth is at most 64; if it is greater, the text is refused with the
message for its depth. -/
theorem readPredicate_within_depth {text : String} {depth : Nat} {predicate : Expr}
    (found : Predicate .disjunction depth (Text.trim text.toList) predicate []) :
    (depth ≤ 64 → readPredicate text = .ok predicate) ∧
    (64 < depth → ∃ error, readPredicate text = .error error ∧
      error.cause.detail = "Nesting exceeds 64 levels") := by
  refine ⟨fun deep => readPredicate_of_predicate found deep, fun deep => ?_⟩
  obtain ⟨error, refused, cause⟩ := readPredicate_tooDeep found deep
  refine ⟨error, refused, ?_⟩
  rw [cause]
  exact detail_tooDeep

/-- A comparison that is denied some number of times. -/
def denied (n : Nat) : String := String.ofList (List.replicate n '!' ++ ['a', '=', '1'])

/-- The grammar has a denied comparison as deep as it is denied. -/
theorem exists_denied (n : Nat) :
    ∃ predicate, Predicate .disjunction n (Text.trim (denied n).toList) predicate [] := by
  have name : Field ['a', '=', '1'] "a" ['=', '1'] :=
    fieldName_eq_done.mp (by rfl)
  have one : Literal ['1'] (.int ⟨1, by decide, by decide⟩) [] :=
    .integer (List.cons_ne_nil 1 []) rfl (ended_nil _) rfl
  have sign : ComparisonSign .eq ['=', '1'] ['1'] := ⟨"=", by decide, rfl⟩
  have comparison : Predicate .unary 0 ['a', '=', '1'] _ [] :=
    .comparison (name.operand (Gap.refl _)) (Gap.refl _) sign
      (.ofProduct (.ofFactor (.literal (Gap.refl _) one)))
  have denials : ∃ predicate,
      Predicate .unary n (List.replicate n '!' ++ ['a', '=', '1']) predicate [] := by
    induction n with
    | zero => exact ⟨_, comparison⟩
    | succ n ih =>
      obtain ⟨operand, found⟩ := ih
      exact ⟨_, .denial (Gap.refl _) (.inl rfl) found⟩
  obtain ⟨predicate, found⟩ := denials
  have begins : Text.BeginsSolid (denied n).toList := by
    rw [denied, String.toList_ofList]
    cases n with
    | zero => exact ⟨'a', _, rfl, by decide⟩
    | succ n => exact ⟨'!', _, rfl, by decide⟩
  have ends : Text.EndsSolid (denied n).toList := by
    rw [denied, String.toList_ofList]
    exact ⟨List.replicate n '!' ++ ['a', '='], '1', by simp, by decide⟩
  rw [Text.trim_eq_self begins ends, denied, String.toList_ofList]
  exact ⟨predicate, .ofConjunction (.ofUnary found)⟩

/-- Sixty-four denials are read and one more is refused. -/
theorem readPredicate_within_depth_denied :
    (∃ predicate, Predicate .disjunction 64 (Text.trim (denied 64).toList) predicate [] ∧
      readPredicate (denied 64) = .ok predicate) ∧
    (∃ predicate, Predicate .disjunction 65 (Text.trim (denied 65).toList) predicate [] ∧
      ∃ error, readPredicate (denied 65) = .error error ∧
        error.cause.detail = "Nesting exceeds 64 levels") := by
  obtain ⟨shallow, foundShallow⟩ := exists_denied 64
  obtain ⟨deep, foundDeep⟩ := exists_denied 65
  exact ⟨⟨shallow, foundShallow, (readPredicate_within_depth foundShallow).1 (by decide)⟩,
    ⟨deep, foundDeep, (readPredicate_within_depth foundDeep).2 (by decide)⟩⟩

end ColumnQuery.Grammar
