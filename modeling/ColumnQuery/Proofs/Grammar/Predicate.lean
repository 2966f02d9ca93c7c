import ColumnQuery.Proofs.Grammar.Operand
import ColumnQuery.Proofs.Text.Blank

/-!
# Predicates are read as the grammar has them

With some levels left, a predicate is read only if the grammar has it with less depth than that, and
whenever the grammar has it so and what follows does not go on with it. The readers of a predicate
are tried in turn, and each text that begins a predicate of one kind is missed by the readers before
that kind: in particular an operand read from the front of a predicate never ends before a closing
bracket (`stopsShort`), so a group of a predicate is never taken for a group of an operand.
-/
namespace ColumnQuery.Grammar

open Outcome Phrase

/-- A conjunction of predicates. -/
def conjunctionAt (levels : Nat) : Reader Expr :=
  chain (spaced (connectiveSign .and)) (unaryAt levels) .logical

/-- A predicate without connectives is read alike from either end of a gap. -/
theorem unaryAt_skip {levels : Nat} (left : 0 < levels) (text : List Char) :
    unaryAt levels (Text.skipSeparators text) = unaryAt levels text := by
  cases levels with
  | zero => contradiction
  | succ levels =>
    unfold unaryAt
    rw [skipSeparators_skipSeparators]

/-- A conjunction is read alike from either end of a gap. -/
theorem conjunctionAt_skip {levels : Nat} (left : 0 < levels) (text : List Char) :
    conjunctionAt levels (Text.skipSeparators text) = conjunctionAt levels text :=
  chain_congr (unaryAt_skip left text)

/-- A predicate is read alike from either end of a gap. -/
theorem predicateAt_skip {levels : Nat} (left : 0 < levels) (text : List Char) :
    predicateAt levels (Text.skipSeparators text) = predicateAt levels text :=
  chain_congr (conjunctionAt_skip left text)

/-- A membership is read alike from either end of a gap. -/
theorem membership_skip (operand : Reader Expr) (text : List Char) :
    membership operand (Text.skipSeparators text) = membership operand text := by
  unfold membership
  rw [spaced_skip]

/-- A comparison is read alike from either end of a gap. -/
theorem comparison_skip (operand : Reader Expr) (text : List Char) :
    comparison operand (Text.skipSeparators text) = comparison operand text := by
  unfold comparison
  rw [spaced_skip]

/-! ## Only predicates are read -/

/-- The grammar has a predicate that fits the levels, with a gap after it. -/
def HasPredicate (levels : Nat) (rank : PredicateRank) (text : List Char) (predicate : Expr)
    (rest : List Char) : Prop :=
  ∃ depth < levels, ∃ mid, Predicate rank depth text predicate mid ∧ Gap mid rest

/-- A rule that combines predicates by a connective combines what fits the levels. -/
theorem HasPredicate.link {levels : Nat} {rank rank' : PredicateRank} {op : Connective}
    (rule : ∀ {depth depth' : Nat} {text mid sign next rest : List Char} {left right : Expr},
      Predicate rank depth text left mid → Gap mid sign → ConnectiveSign op sign next →
        Predicate rank' depth' next right rest →
          Predicate rank (max depth depth') text (.logical op left right) rest)
    {text mid next rest : List Char} {left right : Expr} {found : Connective}
    (before : HasPredicate levels rank text left mid)
    (signed : spaced (connectiveSign op) mid = .done found next)
    (after : HasPredicate levels rank' next right rest) :
    HasPredicate levels rank text (.logical found left right) rest := by
  obtain ⟨depth, small, close, before, gap⟩ := before
  obtain ⟨depth', small', close', after, gap'⟩ := after
  obtain ⟨behind, read, rfl⟩ := spaced_eq_done signed
  obtain ⟨rfl, sign⟩ := connectiveSign_eq_done.mp read
  have between := gap.trans (gap_skipSeparators mid)
  have further := after.afterGap (gap_skipSeparators behind)
  exact ⟨max depth depth', by omega, close', rule before between sign further, gap'⟩

/-- Where predicates without connectives are read only if the grammar has them, so are
conjunctions. -/
theorem hasPredicate_of_conjunctionAt {levels : Nat} (unaries : ∀ text predicate rest,
      unaryAt levels text = .done predicate rest → HasPredicate levels .unary text predicate rest)
    {text rest : List Char} {predicate : Expr}
    (reads : conjunctionAt levels text = .done predicate rest) :
    HasPredicate levels .conjunction text predicate rest := by
  refine chain_induction (HasPredicate levels .conjunction) ?_ ?_ reads
  · intro text predicate rest reads
    obtain ⟨depth, small, mid, unary, gap⟩ := unaries text predicate rest reads
    exact ⟨depth, small, mid, .ofUnary unary, gap⟩
  · intro text left mid op next right rest before signed reads
    exact before.link .and signed (unaries next right rest reads)

/-- Where predicates without connectives are read only if the grammar has them, so are all. -/
theorem hasPredicate_of_predicateAt_aux {levels : Nat} (unaries : ∀ text predicate rest,
      unaryAt levels text = .done predicate rest → HasPredicate levels .unary text predicate rest)
    {text rest : List Char} {predicate : Expr}
    (reads : predicateAt levels text = .done predicate rest) :
    HasPredicate levels .disjunction text predicate rest := by
  refine chain_induction (HasPredicate levels .disjunction) ?_ ?_ reads
  · intro text predicate rest reads
    obtain ⟨depth, small, mid, conjunction, gap⟩ := hasPredicate_of_conjunctionAt unaries reads
    exact ⟨depth, small, mid, .ofConjunction conjunction, gap⟩
  · intro text left mid op next right rest before signed reads
    exact before.link .or signed (hasPredicate_of_conjunctionAt unaries reads)

/-- A membership is read only if the grammar has it. -/
theorem hasPredicate_of_membership {levels : Nat} {text start rest : List Char} {predicate : Expr}
    (left : 0 < levels) (gap : Gap text start)
    (reads : membership (operandAt levels) start = .done predicate rest) :
    HasPredicate levels .unary text predicate rest := by
  obtain ⟨name, word, named, reads⟩ := bind_eq_done.mp reads
  obtain ⟨_, set, worded, reads⟩ := bind_eq_done.mp reads
  obtain ⟨items, close, listed, made⟩ := bind_eq_done.mp reads
  cases made
  obtain ⟨mid, field, rfl⟩ := spaced_eq_done named
  obtain ⟨depth, small, items⟩ := itemSet_of_eq_done left listed
  exact ⟨depth, small, close, .membership (gap.trans (gap_skipSeparators start))
    (fieldName_eq_done.mp field) (gap_skipSeparators mid) (keyword_eq_done.mp worded)
    (items.afterGap (gap_skipSeparators set)), gap_skipSeparators close⟩

/-- A comparison is read only if the grammar has it. -/
theorem hasPredicate_of_comparison {levels : Nat} {text start rest : List Char} {predicate : Expr}
    (gap : Gap text start) (reads : comparison (operandAt levels) start = .done predicate rest) :
    HasPredicate levels .unary text predicate rest := by
  obtain ⟨left, sign, readsLeft, reads⟩ := bind_eq_done.mp reads
  obtain ⟨op, next, signed, reads⟩ := bind_eq_done.mp reads
  obtain ⟨right, readsRight, rfl⟩ := map_eq_done.mp reads
  obtain ⟨mid, innerLeft, rfl⟩ := spaced_eq_done readsLeft
  obtain ⟨close, innerRight, rfl⟩ := spaced_eq_done readsRight
  obtain ⟨depth, small, before⟩ := hasOperand_of_operandAt innerLeft
  obtain ⟨depth', small', after⟩ := hasOperand_of_operandAt innerRight
  exact ⟨max depth depth', by omega, close,
    .comparison (before.afterGap (gap.trans (gap_skipSeparators start))) (gap_skipSeparators mid)
      (comparisonSign_of_eq_done signed) (after.afterGap (gap_skipSeparators next)),
    gap_skipSeparators close⟩

/-- A predicate without connectives is read only if the grammar has it. -/
theorem hasPredicate_of_unaryAt (levels : Nat) (text : List Char) (predicate : Expr)
    (rest : List Char) (reads : unaryAt levels text = .done predicate rest) :
    HasPredicate levels .unary text predicate rest := by
  induction levels generalizing text predicate rest with
  | zero => cases reads
  | succ levels ih =>
    have gap := gap_skipSeparators text
    unfold unaryAt at reads
    rcases orElse_eq_done.mp reads with denial | ⟨_, reads⟩
    · obtain ⟨operand, denied, rfl⟩ := map_eq_done.mp denial
      obtain ⟨_, inner, sign, unary⟩ := bind_eq_done.mp denied
      obtain ⟨depth, small, mid, found, close⟩ := ih inner operand rest unary
      exact ⟨depth + 1, by omega, mid, .denial gap (denialSign_eq_done.mp sign) found, close⟩
    rcases orElse_eq_done.mp reads with found | ⟨_, reads⟩
    · exact hasPredicate_of_membership (Nat.succ_pos levels) gap found
    rcases orElse_eq_done.mp reads with found | ⟨_, reads⟩
    · exact hasPredicate_of_comparison gap found
    · obtain ⟨_, inner, opening, group⟩ := bind_eq_done.mp reads
      obtain ⟨value, close, inside, closed⟩ := bind_eq_done.mp group
      obtain ⟨_, closing, rfl⟩ := map_eq_done.mp closed
      obtain ⟨mid, disjunction, rfl⟩ := spaced_eq_done inside
      rw [char_eq_done.mp opening] at gap
      obtain ⟨depth, small, behind, found, close⟩ := hasPredicate_of_predicateAt_aux ih disjunction
      have closingGap := close.trans (gap_skipSeparators mid)
      rw [char_eq_done.mp closing] at closingGap
      exact ⟨depth + 1, by omega, rest,
        .group gap (found.afterGap (gap_skipSeparators inner)) closingGap, Gap.refl rest⟩

/-- A predicate is read only if the grammar has it. -/
theorem hasPredicate_of_predicateAt {levels : Nat} {text rest : List Char} {predicate : Expr}
    (reads : predicateAt levels text = .done predicate rest) :
    HasPredicate levels .disjunction text predicate rest :=
  hasPredicate_of_predicateAt_aux (hasPredicate_of_unaryAt levels) reads

/-! ## A predicate is no operand -/

/-- Either no operand is read from a text, or one is read and a relation follows it. -/
def StopsShort (levels : Nat) (text : List Char) : Prop :=
  (operandAt levels text).Misses ∨ ∃ operand mid c tail, operandAt levels text = .done operand mid ∧
    Text.skipSeparators mid = c :: tail ∧ beginsRelation c = true

/-- An operand that a relation follows is read whole. -/
theorem operandAt_before_relation {depth levels : Nat} {text mid sign : List Char} {operand : Expr}
    {c : Char} (found : Operand .sum depth text operand mid) (deep : depth < levels)
    (gap : Gap mid (c :: sign)) (relation : beginsRelation c = true) :
    operandAt levels text = .done operand mid ∧ Text.skipSeparators mid = c :: sign := by
  have skipped := gap.skip_cons (isSeparator_of_begins (.inl relation))
  refine ⟨operandAt_eq_done found deep ?_, skipped⟩
  rw [skipped]
  exact ended_cons.mpr (prolongsSum_of_begins (.inl relation))

/-- A bracket is not read as a group of an operand if what stands inside stops short. -/
theorem operandAt_misses_of_group {levels : Nat} {text inner : List Char}
    (opening : Gap text ('(' :: inner)) (left : 0 < levels) (short : StopsShort levels inner) :
    (operandAt (levels + 1) text).Misses := by
  refine operandAt_misses (factorAt_misses opening (by decide) (opposite_misses (by decide))
    (bracketed_misses_of_inside ?_) (literal_misses_of_head (by decide) (by decide) (by decide))
    (fieldName_misses_of_head (by decide) (by decide)))
  rcases short with misses | ⟨operand, mid, c, tail, reads, skipped, relation⟩
  · exact .inl (spaced_misses ((operandAt_skip left inner).symm ▸ misses))
  · refine .inr ⟨operand, c :: tail, ?_, ?_⟩
    · rw [spaced_of_done ((operandAt_skip left inner).trans reads), skipped]
    · rintro _ same
      cases same
      revert relation
      decide

/-- The field of a membership is read as an operand, which the keyword ends. -/
theorem operandAt_of_membership {levels : Nat} {text start mid word set : List Char}
    {name : String} (left : 0 < levels) (gap : Gap text start) (field : Field start name mid)
    (between : Gap mid word) (keyed : Keyword "in" word set) :
    operandAt levels text = .done (.field name) mid ∧ Text.skipSeparators mid = word := by
  obtain ⟨c, tail, rfl, relation⟩ := keyed.beginsRelation
  exact operandAt_before_relation (field.operand gap) left between relation

/-- The field of a membership stops short. -/
theorem stopsShort_of_membership {levels : Nat} {text start mid word set : List Char}
    {name : String} (left : 0 < levels) (gap : Gap text start) (field : Field start name mid)
    (between : Gap mid word) (keyed : Keyword "in" word set) : StopsShort levels text := by
  obtain ⟨reads, skipped⟩ := operandAt_of_membership left gap field between keyed
  obtain ⟨c, tail, rfl, relation⟩ := keyed.beginsRelation
  exact .inr ⟨_, _, c, tail, reads, skipped, relation⟩

/-- The first operand of a comparison stops short. -/
theorem stopsShort_of_comparison {depth levels : Nat} {text mid sign next : List Char}
    {left : Expr} {op : Comparison} (before : Operand .sum depth text left mid)
    (deep : depth < levels) (gap : Gap mid sign) (signed : ComparisonSign op sign next) :
    StopsShort levels text := by
  obtain ⟨c, tail, rfl, relation, _⟩ := signed.begins
  obtain ⟨reads, skipped⟩ := operandAt_before_relation before deep gap relation
  exact .inr ⟨_, _, c, tail, reads, skipped, relation⟩

/-- What is read as an operand from the front of a predicate stops short. -/
theorem stopsShort {rank : PredicateRank} {depth levels : Nat} {text rest : List Char}
    {predicate : Expr} (found : Predicate rank depth text predicate rest) (deep : depth < levels) :
    StopsShort levels text := by
  induction found generalizing levels with
  | denial gap sign unary ih =>
    obtain ⟨levels, rfl⟩ := Nat.exists_eq_succ_of_ne_zero (Nat.ne_zero_of_lt deep)
    exact .inl (operandAt_misses_of_denial gap sign)
  | group opening disjunction closing ih =>
    obtain ⟨levels, rfl⟩ := Nat.exists_eq_succ_of_ne_zero (Nat.ne_zero_of_lt deep)
    exact .inl (operandAt_misses_of_group opening (by omega) (ih (by omega)))
  | membership gap field between word listed =>
    exact stopsShort_of_membership (Nat.zero_lt_of_lt deep) gap field between word
  | comparison before gap signed after =>
    have within := Nat.lt_of_le_of_lt (Nat.le_max_left _ _) deep
    exact stopsShort_of_comparison before within gap signed
  | ofUnary unary ih => exact ih deep
  | ofConjunction conjunction ih => exact ih deep
  | and before gap signed after ih => exact ih (by omega)
  | or before gap signed after ih => exact ih (by omega)

/-! ## Predicates are read -/

/-- After the sign of a denial its operand decides. -/
theorem unaryAt_of_denialSign (levels : Nat) {text start inner : List Char} (gap : Gap text start)
    (sign : DenialSign start inner) :
    ∃ other : Unit → Outcome Expr,
      unaryAt (levels + 1) text = ((unaryAt levels inner).map .not).orElse other := by
  have skipped : Text.skipSeparators text = start := by
    rcases sign with rfl | word
    · exact gap.skip_cons (by decide)
    · obtain ⟨c, tail, rfl, letter, _⟩ := word.head (by decide)
      exact gap.skip_cons (isSeparator_of_isIdentChar (isIdentChar_of_isIdentStart letter))
  have signed : denialSign start = .done () inner := denialSign_eq_done.mpr sign
  simp only [unaryAt, skipped, preceded, signed, done_bind]
  exact ⟨_, rfl⟩

/-- A denial is read where its operand is. -/
theorem unaryAt_denial {levels : Nat} {text start inner rest : List Char} {operand : Expr}
    (gap : Gap text start) (sign : DenialSign start inner)
    (reads : unaryAt levels inner = .done operand rest) :
    unaryAt (levels + 1) text = .done (.not operand) rest := by
  obtain ⟨_, decides⟩ := unaryAt_of_denialSign levels gap sign
  rw [decides, reads, done_map, done_orElse]

/-- No denial is read where an operand is. -/
theorem denialSign_misses_of_operandAt {levels : Nat} {text rest : List Char} {operand : Expr}
    (reads : operandAt levels text = .done operand rest) :
    (denialSign (Text.skipSeparators text)).Misses := by
  refine denialSign_misses fun inner sign => ?_
  cases levels with
  | zero => cases reads
  | succ levels =>
    have misses : (operandAt (levels + 1) text).Misses :=
      operandAt_misses_of_denial (gap_skipSeparators text) sign
    rw [reads] at misses
    exact not_misses_done _ _ misses

/-- After the keyword of a membership its set decides. -/
theorem unaryAt_of_membershipKeyword (levels : Nat) {text start mid word set : List Char}
    {name : String} (gap : Gap text start) (field : Field start name mid)
    (between : Gap mid word) (keyed : Keyword "in" word set) :
    ∃ other : Unit → Outcome Expr, unaryAt (levels + 1) text =
      ((itemSet (operandAt (levels + 1)) (Text.skipSeparators set)).bind fun items rest =>
        .done (.membership (.field name) (.list items)) (Text.skipSeparators rest)).orElse
          other := by
  have readsField : fieldName start = .done name mid := fieldName_eq_done.mpr field
  have readsWord : keyword "in" word = .done () set := keyword_eq_done.mpr keyed
  obtain ⟨reads, skippedWord⟩ :=
    operandAt_of_membership (Nat.succ_pos levels) gap field between keyed
  have noDenial := denialSign_misses_of_operandAt reads
  obtain ⟨c, tail, rfl, begins⟩ := field.begins
  have skipped := gap.skip_cons (isSeparator_of_beginsOperand (beginsOperand_of_token begins))
  have decides : membership (operandAt (levels + 1)) (Text.skipSeparators text) =
      (itemSet (operandAt (levels + 1)) (Text.skipSeparators set)).bind fun items rest =>
        .done (.membership (.field name) (.list items)) (Text.skipSeparators rest) := by
    rw [← skipped] at readsField
    simp only [membership, spaced_skip, spaced_of_done readsField, done_bind, skippedWord,
      readsWord]
  simp only [unaryAt, preceded]
  rw [((noDenial.bind _).map _).orElse, decides]
  exact ⟨_, rfl⟩

/-- A membership is read. -/
theorem unaryAt_membership {depth levels : Nat} {text start mid word set rest : List Char}
    {name : String} {items : List Expr} (deep : depth < levels + 1) (gap : Gap text start)
    (field : Field start name mid) (between : Gap mid word) (keyed : Keyword "in" word set)
    (listed : ItemSet depth set items rest) :
    unaryAt (levels + 1) text =
      .done (.membership (.field name) (.list items)) (Text.skipSeparators rest) := by
  obtain ⟨_, decides⟩ := unaryAt_of_membershipKeyword levels gap field between keyed
  rw [decides, itemSet_eq_done listed deep, done_bind, done_orElse]

/-- A membership is missed where no field with the keyword after it stands. -/
theorem membership_misses_of_not {operand : Reader Expr} {text : List Char}
    (other : ∀ name mid set, Field (Text.skipSeparators text) name mid →
      ¬ Keyword "in" (Text.skipSeparators mid) set) : (membership operand text).Misses := by
  unfold membership
  cases readsField : fieldName (Text.skipSeparators text) with
  | miss rest expected => exact (spaced_misses ⟨rest, expected, readsField⟩).bind _
  | halt rest cause => exact absurd ⟨rest, cause, readsField⟩ (fieldName_not_halts _)
  | done name mid =>
    rw [spaced_of_done readsField, done_bind]
    have field := fieldName_eq_done.mp readsField
    exact (keyword_misses fun set => other name mid set field).bind _

/-- A membership is missed where a comparison stands. -/
theorem membership_misses {depth levels : Nat} {text mid sign next : List Char} {left : Expr}
    {op : Comparison} (before : Operand .sum depth text left mid) (deep : depth < levels)
    (gap : Gap mid sign) (signed : ComparisonSign op sign next) :
    (membership (operandAt levels) text).Misses := by
  obtain ⟨c, tail, rfl, relation, noLetter⟩ := signed.begins
  obtain ⟨readsLeft, skippedLeft⟩ := operandAt_before_relation before deep gap relation
  refine membership_misses_of_not fun name close set field keyed => ?_
  -- The operand and the field are read from the same text, so the same relation follows both.
  obtain ⟨readsName, _⟩ := operandAt_of_membership (Nat.zero_lt_of_lt deep)
    (gap_skipSeparators text) field (gap_skipSeparators close) keyed
  rw [readsLeft] at readsName
  cases readsName
  obtain ⟨d, _, begins, letter, _⟩ := keyed.head (by decide)
  rw [skippedLeft] at begins
  cases begins
  rw [noLetter] at letter
  contradiction

/-- After the sign of a comparison its second operand decides. -/
theorem comparison_of_sign {depth levels : Nat} {text mid sign next tail : List Char}
    {left : Expr} {op : Comparison} {c : Char} (before : Operand .sum depth text left mid)
    (deep : depth < levels) (gap : Gap mid sign) (signed : ComparisonSign op sign next)
    (skippedNext : Text.skipSeparators next = c :: tail) (begins : beginsOperand c = true) :
    comparison (operandAt levels) text =
      (spaced (operandAt levels) next).map fun right => .compare op left right := by
  have ended : Ended prolongsSign next := by
    refine Ended.ofSkip ?_ (by decide)
    rw [skippedNext]
    apply ended_cons.mpr
    apply Bool.eq_false_iff.mpr
    intro inside
    simp only [prolongsSign, Bool.or_eq_true, beq_iff_eq] at inside
    rcases inside with rfl | rfl <;> revert begins <;> decide
  have readsSign := comparisonSign_eq_done signed ended
  obtain ⟨d, behind, rfl, relation, _⟩ := signed.begins
  obtain ⟨readsLeft, skipped⟩ := operandAt_before_relation before deep gap relation
  have endedLeft : Ended prolongsSum (Text.skipSeparators mid) := by
    rw [skipped]
    exact ended_cons.mpr (prolongsSum_of_begins (.inl relation))
  have spacedLeft := spaced_operandAt before deep endedLeft
  rw [skipped] at spacedLeft
  simp only [comparison, spacedLeft, done_bind, readsSign]

/-- Two operands with the sign of a comparison between are read. -/
theorem comparison_eq_done {depth depth' levels : Nat} {text mid sign next rest : List Char}
    {left right : Expr} {op : Comparison} (before : Operand .sum depth text left mid)
    (deep : max depth depth' < levels) (gap : Gap mid sign) (signed : ComparisonSign op sign next)
    (after : Operand .sum depth' next right rest)
    (last : Ended prolongsSum (Text.skipSeparators rest)) :
    comparison (operandAt levels) text =
      .done (.compare op left right) (Text.skipSeparators rest) := by
  obtain ⟨c, tail, skipped, begins⟩ := after.begins
  have spacedRight := spaced_operandAt after (by omega : depth' < levels) last
  have within : depth < levels := by omega
  rw [comparison_of_sign before within gap signed skipped begins, spacedRight, done_map]

/-- A text that begins with the first operand of a comparison is read as neither a denial nor a
membership. -/
theorem unaryAt_of_comparison {depth levels : Nat} {text mid sign next : List Char}
    {left : Expr} {op : Comparison} (before : Operand .sum depth text left mid)
    (deep : depth < levels + 1) (gap : Gap mid sign) (signed : ComparisonSign op sign next) :
    unaryAt (levels + 1) text = (comparison (operandAt (levels + 1)) text).orElse fun _ =>
      bracketed (spaced (predicateAt levels)) (Text.skipSeparators text) := by
  have noMembership := membership_misses before deep gap signed
  obtain ⟨c, tail, rfl, relation, _⟩ := signed.begins
  obtain ⟨readsLeft, _⟩ := operandAt_before_relation before deep gap relation
  have noDenial := denialSign_misses_of_operandAt readsLeft
  simp only [unaryAt, preceded, membership_skip, comparison_skip]
  rw [((noDenial.bind _).map _).orElse, noMembership.orElse]
  rfl

/-- A comparison is read where nothing goes on with its second operand. -/
theorem unaryAt_comparison {depth depth' levels : Nat} {text mid sign next rest : List Char}
    {left right : Expr} {op : Comparison} (before : Operand .sum depth text left mid)
    (deep : max depth depth' < levels + 1) (gap : Gap mid sign)
    (signed : ComparisonSign op sign next) (after : Operand .sum depth' next right rest)
    (last : Ended prolongsSum (Text.skipSeparators rest)) :
    unaryAt (levels + 1) text = .done (.compare op left right) (Text.skipSeparators rest) := by
  have within : depth < levels + 1 := by omega
  rw [unaryAt_of_comparison before within gap signed,
    comparison_eq_done before deep gap signed after last, done_orElse]

/-- A bracket whose inside stops short is read as a group of a predicate and nothing else. -/
theorem unaryAt_of_opening {levels : Nat} {text inner : List Char}
    (opening : Gap text ('(' :: inner)) (left : 0 < levels) (short : StopsShort levels inner) :
    unaryAt (levels + 1) text = bracketed (spaced (predicateAt levels)) ('(' :: inner) := by
  have noDenial : (denialSign ('(' :: inner)).Misses := by
    refine denialSign_misses ?_
    rintro rest (same | word)
    · cases same
    · obtain ⟨c, _, same, letter, _⟩ := word.head (by decide)
      cases same
      revert letter
      decide
  have noMembership : (membership (operandAt (levels + 1)) ('(' :: inner)).Misses :=
    Misses.bind (spaced_misses (fieldName_misses_of_head (by decide) (by decide))) _
  have noComparison : (comparison (operandAt (levels + 1)) ('(' :: inner)).Misses :=
    Misses.bind (spaced_misses (operandAt_misses_of_group (Gap.refl _) left short)) _
  simp only [unaryAt, opening.skip_cons (by decide), preceded]
  rw [((noDenial.bind _).map _).orElse, noMembership.orElse, noComparison.orElse]
  rfl

/-- A group is read as what stands inside. -/
theorem unaryAt_group {levels : Nat} {text inner close rest : List Char} {predicate : Expr}
    (opening : Gap text ('(' :: inner)) (left : 0 < levels) (short : StopsShort levels inner)
    (reads : predicateAt levels inner = .done predicate close) (closing : Gap close (')' :: rest)) :
    unaryAt (levels + 1) text = .done predicate rest := by
  have inside : spaced (predicateAt levels) inner = .done predicate (')' :: rest) := by
    rw [← closing.skip_cons (by decide)]
    exact spaced_of_done ((predicateAt_skip left inner).trans reads)
  rw [unaryAt_of_opening opening left short, bracketed_of_done inside]

/-- What must not follow a predicate of a rank, so that its last part is read as it stands. -/
def prolongsLastPart : PredicateRank → Char → Bool
  | .unary | .conjunction => prolongsSum
  | .disjunction => prolongsConjunction

/-- A predicate of a rank is read from a text, and reading goes on after it with that rank. -/
def ReadsPredicate (levels : Nat) (text : List Char) (predicate : Expr) (rest : List Char) :
    PredicateRank → Prop
  | .unary => unaryAt levels text = .done predicate rest
  | .conjunction => conjunctionAt levels text =
      resume (spaced (connectiveSign .and)) (unaryAt levels) .logical predicate rest
  | .disjunction => predicateAt levels text =
      resume (spaced (connectiveSign .or)) (conjunctionAt levels) .logical predicate rest

/-- The sign of a connective is missed on a text that begins otherwise. -/
theorem connectiveSign_misses_of_head {op : Connective} {text : List Char}
    (other : Ended (beginsConnective op) text) : (connectiveSign op text).Misses := by
  refine connectiveSign_misses fun rest sign => ?_
  obtain ⟨c, tail, rfl, begins⟩ := sign.begins
  rw [ended_cons.mp other] at begins
  contradiction

/-- A conjunction ends where nothing goes on with it. -/
theorem conjunctionAt_of_reads {levels : Nat} {text rest : List Char} {predicate : Expr}
    (reads : ReadsPredicate levels text predicate rest .conjunction)
    (last : Ended prolongsConjunction (Text.skipSeparators rest)) :
    conjunctionAt levels text = .done predicate rest := by
  refine reads.trans (resume_of_misses (spaced_misses (connectiveSign_misses_of_head ?_)))
  exact last.mono fun c begins => by simp [prolongsConjunction, begins]

/-- A disjunction ends where nothing goes on with it. -/
theorem predicateAt_of_reads {levels : Nat} {text rest : List Char} {predicate : Expr}
    (reads : ReadsPredicate levels text predicate rest .disjunction)
    (last : Ended prolongsDisjunction (Text.skipSeparators rest)) :
    predicateAt levels text = .done predicate rest := by
  refine reads.trans (resume_of_misses (spaced_misses (connectiveSign_misses_of_head ?_)))
  exact last.mono fun c begins => by simp [prolongsDisjunction, begins]

/-- After a gap the sign of a connective stands first. -/
theorem skip_connectiveSign {op : Connective} {text sign rest : List Char} (gap : Gap text sign)
    (signed : ConnectiveSign op sign rest) :
    Text.skipSeparators text = sign ∧
      ∃ c tail, sign = c :: tail ∧ beginsConnective op c = true := by
  obtain ⟨c, tail, rfl, begins⟩ := signed.begins
  exact ⟨gap.skip_cons (isSeparator_of_begins (.inr ⟨op, begins⟩)), c, tail, rfl, begins⟩

/-- The sign of a connective is read even if some of the gap before it was read already. -/
theorem spaced_connectiveSign {op : Connective} {text mid sign rest : List Char}
    (gap : Gap text sign) (signed : ConnectiveSign op sign rest) (further : Gap text mid) :
    spaced (connectiveSign op) mid = .done op (Text.skipSeparators rest) ∧ Takes mid rest := by
  have skipped : Text.skipSeparators mid = sign :=
    further.skip.symm.trans (skip_connectiveSign gap signed).1
  constructor
  · apply spaced_of_done
    rw [skipped]
    exact connectiveSign_eq_done.mpr ⟨rfl, signed⟩
  · exact (skipped ▸ gap_skipSeparators mid).takes signed.takes

/-- Whatever the grammar has as a predicate is read so, if it fits the levels and what follows does
not prolong its last part. Separators after it may be read with it. -/
theorem readsPredicate {rank : PredicateRank} {depth levels : Nat} {text rest : List Char}
    {predicate : Expr} (found : Predicate rank depth text predicate rest) (deep : depth < levels)
    (last : Ended (prolongsLastPart rank) (Text.skipSeparators rest)) :
    ∃ close, Gap rest close ∧ ReadsPredicate levels text predicate close rank := by
  induction found generalizing levels with
  | denial gap sign unary ih =>
    obtain ⟨levels, rfl⟩ := Nat.exists_eq_succ_of_ne_zero (Nat.ne_zero_of_lt deep)
    obtain ⟨close, gap', reads⟩ := ih (by omega : _ < levels) last
    exact ⟨close, gap', unaryAt_denial gap sign reads⟩
  | @group depth text inner close rest predicate opening disjunction closing ih =>
    obtain ⟨levels, rfl⟩ := Nat.exists_eq_succ_of_ne_zero (Nat.ne_zero_of_lt deep)
    have within : depth < levels := by omega
    have skipped := closing.skip_cons (by decide)
    obtain ⟨close', gap', reads⟩ := ih within (by rw [skipped]; exact ended_cons.mpr (by decide))
    have skipped' : Text.skipSeparators close' = ')' :: rest := gap'.skip.symm.trans skipped
    have reads := predicateAt_of_reads reads (by rw [skipped']; exact ended_cons.mpr (by decide))
    have short := stopsShort disjunction within
    have closed : Gap close' (')' :: rest) := skipped' ▸ gap_skipSeparators close'
    exact ⟨rest, Gap.refl rest, unaryAt_group opening (by omega) short reads closed⟩
  | @membership depth text start mid word set rest name items gap field between keyed listed =>
    obtain ⟨levels, rfl⟩ := Nat.exists_eq_succ_of_ne_zero (Nat.ne_zero_of_lt deep)
    exact ⟨_, gap_skipSeparators rest, unaryAt_membership deep gap field between keyed listed⟩
  | @comparison depth depth' text mid sign next rest left right op before gap signed after =>
    obtain ⟨levels, rfl⟩ := Nat.exists_eq_succ_of_ne_zero (Nat.ne_zero_of_lt deep)
    exact ⟨_, gap_skipSeparators rest, unaryAt_comparison before deep gap signed after last⟩
  | ofUnary unary ih =>
    obtain ⟨close, gap, reads⟩ := ih deep last
    exact ⟨close, gap, chain_of_done reads⟩
  | ofConjunction conjunction ih =>
    obtain ⟨close, gap, reads⟩ := ih deep (last.mono fun c inside => by
      simp only [prolongsLastPart] at inside
      simp [prolongsLastPart, prolongsConjunction, inside])
    exact ⟨close, gap, chain_of_done (conjunctionAt_of_reads reads (gap.skip ▸ last))⟩
  | @and depth depth' text mid sign next rest left right before gap signed after ihBefore ihAfter =>
    obtain ⟨skipped, c, tail, rfl, begins⟩ := skip_connectiveSign gap signed
    have follows : Ended prolongsSum (Text.skipSeparators mid) :=
      skipped ▸ ended_cons.mpr (prolongsSum_of_begins (.inr ⟨.and, begins⟩))
    obtain ⟨behind, gapBefore, reads⟩ := ihBefore (by omega : depth < levels) follows
    obtain ⟨close, gapAfter, readsAfter⟩ := ihAfter (by omega : depth' < levels) last
    obtain ⟨operator, takes⟩ := spaced_connectiveSign gap signed gapBefore
    have operand : unaryAt levels (Text.skipSeparators next) = .done right close :=
      (unaryAt_skip (by omega) next).trans readsAfter
    have shorter := ((takes.trans after.takes).trans_gap gapAfter).length_lt
    exact ⟨close, gapAfter, reads.trans (resume_of_done operator operand shorter)⟩
  | @or depth depth' text mid sign next rest left right before gap signed after ihBefore ihAfter =>
    obtain ⟨skipped, c, tail, rfl, begins⟩ := skip_connectiveSign gap signed
    have follows : Ended prolongsConjunction (Text.skipSeparators mid) :=
      skipped ▸ ended_cons.mpr (prolongsConjunction_of_or begins)
    obtain ⟨behind, gapBefore, reads⟩ := ihBefore (by omega : depth < levels) follows
    obtain ⟨close, gapAfter, readsAfter⟩ := ihAfter (by omega : depth' < levels)
      (last.mono fun _ => prolongsConjunction_of_sum)
    obtain ⟨operator, takes⟩ := spaced_connectiveSign gap signed gapBefore
    have operand : conjunctionAt levels (Text.skipSeparators next) = .done right close := by
      rw [conjunctionAt_skip (by omega)]
      exact conjunctionAt_of_reads readsAfter (gapAfter.skip ▸ last)
    have shorter := ((takes.trans after.takes).trans_gap gapAfter).length_lt
    exact ⟨close, gapAfter, reads.trans (resume_of_done operator operand shorter)⟩

/-- Whatever the grammar has as a predicate is read so, if it fits the levels and what follows does
not go on with it. -/
theorem predicateAt_of_predicate {depth levels : Nat} {text rest : List Char} {predicate : Expr}
    (found : Predicate .disjunction depth text predicate rest) (deep : depth < levels)
    (last : Ended prolongsDisjunction (Text.skipSeparators rest)) :
    ∃ close, Gap rest close ∧ predicateAt levels text = .done predicate close := by
  obtain ⟨close, gap, reads⟩ := readsPredicate found deep
    (last.mono fun c inside => by
      simp only [prolongsLastPart] at inside
      simp [prolongsDisjunction, inside])
  exact ⟨close, gap, predicateAt_of_reads reads (gap.skip ▸ last)⟩

/-! ## Whole texts -/

/-- A whole text is read exactly where a reader is done with nothing left. -/
theorem finish_eq_ok {α : Type} {text : List Char} {outcome : Outcome α} {value : α} :
    finish text outcome = .ok value ↔ outcome = .done value [] := by
  cases outcome with
  | done found rest => cases rest <;> simp [finish]
  | miss rest expected => simp [finish]
  | halt rest cause => cases cause <;> simp [finish]

/-- A text that the grammar has as a predicate within the limit of depth is read as that. -/
theorem readPredicate_of_predicate {text : String} {depth : Nat} {predicate : Expr}
    (found : Predicate .disjunction depth (Text.trim text.toList) predicate [])
    (deep : depth ≤ maxDepth) : readPredicate text = .ok predicate := by
  have within := Nat.lt_succ_of_le deep
  obtain ⟨close, gap, reads⟩ := predicateAt_of_predicate found within (ended_nil _)
  cases gap.eq_nil
  exact finish_eq_ok.mpr reads

/-- A text is read as a predicate only if the grammar has it within the limit of depth. -/
theorem predicate_of_readPredicate {text : String} {predicate : Expr}
    (reads : readPredicate text = .ok predicate) :
    ∃ depth ≤ maxDepth, Predicate .disjunction depth (Text.trim text.toList) predicate [] := by
  obtain ⟨depth, deep, close, found, gap⟩ := hasPredicate_of_predicateAt (finish_eq_ok.mp reads)
  obtain ⟨separators, blank, rfl⟩ := gap
  -- The text is trimmed, so no separators are left after the predicate.
  have nothing : separators ++ [] = [] := by
    refine Text.eq_nil_of_suffix_trim found.takes.suffix fun c member => ?_
    exact Text.isWhiteSpace_of_isSeparator (blank c (by simpa using member))
  rw [nothing] at found
  exact ⟨depth, Nat.le_of_lt_succ deep, found⟩

/-- The grammar has at most one tree for a whole text, at any depths. -/
theorem predicate_unique {depth depth' : Nat} {text : List Char} {predicate predicate' : Expr}
    (found : Predicate .disjunction depth text predicate [])
    (found' : Predicate .disjunction depth' text predicate' []) : predicate = predicate' := by
  obtain ⟨close, _, reads⟩ :=
    predicateAt_of_predicate found (by omega : depth < depth + depth' + 1) (ended_nil _)
  obtain ⟨close', _, reads'⟩ :=
    predicateAt_of_predicate found' (by omega : depth' < depth + depth' + 1) (ended_nil _)
  rw [reads] at reads'
  cases reads'
  rfl

/-- **Predicate texts are accepted exactly by their grammar.** A text is read as a predicate if and
only if the grammar has its trimmed text with that tree, at most `maxDepth` deep; and the grammar
has no two trees for it, however deep they may be. -/
theorem readPredicate_eq_ok_iff (text : String) (predicate : Expr) :
    (readPredicate text = .ok predicate ↔ ∃ depth ≤ maxDepth,
      Predicate .disjunction depth (Text.trim text.toList) predicate []) ∧
    ∀ depth depth' predicate', Predicate .disjunction depth (Text.trim text.toList) predicate [] →
      Predicate .disjunction depth' (Text.trim text.toList) predicate' [] →
        predicate = predicate' := by
  refine ⟨⟨predicate_of_readPredicate, ?_⟩, fun _ _ _ => predicate_unique⟩
  rintro ⟨depth, deep, found⟩
  exact readPredicate_of_predicate found deep

end ColumnQuery.Grammar
