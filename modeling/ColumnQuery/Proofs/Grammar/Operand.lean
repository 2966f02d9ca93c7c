import ColumnQuery.Proofs.Grammar.Token

/-!
# Operands are read as the grammar has them

With some levels left, an operand is read only if the grammar has it with less depth than that, and
whenever the grammar has it so and what follows does not go on with it. What follows matters because
the readers take as much as they can: `prolongsProduct` and `prolongsSum` are the characters that
would go on with an operand. The same holds of the items of a set, which a bracket ends.
-/
namespace ColumnQuery.Grammar

open Outcome Phrase

variable {α : Type}

/-- A reader between separators is done where it is done after them. -/
theorem spaced_of_done {read : Reader α} {text rest : List Char} {value : α}
    (reads : read (Text.skipSeparators text) = .done value rest) :
    spaced read text = .done value (Text.skipSeparators rest) := by
  unfold spaced
  rw [reads]
  rfl

/-- A reader between separators misses where it misses after them. -/
theorem spaced_misses {read : Reader α} {text : List Char}
    (misses : (read (Text.skipSeparators text)).Misses) : (spaced read text).Misses :=
  misses.bind _

/-- What a reader between separators reads stands between gaps. -/
theorem spaced_eq_done {read : Reader α} {text rest : List Char} {value : α}
    (reads : spaced read text = .done value rest) :
    ∃ mid, read (Text.skipSeparators text) = .done value mid ∧ Text.skipSeparators mid = rest := by
  obtain ⟨found, mid, inner, same⟩ := bind_eq_done.mp reads
  cases same
  exact ⟨mid, inner, rfl⟩

/-- A reader between separators reads alike from either end of a gap. -/
theorem spaced_skip (read : Reader α) (text : List Char) :
    spaced read (Text.skipSeparators text) = spaced read text := by
  unfold spaced
  rw [skipSeparators_skipSeparators]

/-- A product of factors. -/
def productAt (levels : Nat) : Reader Expr :=
  chain (spaced productOperator) (factorAt levels) .arithmetic

/-- A factor is read alike from either end of a gap. -/
theorem factorAt_skip {levels : Nat} (left : 0 < levels) (text : List Char) :
    factorAt levels (Text.skipSeparators text) = factorAt levels text := by
  cases levels with
  | zero => contradiction
  | succ levels =>
    unfold factorAt
    rw [skipSeparators_skipSeparators]

/-- A product is read alike from either end of a gap. -/
theorem productAt_skip {levels : Nat} (left : 0 < levels) (text : List Char) :
    productAt levels (Text.skipSeparators text) = productAt levels text :=
  chain_congr (factorAt_skip left text)

/-- An operand is read alike from either end of a gap. -/
theorem operandAt_skip {levels : Nat} (left : 0 < levels) (text : List Char) :
    operandAt levels (Text.skipSeparators text) = operandAt levels text :=
  chain_congr (productAt_skip left text)

/-! ## Only operands are read -/

/-- The grammar has an operand that fits the levels. -/
def HasOperand (levels : Nat) (rank : OperandRank) (text : List Char) (operand : Expr)
    (rest : List Char) : Prop := ∃ depth < levels, Operand rank depth text operand rest

/-- A rule that combines operands by signs combines what fits the levels. -/
theorem HasOperand.link {levels : Nat} {rank rank' : OperandRank} {operator : Reader Arithmetic}
    {sign : Arithmetic → List Char → List Char → Prop}
    (signs : ∀ op text rest, operator text = .done op rest → sign op text rest)
    (rule : ∀ {depth depth' : Nat} {text mid start next rest : List Char} {left right : Expr}
      {op : Arithmetic}, Operand rank depth text left mid → Gap mid start → sign op start next →
        Operand rank' depth' next right rest →
          Operand rank (max depth depth') text (.arithmetic op left right) rest)
    {text mid next rest : List Char} {left right : Expr} {op : Arithmetic}
    (before : HasOperand levels rank text left mid) (signed : spaced operator mid = .done op next)
    (after : HasOperand levels rank' next right rest) :
    HasOperand levels rank text (.arithmetic op left right) rest := by
  obtain ⟨depth, small, before⟩ := before
  obtain ⟨depth', small', after⟩ := after
  obtain ⟨behind, read, rfl⟩ := spaced_eq_done signed
  have further := after.afterGap (gap_skipSeparators behind)
  have sign := signs _ _ _ read
  exact ⟨max depth depth', by omega, rule before (gap_skipSeparators mid) sign further⟩

/-- Where factors are read only if the grammar has them, so are products. -/
theorem hasOperand_of_productAt {levels : Nat} (factors : ∀ text operand rest,
      factorAt levels text = .done operand rest → HasOperand levels .factor text operand rest)
    {text rest : List Char} {operand : Expr} (reads : productAt levels text = .done operand rest) :
    HasOperand levels .product text operand rest := by
  refine chain_induction (HasOperand levels .product) ?_ ?_ reads
  · intro text operand rest reads
    obtain ⟨depth, small, factor⟩ := factors text operand rest reads
    exact ⟨depth, small, .ofFactor factor⟩
  · intro text left mid op next right rest before signed reads
    exact before.link (fun _ _ _ => productOperator_eq_done.mp) .times signed
      (factors next right rest reads)

/-- Where factors are read only if the grammar has them, so are operands. -/
theorem hasOperand_of_operandAt_aux {levels : Nat} (factors : ∀ text operand rest,
      factorAt levels text = .done operand rest → HasOperand levels .factor text operand rest)
    {text rest : List Char} {operand : Expr} (reads : operandAt levels text = .done operand rest) :
    HasOperand levels .sum text operand rest := by
  refine chain_induction (HasOperand levels .sum) ?_ ?_ reads
  · intro text operand rest reads
    obtain ⟨depth, small, product⟩ := hasOperand_of_productAt factors reads
    exact ⟨depth, small, .ofProduct product⟩
  · intro text left mid op next right rest before signed reads
    exact before.link (fun _ _ _ => sumOperator_eq_done.mp) .plus signed
      (hasOperand_of_productAt factors reads)

/-- A factor is read only if the grammar has it. -/
theorem hasOperand_of_factorAt (levels : Nat) (text : List Char) (operand : Expr) (rest : List Char)
    (reads : factorAt levels text = .done operand rest) :
    HasOperand levels .factor text operand rest := by
  induction levels generalizing text operand rest with
  | zero => cases reads
  | succ levels ih =>
    have gap := gap_skipSeparators text
    unfold factorAt at reads
    rcases orElse_eq_done.mp reads with opposite | ⟨_, reads⟩
    · obtain ⟨inner, signed, rfl⟩ := map_eq_done.mp opposite
      obtain ⟨_, behind, sign, factor⟩ := bind_eq_done.mp signed
      rw [char_eq_done.mp sign] at gap
      obtain ⟨depth, small, found⟩ := ih behind inner rest factor
      exact ⟨depth + 1, by omega, .opposite gap found⟩
    rcases orElse_eq_done.mp reads with group | ⟨_, reads⟩
    · obtain ⟨_, inner, opening, group⟩ := bind_eq_done.mp group
      obtain ⟨value, close, inside, closed⟩ := bind_eq_done.mp group
      obtain ⟨_, closing, rfl⟩ := map_eq_done.mp closed
      obtain ⟨mid, sum, rfl⟩ := spaced_eq_done inside
      rw [char_eq_done.mp opening] at gap
      have closingGap := gap_skipSeparators mid
      rw [char_eq_done.mp closing] at closingGap
      obtain ⟨depth, small, found⟩ := hasOperand_of_operandAt_aux ih sum
      exact ⟨depth + 1, by omega,
        .group gap (found.afterGap (gap_skipSeparators inner)) closingGap⟩
    rcases orElse_eq_done.mp reads with literal | ⟨_, reads⟩
    · obtain ⟨value, found, rfl⟩ := map_eq_done.mp literal
      exact ⟨0, by omega, .literal gap (literal_of_eq_done found)⟩
    · obtain ⟨name, found, rfl⟩ := map_eq_done.mp reads
      exact ⟨0, by omega, .field gap (fieldName_eq_done.mp found)⟩

/-- An operand is read only if the grammar has it. -/
theorem hasOperand_of_operandAt {levels : Nat} {text rest : List Char} {operand : Expr}
    (reads : operandAt levels text = .done operand rest) :
    HasOperand levels .sum text operand rest :=
  hasOperand_of_operandAt_aux (hasOperand_of_factorAt levels) reads

/-! ## Operands are read -/

/-- What must not follow an operand of a rank for its last part to be read as the grammar has it. -/
def prolongsLast : OperandRank → Char → Bool
  | .factor | .product => prolongs
  | .sum => prolongsProduct

/-- An operand of a rank is read from a text, and reading goes on after it with that rank. -/
def ReadsOperand (levels : Nat) (text : List Char) (operand : Expr) (rest : List Char) :
    OperandRank → Prop
  | .factor => factorAt levels text = .done operand rest
  | .product => productAt levels text =
      resume (spaced productOperator) (factorAt levels) .arithmetic operand rest
  | .sum => operandAt levels text =
      resume (spaced sumOperator) (productAt levels) .arithmetic operand rest

/-- A product ends where nothing goes on with it. -/
theorem productAt_of_reads {levels : Nat} {text rest : List Char} {operand : Expr}
    (reads : ReadsOperand levels text operand rest .product)
    (last : Ended prolongsProduct (Text.skipSeparators rest)) :
    productAt levels text = .done operand rest :=
  reads.trans (resume_of_misses (spaced_misses (productOperator_misses last)))

/-- A sum ends where nothing goes on with it. -/
theorem operandAt_of_reads {levels : Nat} {text rest : List Char} {operand : Expr}
    (reads : ReadsOperand levels text operand rest .sum)
    (last : Ended prolongsSum (Text.skipSeparators rest)) :
    operandAt levels text = .done operand rest :=
  reads.trans (resume_of_misses (spaced_misses (sumOperator_misses last)))

/-- A minus sign is read as an opposite. -/
theorem factorAt_opposite {levels : Nat} {text inner rest : List Char} {operand : Expr}
    (sign : Gap text ('-' :: inner)) (reads : factorAt levels inner = .done operand rest) :
    factorAt (levels + 1) text = .done (.negate operand) rest := by
  simp only [factorAt, sign.skip_cons (by decide), preceded, char, ↓reduceIte, done_bind, reads,
    done_map, done_orElse]

/-- A text that begins otherwise is no opposite. -/
theorem opposite_misses {read : Reader Expr} {c : Char} {tail : List Char} (minus : c ≠ '-') :
    (preceded (char '-') read (c :: tail)).Misses := by
  have noMinus : (char '-' (c :: tail)).Misses :=
    char_misses fun _ same => minus (List.cons.inj same).1
  exact noMinus.bind _

/-- A group is read as what stands inside. -/
theorem factorAt_group {levels : Nat} {text inner close rest : List Char} {operand : Expr}
    (opening : Gap text ('(' :: inner))
    (reads : operandAt levels (Text.skipSeparators inner) = .done operand close)
    (closing : Gap close (')' :: rest)) : factorAt (levels + 1) text = .done operand rest := by
  have inside : spaced (sumOf (factorAt levels)) inner = .done operand (')' :: rest) := by
    rw [← closing.skip_cons (by decide)]
    exact spaced_of_done reads
  have noOpposite : (preceded (char '-') (factorAt levels) ('(' :: inner)).Misses :=
    opposite_misses (by decide)
  simp only [factorAt, opening.skip_cons (by decide)]
  rw [(noOpposite.map _).orElse, bracketed_of_done inside]
  rfl

/-- A text that starts with a literal or a field is read as neither an opposite nor a group. -/
theorem factorAt_token {levels : Nat} {text tail : List Char} {c : Char}
    (gap : Gap text (c :: tail)) (begins : beginsToken c = true) :
    factorAt (levels + 1) text = ((literal (c :: tail)).map .constant).orElse fun _ =>
      (fieldName (c :: tail)).map .field := by
  have noOpposite : (preceded (char '-') (factorAt levels) (c :: tail)).Misses := by
    apply opposite_misses
    rintro rfl
    revert begins
    decide
  have bracket : (bracketed (spaced (sumOf (factorAt levels))) (c :: tail)).Misses :=
    bracketed_misses fun _ same => by
      cases same
      revert begins
      decide
  have skipped := gap.skip_cons (isSeparator_of_beginsOperand (beginsOperand_of_token begins))
  simp only [factorAt, skipped]
  rw [(noOpposite.map _).orElse, bracket.orElse]

/-- A literal is read as a factor where nothing prolongs it. -/
theorem factorAt_literal {levels : Nat} {text start rest : List Char} {value : Value}
    (gap : Gap text start) (found : Literal start value rest) (last : Ended prolongs rest) :
    factorAt (levels + 1) text = .done (.constant value) rest := by
  have reads := literal_eq_done found last
  obtain ⟨c, tail, rfl, begins⟩ := found.begins
  rw [factorAt_token gap begins, reads]
  rfl

/-- A field is read as a factor. -/
theorem factorAt_field {levels : Nat} {text start rest : List Char} {name : String}
    (gap : Gap text start) (found : Field start name rest) :
    factorAt (levels + 1) text = .done (.field name) rest := by
  have reads := fieldName_eq_done.mpr found
  have noLiteral := literal_misses_of_field found
  obtain ⟨c, tail, rfl, begins⟩ := found.begins
  rw [factorAt_token gap begins, (noLiteral.map _).orElse, reads]
  rfl

/-- Whatever the grammar has as an operand is read so, if it fits the levels and what follows does
not prolong its last part. -/
theorem readsOperand {rank : OperandRank} {depth levels : Nat} {text rest : List Char}
    {operand : Expr} (found : Operand rank depth text operand rest) (deep : depth < levels)
    (last : Ended (prolongsLast rank) (Text.skipSeparators rest)) :
    ReadsOperand levels text operand rest rank := by
  induction found generalizing levels with
  | literal gap literal =>
    obtain ⟨levels, rfl⟩ := Nat.exists_eq_succ_of_ne_zero (Nat.ne_zero_of_lt deep)
    exact factorAt_literal gap literal (last.ofSkip (by decide))
  | field gap field =>
    obtain ⟨levels, rfl⟩ := Nat.exists_eq_succ_of_ne_zero (Nat.ne_zero_of_lt deep)
    exact factorAt_field gap field
  | opposite sign factor ih =>
    obtain ⟨levels, rfl⟩ := Nat.exists_eq_succ_of_ne_zero (Nat.ne_zero_of_lt deep)
    exact factorAt_opposite sign (ih (by omega) last)
  | @group depth text inner close rest operand opening sum closing ih =>
    obtain ⟨levels, rfl⟩ := Nat.exists_eq_succ_of_ne_zero (Nat.ne_zero_of_lt deep)
    have closes : Ended prolongsSum (Text.skipSeparators close) := by
      rw [closing.skip_cons (by decide)]
      exact ended_cons.mpr (by decide)
    have within : depth < levels := by omega
    have inside := ih within (closes.mono fun _ => prolongsSum_of_product)
    have reads := operandAt_of_reads inside closes
    rw [← operandAt_skip (Nat.zero_lt_of_lt within)] at reads
    exact factorAt_group opening reads closing
  | ofFactor factor ih => exact chain_of_done (ih deep last)
  | ofProduct product ih =>
    have reads := ih deep (last.mono fun _ => prolongsProduct_of_last)
    exact chain_of_done (productAt_of_reads reads last)
  | @times depth depth' text mid sign next rest left right op before gap signed after ihBefore
      ihAfter =>
    obtain ⟨skipped, follows⟩ := signed.follows gap
    have reads : ReadsOperand levels text left mid .product :=
      ihBefore (by omega) (skipped ▸ follows)
    have operator : spaced productOperator mid = .done op (Text.skipSeparators next) :=
      spaced_of_done (skipped ▸ productOperator_eq_done.mpr signed)
    have factor : factorAt levels (Text.skipSeparators next) = .done right rest := by
      rw [factorAt_skip (by omega)]
      exact ihAfter (by omega) last
    have shorter : rest.length < mid.length :=
      (gap.takes ((takes_symbol signed.2).trans after.takes)).length_lt
    exact reads.trans (resume_of_done operator factor shorter)
  | @plus depth depth' text mid sign next rest left right op before gap signed after ihBefore
      ihAfter =>
    obtain ⟨skipped, follows⟩ := signed.follows gap
    have reads : ReadsOperand levels text left mid .sum :=
      ihBefore (by omega) (skipped ▸ follows)
    have operator : spaced sumOperator mid = .done op (Text.skipSeparators next) :=
      spaced_of_done (skipped ▸ sumOperator_eq_done.mpr signed)
    have product : productAt levels (Text.skipSeparators next) = .done right rest := by
      rw [productAt_skip (by omega)]
      have ended := last.mono fun _ => prolongsProduct_of_last
      have reads := ihAfter (by omega : depth' < levels) ended
      exact productAt_of_reads reads last
    have shorter : rest.length < mid.length :=
      (gap.takes ((takes_symbol signed.2).trans after.takes)).length_lt
    exact reads.trans (resume_of_done operator product shorter)

/-- Whatever the grammar has as an operand is read so, if it fits the levels and what follows does
not go on with it. -/
theorem operandAt_eq_done {depth levels : Nat} {text rest : List Char} {operand : Expr}
    (found : Operand .sum depth text operand rest) (deep : depth < levels)
    (last : Ended prolongsSum (Text.skipSeparators rest)) :
    operandAt levels text = .done operand rest :=
  operandAt_of_reads (readsOperand found deep (last.mono fun _ => prolongsSum_of_product)) last

/-- An operand between separators is read with the separators around it. -/
theorem spaced_operandAt {depth levels : Nat} {text rest : List Char} {operand : Expr}
    (found : Operand .sum depth text operand rest) (deep : depth < levels)
    (last : Ended prolongsSum (Text.skipSeparators rest)) :
    spaced (operandAt levels) text = .done operand (Text.skipSeparators rest) := by
  apply spaced_of_done
  rw [operandAt_skip (by omega)]
  exact operandAt_eq_done found deep last

/-! ## Texts without operands -/

/-- A factor is missed where no sign, group, literal or field is read. -/
theorem factorAt_misses {levels : Nat} {text tail : List Char} {c : Char}
    (gap : Gap text (c :: tail)) (token : Text.isSeparator c = false)
    (noOpposite : (preceded (char '-') (factorAt levels) (c :: tail)).Misses)
    (noGroup : (bracketed (spaced (operandAt levels)) (c :: tail)).Misses)
    (noLiteral : (literal (c :: tail)).Misses) (noField : (fieldName (c :: tail)).Misses) :
    (factorAt (levels + 1) text).Misses := by
  unfold operandAt at noGroup
  simp only [factorAt, gap.skip_cons token]
  rw [(noOpposite.map _).orElse, noGroup.orElse, (noLiteral.map _).orElse]
  exact noField.map _

/-- An operand is missed where a factor is. -/
theorem operandAt_misses {levels : Nat} {text : List Char}
    (misses : (factorAt levels text).Misses) : (operandAt levels text).Misses :=
  chain_misses (chain_misses misses)

/-- A field name is missed on a text that starts with neither a letter nor a double quote. -/
theorem fieldName_misses_of_head {c : Char} {tail : List Char} (letter : isIdentStart c = false)
    (doubleQuote : c ≠ '"') : (fieldName (c :: tail)).Misses := by
  apply fieldName_misses
  intro name rest field
  obtain ⟨d, _, same, quoted | start⟩ := field.head
  · cases same
    exact doubleQuote quoted
  · cases same
    rw [letter] at start
    contradiction

/-- A text that starts with a character of no token starts with no operand. -/
theorem operandAt_misses_of_head {levels : Nat} {text tail : List Char} {c : Char}
    (gap : Gap text (c :: tail)) (token : Text.isSeparator c = false)
    (other : beginsOperand c = false) : (operandAt (levels + 1) text).Misses := by
  simp only [beginsOperand, beginsToken, Bool.or_eq_false_iff, beq_eq_false_iff_ne] at other
  obtain ⟨⟨⟨⟨⟨letter, digit⟩, quote⟩, doubleQuote⟩, minus⟩, bracket⟩ := other
  exact operandAt_misses (factorAt_misses gap token (opposite_misses minus)
    (bracketed_misses fun _ same => bracket (List.cons.inj same).1)
    (literal_misses_of_head letter digit quote) (fieldName_misses_of_head letter doubleQuote))

/-- No operand is read where the sign of a denial stands. -/
theorem operandAt_misses_of_denial {levels : Nat} {text start inner : List Char}
    (gap : Gap text start) (sign : DenialSign start inner) :
    (operandAt (levels + 1) text).Misses := by
  rcases sign with rfl | word
  · exact operandAt_misses_of_head gap (by decide) (by decide)
  · obtain ⟨c, tail, rfl, letter, _⟩ := word.head (by decide)
    have token := isSeparator_of_isIdentChar (isIdentChar_of_isIdentStart letter)
    have unlike (other : String) (listed : other ∈ ["null", "true", "false"]) (rest : List Char) :
        ¬ Keyword other (c :: tail) rest := by
      intro found
      have different : other ≠ "not" ∧ other ∈ reserved := by
        clear found
        revert other
        decide
      exact different.1 (found.unique word different.2 (by decide))
    refine operandAt_misses (factorAt_misses gap token (opposite_misses ?_) (bracketed_misses ?_)
      (literal_misses_of_word letter unlike) (fieldName_misses ?_))
    · rintro rfl
      revert letter
      decide
    · intro _ same
      cases same
      revert letter
      decide
    · intro name rest field
      exact field.not_keyword (by decide) word

/-! ## Sets -/

/-- A comma and an item after it. -/
def furtherItem (levels : Nat) : Reader Expr := preceded (char ',') (spaced (operandAt levels))

/-- Items that are read after a first one are items of the grammar with it. -/
theorem items_of_many {levels depth : Nat} {text mid rest : List Char} {first : Expr}
    {others : List Expr} (found : Operand .sum depth text first mid) (deep : depth < levels)
    (reads : many (furtherItem levels) (Text.skipSeparators mid) = .done others rest) :
    ∃ depth < levels, ∃ close, Items depth text (first :: others) close ∧
      Text.skipSeparators close = rest := by
  induction others generalizing depth text mid first with
  | nil => exact ⟨depth, deep, mid, .one found, (eq_of_many_nil reads).symm⟩
  | cons second others ih =>
    obtain ⟨after, readsSecond, readsOthers⟩ := of_many_cons reads
    obtain ⟨_, next, comma, readsSecond⟩ := bind_eq_done.mp readsSecond
    obtain ⟨close, inner, rfl⟩ := spaced_eq_done readsSecond
    obtain ⟨depth', deep', operand⟩ := hasOperand_of_operandAt inner
    obtain ⟨depth'', deep'', close, items, closed⟩ :=
      ih (operand.afterGap (gap_skipSeparators next)) deep' readsOthers
    have gap := gap_skipSeparators mid
    rw [char_eq_done.mp comma] at gap
    exact ⟨max depth depth'', by omega, close, .more found gap items, closed⟩

/-- A set is read only if the grammar has it. -/
theorem itemSet_of_eq_done {levels : Nat} {text rest : List Char} {items : List Expr}
    (left : 0 < levels) (reads : itemSet (operandAt levels) text = .done items rest) :
    ∃ depth < levels, ItemSet depth text items rest := by
  obtain ⟨_, inner, opening, reads⟩ := bind_eq_done.mp reads
  obtain ⟨found, close, listed, closed⟩ := bind_eq_done.mp reads
  obtain ⟨_, closing, rfl⟩ := map_eq_done.mp closed
  have opens : Gap text ('(' :: inner) := char_eq_done.mp opening ▸ Gap.refl text
  have closes := gap_skipSeparators close
  rw [char_eq_done.mp closing] at closes
  unfold separatedOrNone at listed
  split at listed
  · cases listed
    exact ⟨0, left, .empty opens closes⟩
  · cases listed
  · rename_i first behind readsFirst
    obtain ⟨others, readsOthers, rfl⟩ := map_eq_done.mp listed
    obtain ⟨mid, readsOperand, rfl⟩ := spaced_eq_done readsFirst
    obtain ⟨depth, deep, operand⟩ := hasOperand_of_operandAt readsOperand
    obtain ⟨depth, deep, mid, items, rfl⟩ :=
      items_of_many (operand.afterGap (gap_skipSeparators inner)) deep readsOthers
    exact ⟨depth, deep, .items opens items ((gap_skipSeparators mid).trans closes)⟩

/-- Items of the grammar are read one after another up to the closing bracket. -/
theorem many_of_items {levels depth : Nat} {text close rest : List Char} {items : List Expr}
    (found : Items depth text items close) (deep : depth < levels)
    (closing : Gap close (')' :: rest)) :
    ∃ first others behind, items = first :: others ∧ behind.length < text.length ∧
      spaced (operandAt levels) text = .done first behind ∧
        many (furtherItem levels) behind = .done others (')' :: rest) := by
  induction found generalizing levels with
  | @one depth text close item last =>
    have skipped := closing.skip_cons (by decide)
    have ends : Ended prolongsSum (Text.skipSeparators close) := by
      rw [skipped]
      exact ended_cons.mpr (by decide)
    have noComma : (char ',' (')' :: rest)).Misses := char_misses fun _ same => by cases same
    have reads := spaced_operandAt last deep ends
    rw [skipped] at reads
    have ended : (furtherItem levels (')' :: rest)).Misses :=
      noComma.bind fun _ => spaced (operandAt levels)
    exact ⟨item, [], _, rfl, (last.takes.trans_gap closing).length_lt, reads, many_of_misses ended⟩
  | @more depth depth' text mid next close item items first comma listed ih =>
    have skipped := comma.skip_cons (by decide)
    have ends : Ended prolongsSum (Text.skipSeparators mid) := by
      rw [skipped]
      exact ended_cons.mpr (by decide)
    have reads := spaced_operandAt first (by omega : depth < levels) ends
    rw [skipped] at reads
    obtain ⟨second, others, behind, rfl, shorter, readsSecond, readsOthers⟩ :=
      ih (by omega : depth' < levels) closing
    have step : furtherItem levels (',' :: next) = .done second behind := by
      simp only [furtherItem, preceded, char, ↓reduceIte, done_bind, readsSecond]
    refine ⟨item, second :: others, _, rfl, (first.takes.trans_gap comma).length_lt, reads, ?_⟩
    rw [many_of_done step (Nat.lt_succ_of_lt shorter), readsOthers]
    rfl

/-- A set of the grammar is read. -/
theorem itemSet_eq_done {levels depth : Nat} {text rest : List Char} {items : List Expr}
    (found : ItemSet depth text items rest) (deep : depth < levels) :
    itemSet (operandAt levels) (Text.skipSeparators text) = .done items rest := by
  cases found with
  | @empty text close rest opening closing =>
    have none : (spaced (operandAt levels) close).Misses := by
      obtain ⟨levels, rfl⟩ := Nat.exists_eq_succ_of_ne_zero (Nat.ne_zero_of_lt deep)
      apply spaced_misses
      rw [closing.skip_cons (by decide)]
      exact operandAt_misses_of_head (Gap.refl _) (by decide) (by decide)
    obtain ⟨_, _, missed⟩ := none
    simp only [itemSet, opening.skip_cons (by decide), char, ↓reduceIte, done_bind,
      separatedOrNone, missed, closing.skip_cons (by decide), done_map]
  | items opening listed closing =>
    obtain ⟨first, others, behind, rfl, _, readsFirst, readsOthers⟩ :=
      many_of_items listed deep closing
    unfold furtherItem at readsOthers
    simp only [itemSet, opening.skip_cons (by decide), char, ↓reduceIte, done_bind,
      separatedOrNone, readsFirst, readsOthers, done_map]
    rfl

end ColumnQuery.Grammar
