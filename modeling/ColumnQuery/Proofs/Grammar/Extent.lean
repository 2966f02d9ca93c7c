import ColumnQuery.Proofs.Grammar.Phrase
import ColumnQuery.Proofs.Text.Blank

/-!
# Where phrases begin and end

A gap is skipped whole because no token begins with a separator. A word at the front of a text is
the run of identifier characters there, so a text begins with at most one of a keyword and a bare
field, and with at most one keyword. Every operand and every predicate takes something from its
text.
-/
namespace ColumnQuery.Phrase

open Grammar

/-! ## Classes of characters -/

/-- What may start an identifier may also go on with one. -/
theorem isIdentChar_of_isIdentStart {c : Char} (start : isIdentStart c = true) :
    isIdentChar c = true := by
  unfold isIdentStart at start
  unfold isIdentChar
  cases alphabetic : Text.isAlphabetic c <;> simp_all

/-- A letter in lower case starts an identifier only if the letter itself does. -/
theorem isIdentStart_of_toLower {c : Char} (start : isIdentStart c.toLower = true) :
    isIdentStart c = true := by
  by_cases upper : 'A' ≤ c ∧ c ≤ 'Z'
  · have small : c.toNat < 128 := Nat.lt_of_le_of_lt upper.2 (by decide)
    have letter : c.isAlpha = true := by
      show (decide ('A' ≤ c ∧ c ≤ 'Z') || c.isLower) = true
      rw [decide_eq_true upper, Bool.true_or]
    simp [isIdentStart, Text.isAlphabetic, small, letter]
  · have same : c.toLower = c := dif_neg upper
    rwa [same] at start

/-- The digits are among the ten characters for them. -/
theorem isDigit_cases {c : Char} (digit : isDigit c = true) : ∃ d : Digit, c = d.char := by
  unfold isDigit at digit
  obtain ⟨d, read⟩ := Option.isSome_iff_exists.mp digit
  exact ⟨d, (Digit.char_of_ofChar? read).symm⟩

/-- Every character of a digit is a digit. -/
theorem isDigit_char (d : Digit) : isDigit d.char = true := by
  simp [isDigit, Digit.ofChar?_char]

/-- A text that begins with a digit begins with nothing else. -/
theorem char_cons_ne (d : Digit) {c : Char} (other : isDigit c = false) (text tail : List Char) :
    d.char :: text ≠ c :: tail := by
  intro same
  rw [← (List.cons.inj same).1, isDigit_char] at other
  contradiction

/-- A digit does not start an identifier. -/
theorem isIdentStart_of_isDigit {c : Char} (digit : isDigit c = true) : isIdentStart c = false := by
  obtain ⟨d, rfl⟩ := isDigit_cases digit
  revert d
  decide

/-- A digit may go on with an identifier. -/
theorem isIdentChar_of_isDigit {c : Char} (digit : isDigit c = true) : isIdentChar c = true := by
  obtain ⟨d, rfl⟩ := isDigit_cases digit
  revert d
  decide

/-- What may go on with an identifier is no white space. -/
theorem isWhiteSpace_of_isIdentChar {c : Char} (inside : isIdentChar c = true) :
    Text.isWhiteSpace c = false := by
  apply Bool.eq_false_iff.mpr
  intro blank
  have noLetter := Text.isAlphabetic_of_isWhiteSpace blank
  have noNumeral := Text.isNumeric_of_isWhiteSpace blank
  simp only [isIdentChar, noLetter, noNumeral, Bool.false_or, beq_iff_eq] at inside
  rw [inside] at blank
  revert blank
  decide

/-- The separators are four characters. -/
theorem isSeparator_cases {c : Char} (separator : Text.isSeparator c = true) :
    c = ' ' ∨ c = '\t' ∨ c = '\n' ∨ c = '\r' := by
  simpa [Text.isSeparator, or_assoc] using separator

/-- No separator is of a kind that the four characters are not of. -/
theorem kind_of_isSeparator {kind : Char → Bool} {c : Char}
    (free : [' ', '\t', '\n', '\r'].all (fun c => !kind c) = true)
    (separator : Text.isSeparator c = true) : kind c = false := by
  simp only [List.all_cons, List.all_nil, Bool.and_true, Bool.and_eq_true,
    Bool.not_eq_true'] at free
  obtain ⟨space, tab, feed, return_⟩ := free
  rcases isSeparator_cases separator with rfl | rfl | rfl | rfl
  · exact space
  · exact tab
  · exact feed
  · exact return_

/-- A character of a kind that the four are not of is no separator. -/
theorem isSeparator_of_kind {kind : Char → Bool} {c : Char}
    (free : [' ', '\t', '\n', '\r'].all (fun c => !kind c) = true) (inside : kind c = true) :
    Text.isSeparator c = false := by
  apply Bool.eq_false_iff.mpr
  intro separator
  rw [kind_of_isSeparator free separator] at inside
  contradiction

/-- What may go on with an identifier is no separator. -/
theorem isSeparator_of_isIdentChar {c : Char} (inside : isIdentChar c = true) :
    Text.isSeparator c = false := isSeparator_of_kind (by decide) inside

/-! ## Runs -/

/-- Nothing is ahead of the end of a text. -/
theorem ended_nil (kind : Char → Bool) : Ended kind [] := by
  intro c tail impossible
  cases impossible

/-- What is ahead is the first character. -/
theorem ended_cons {kind : Char → Bool} {c : Char} {tail : List Char} :
    Ended kind (c :: tail) ↔ kind c = false := by
  constructor
  · intro ended
    exact ended c tail rfl
  · intro other d rest same
    cases same
    exact other

/-- A run that ends before a kind ends before each smaller kind. -/
theorem Ended.mono {kind kind' : Char → Bool} {text : List Char} (ended : Ended kind text)
    (less : ∀ c, kind' c = true → kind c = true) : Ended kind' text := by
  intro c tail same
  apply Bool.eq_false_iff.mpr
  intro inside
  have other := ended c tail same
  rw [less c inside] at other
  contradiction

/-- A text ends a run exactly if nothing of the kind can be dropped from its front. -/
theorem ended_dropWhile (kind : Char → Bool) (text : List Char) :
    Ended kind (text.dropWhile kind) := by
  intro c tail same
  have head := List.head?_dropWhile_not kind text
  rw [same] at head
  simpa using head

/-- A run and what follows it are told apart at the end of the run. -/
theorem takeWhile_run {kind : Char → Bool} {run rest : List Char} (all : ∀ c ∈ run, kind c = true)
    (ended : Ended kind rest) : (run ++ rest).takeWhile kind = run := by
  rw [List.takeWhile_append_of_pos all]
  cases rest with
  | nil => simp
  | cons c tail => simp [ended c tail rfl]

/-- What follows a run is left after the run is dropped. -/
theorem dropWhile_run {kind : Char → Bool} {run rest : List Char} (all : ∀ c ∈ run, kind c = true)
    (ended : Ended kind rest) : (run ++ rest).dropWhile kind = rest := by
  rw [List.dropWhile_append_of_pos all]
  cases rest with
  | nil => simp
  | cons c tail => simp [ended c tail rfl]

/-! ## Gaps -/

/-- A gap may be empty. -/
theorem Gap.refl (text : List Char) : Gap text text := ⟨[], by simp, rfl⟩

/-- Two gaps in a row are one. -/
theorem Gap.trans {text mid rest : List Char} (first : Gap text mid) (second : Gap mid rest) :
    Gap text rest := by
  obtain ⟨gap, separators, rfl⟩ := first
  obtain ⟨gap', separators', rfl⟩ := second
  refine ⟨gap ++ gap', ?_, by simp⟩
  intro c member
  rcases List.mem_append.mp member with member | member
  · exact separators c member
  · exact separators' c member

/-- The separators skipped are a gap. -/
theorem gap_skipSeparators (text : List Char) : Gap text (Text.skipSeparators text) := by
  refine ⟨text.takeWhile Text.isSeparator, ?_, List.takeWhile_append_dropWhile.symm⟩
  exact List.all_eq_true.mp List.all_takeWhile

/-- Skipping starts from either end of a gap alike. -/
theorem Gap.skip {text rest : List Char} (gap : Gap text rest) :
    Text.skipSeparators text = Text.skipSeparators rest := by
  obtain ⟨gap, separators, rfl⟩ := gap
  exact List.dropWhile_append_of_pos separators

/-- Skipping ends before a token. -/
theorem Gap.skip_cons {text rest : List Char} {c : Char} (gap : Gap text (c :: rest))
    (token : Text.isSeparator c = false) : Text.skipSeparators text = c :: rest := by
  rw [gap.skip]
  simp [Text.skipSeparators, token]

/-- Skipping twice skips no more. -/
theorem skipSeparators_skipSeparators (text : List Char) :
    Text.skipSeparators (Text.skipSeparators text) = Text.skipSeparators text :=
  (gap_skipSeparators text).skip.symm

/-- What follows a gap is an end of the text. -/
theorem Gap.suffix {text rest : List Char} (gap : Gap text rest) : rest <:+ text := by
  obtain ⟨separators, _, rfl⟩ := gap
  exact List.suffix_append separators rest

/-- A gap never leads back. -/
theorem Gap.length_le {text rest : List Char} (gap : Gap text rest) :
    rest.length ≤ text.length := by
  obtain ⟨gap, _, rfl⟩ := gap
  simp

/-- At the end of a text there is only the empty gap. -/
theorem Gap.eq_nil {rest : List Char} (gap : Gap [] rest) : rest = [] := by
  have short := gap.length_le
  exact List.eq_nil_of_length_eq_zero (by simpa using short)

/-! ## Words -/

/-- The letters of a reserved word start identifiers. -/
theorem isIdentStart_of_mem_reserved {word : String} (listed : word ∈ reserved) :
    ∀ c ∈ word.toList, isIdentStart c = true := by
  have all : reserved.all (fun word => word.toList.all isIdentStart) = true := by decide
  exact List.all_eq_true.mp (List.all_eq_true.mp all word listed)

/-- No reserved word is empty. -/
theorem toList_ne_nil_of_mem_reserved {word : String} (listed : word ∈ reserved) :
    word.toList ≠ [] := by
  revert word
  decide

/-- What spells a reserved word consists of characters that start identifiers. -/
theorem isIdentStart_of_lowered {word : List Char} {keyword : String} (listed : keyword ∈ reserved)
    (spelled : lowered word = keyword.toList) : ∀ c ∈ word, isIdentStart c = true := by
  intro c member
  apply isIdentStart_of_toLower
  apply isIdentStart_of_mem_reserved listed
  rw [← spelled]
  exact List.mem_map_of_mem member

/-- A keyword is the word at the front of its text. -/
theorem Keyword.word {keyword : String} {text rest : List Char} (found : Keyword keyword text rest)
    (listed : keyword ∈ reserved) :
    lowered (text.takeWhile isIdentChar) = keyword.toList ∧ text.dropWhile isIdentChar = rest := by
  obtain ⟨word, spelled, rfl, ended⟩ := found
  have inside : ∀ c ∈ word, isIdentChar c = true := fun c member =>
    isIdentChar_of_isIdentStart (isIdentStart_of_lowered listed spelled c member)
  rw [takeWhile_run inside ended, dropWhile_run inside ended]
  exact ⟨spelled, rfl⟩

/-- A keyword begins with a character that starts identifiers. -/
theorem Keyword.head {keyword : String} {text rest : List Char} (found : Keyword keyword text rest)
    (listed : keyword ∈ reserved) :
    ∃ c tail, text = c :: tail ∧ isIdentStart c = true ∧ [c.toLower] = keyword.toList.take 1 := by
  obtain ⟨word, spelled, rfl, ended⟩ := found
  cases word with
  | nil => exact absurd spelled.symm (toList_ne_nil_of_mem_reserved listed)
  | cons c tail =>
    refine ⟨c, tail ++ rest, rfl, ?_, ?_⟩
    · exact isIdentStart_of_lowered listed spelled c List.mem_cons_self
    · rw [← spelled]
      rfl

/-- A text begins with one keyword at most. -/
theorem Keyword.unique {keyword keyword' : String} {text rest rest' : List Char}
    (found : Keyword keyword text rest) (found' : Keyword keyword' text rest')
    (listed : keyword ∈ reserved) (listed' : keyword' ∈ reserved) : keyword = keyword' := by
  apply String.toList_inj.mp
  rw [← (found.word listed).1, ← (found'.word listed').1]

/-- An identifier is a run of identifier characters. -/
theorem Identifier.isIdentChar {word : List Char} (identifier : Identifier word) :
    ∀ c ∈ word, isIdentChar c = true := by
  obtain ⟨c, tail, rfl, start, inside, _⟩ := identifier
  intro x member
  rcases List.mem_cons.mp member with rfl | member
  · exact isIdentChar_of_isIdentStart start
  · exact inside x member

/-- An identifier spells no reserved word. -/
theorem Identifier.not_reserved {word : List Char} (identifier : Identifier word) {keyword : String}
    (listed : keyword ∈ reserved) : lowered word ≠ keyword.toList := by
  obtain ⟨_, _, _, _, _, free⟩ := identifier
  intro spelled
  have found : isReserved word = true := by
    unfold isReserved
    rw [List.any_eq_true]
    exact ⟨keyword, listed, by simp [spelled]⟩
  rw [free] at found
  contradiction

/-- A field begins with a double quote or with a character that starts identifiers. -/
theorem Field.head {text rest : List Char} {name : String} (field : Field text name rest) :
    ∃ c tail, text = c :: tail ∧ (c = '"' ∨ isIdentStart c = true) := by
  cases field with
  | bare identifier written ended =>
    obtain ⟨c, tail, rfl, start, _⟩ := identifier
    exact ⟨c, _, written, .inr start⟩
  | quoted named plain written => exact ⟨_, _, written, .inl rfl⟩

/-- No text begins with both a field and a reserved word. -/
theorem Field.not_keyword {text rest rest' : List Char} {name keyword : String}
    (field : Field text name rest) (listed : keyword ∈ reserved) :
    ¬ Keyword keyword text rest' := by
  intro found
  cases field with
  | bare identifier written ended =>
    subst written
    apply identifier.not_reserved listed
    rw [← (found.word listed).1, takeWhile_run identifier.isIdentChar ended]
  | quoted named plain written =>
    obtain ⟨c, tail, same, start, _⟩ := found.head listed
    rw [written] at same
    cases same
    revert start
    decide

/-! ## What phrases take -/

/-- Something stands between two places of a text. -/
def Takes (text rest : List Char) : Prop := ∃ taken, taken ≠ [] ∧ text = taken ++ rest

/-- What takes something leaves less. -/
theorem Takes.length_lt {text rest : List Char} (takes : Takes text rest) :
    rest.length < text.length := by
  obtain ⟨taken, filled, rfl⟩ := takes
  have positive := List.length_pos_iff.mpr filled
  rw [List.length_append]
  omega

/-- What is left is the end of the text. -/
theorem Takes.suffix {text rest : List Char} (takes : Takes text rest) : rest <:+ text := by
  obtain ⟨taken, _, rfl⟩ := takes
  exact List.suffix_append taken rest

/-- Whatever follows is taken as well. -/
theorem Takes.trans {text mid rest : List Char} (first : Takes text mid) (second : Takes mid rest) :
    Takes text rest := by
  obtain ⟨taken, filled, rfl⟩ := first
  obtain ⟨further, _, rfl⟩ := second
  exact ⟨taken ++ further, by simp [filled], by simp⟩

/-- A gap before what is taken is taken with it. -/
theorem Gap.takes {text mid rest : List Char} (gap : Gap text mid) (takes : Takes mid rest) :
    Takes text rest := by
  obtain ⟨separators, _, rfl⟩ := gap
  obtain ⟨taken, filled, rfl⟩ := takes
  exact ⟨separators ++ taken, by simp [filled], by simp⟩

/-- A gap after what is taken is taken with it. -/
theorem Takes.trans_gap {text mid rest : List Char} (takes : Takes text mid) (gap : Gap mid rest) :
    Takes text rest := by
  obtain ⟨taken, filled, rfl⟩ := takes
  obtain ⟨separators, _, rfl⟩ := gap
  exact ⟨taken ++ separators, by simp [filled], by simp⟩

/-- One character is taken. -/
theorem takes_cons (c : Char) (rest : List Char) : Takes (c :: rest) rest := ⟨[c], by simp, rfl⟩

/-- A keyword takes its letters. -/
theorem Keyword.takes {keyword : String} {text rest : List Char} (found : Keyword keyword text rest)
    (listed : keyword ∈ reserved) : Takes text rest := by
  obtain ⟨word, spelled, rfl, _⟩ := found
  refine ⟨word, ?_, rfl⟩
  rintro rfl
  exact toList_ne_nil_of_mem_reserved listed spelled.symm

/-- A field takes its name. -/
theorem Field.takes {text rest : List Char} {name : String} (field : Field text name rest) :
    Takes text rest := by
  cases field with
  | bare identifier written ended =>
    obtain ⟨c, tail, rfl, _⟩ := identifier
    exact ⟨_, by simp, written⟩
  | quoted named plain written =>
    rw [written]
    exact (takes_cons _ _).trans (Takes.trans ⟨_, named, rfl⟩ (takes_cons _ _))

/-- The characters of digits are no fewer than the digits. -/
theorem chars_ne_nil {digits : List Digit} (filled : digits ≠ []) : Digits.chars digits ≠ [] := by
  simpa [Digits.chars] using filled

/-- A literal takes its characters. -/
theorem Literal.takes {text rest : List Char} {value : Value} (found : Literal text value rest) :
    Takes text rest := by
  cases found with
  | nullWord word | trueWord word | falseWord word => exact word.takes (by decide)
  | integer filled written ended value => exact ⟨_, chars_ne_nil filled, written⟩
  | decimal filled further written ended =>
    rw [written]
    exact Takes.trans ⟨_, chars_ne_nil filled, rfl⟩
      ((takes_cons _ _).trans ⟨_, chars_ne_nil further, rfl⟩)
  | text written => exact ⟨Text.Quoted.encode _, by simp [Text.Quoted.encode], written⟩

/-- A sign of arithmetic takes its character. -/
theorem takes_symbol {op : Arithmetic} {text rest : List Char}
    (written : text = op.symbol.toList ++ rest) : Takes text rest := by
  subst written
  cases op <;> exact takes_cons _ rest

/-- An operand takes something. -/
theorem Operand.takes {rank : OperandRank} {depth : Nat} {text rest : List Char} {operand : Expr}
    (found : Operand rank depth text operand rest) : Takes text rest := by
  induction found with
  | literal gap literal => exact gap.takes literal.takes
  | field gap field => exact gap.takes field.takes
  | opposite sign factor ih => exact sign.takes ((takes_cons _ _).trans ih)
  | group opening sum closing ih =>
    exact opening.takes ((takes_cons _ _).trans (ih.trans (closing.takes (takes_cons _ _))))
  | ofFactor factor ih => exact ih
  | ofProduct product ih => exact ih
  | times before gap signed after ihBefore ihAfter
  | plus before gap signed after ihBefore ihAfter =>
    exact ihBefore.trans (gap.takes ((takes_symbol signed.2).trans ihAfter))

/-- Items take something. -/
theorem Items.takes {depth : Nat} {text rest : List Char} {items : List Expr}
    (found : Items depth text items rest) : Takes text rest := by
  induction found with
  | one last => exact last.takes
  | more first comma others ih =>
    exact first.takes.trans (comma.takes ((takes_cons _ _).trans ih))

/-- A set takes its brackets. -/
theorem ItemSet.takes {depth : Nat} {text rest : List Char} {items : List Expr}
    (found : ItemSet depth text items rest) : Takes text rest := by
  cases found with
  | empty opening closing =>
    exact opening.takes ((takes_cons _ _).trans (closing.takes (takes_cons _ _)))
  | items opening listed closing =>
    have closed := closing.takes (takes_cons _ _)
    exact opening.takes ((takes_cons _ _).trans (listed.takes.trans closed))

/-- The sign of a comparison takes something. -/
theorem ComparisonSign.takes {op : Comparison} {text rest : List Char}
    (sign : ComparisonSign op text rest) : Takes text rest := by
  obtain ⟨spelling, listed, written⟩ := sign
  refine ⟨_, ?_, written⟩
  clear written
  revert spelling
  cases op <;> decide

/-- The sign of a denial takes something. -/
theorem DenialSign.takes {text rest : List Char} (sign : DenialSign text rest) :
    Takes text rest := by
  rcases sign with rfl | word
  · exact takes_cons _ _
  · exact word.takes (by decide)

/-- The sign of a connective takes something. -/
theorem ConnectiveSign.takes {op : Connective} {text rest : List Char}
    (sign : ConnectiveSign op text rest) : Takes text rest := by
  cases op <;> rcases sign with rfl | word
  · exact (takes_cons _ _).trans (takes_cons _ _)
  · exact word.takes (by decide)
  · exact (takes_cons _ _).trans (takes_cons _ _)
  · exact word.takes (by decide)

/-- A predicate takes something. -/
theorem Predicate.takes {rank : PredicateRank} {depth : Nat} {text rest : List Char}
    {operand : Expr} (found : Predicate rank depth text operand rest) : Takes text rest := by
  induction found with
  | denial gap sign unary ih => exact gap.takes (sign.takes.trans ih)
  | group opening disjunction closing ih =>
    exact opening.takes ((takes_cons _ _).trans (ih.trans (closing.takes (takes_cons _ _))))
  | membership gap field between keyword listed =>
    exact gap.takes (field.takes.trans
      (between.takes ((keyword.takes (by decide)).trans listed.takes)))
  | comparison before gap signed after =>
    exact before.takes.trans (gap.takes (signed.takes.trans after.takes))
  | ofUnary unary ih => exact ih
  | ofConjunction conjunction ih => exact ih
  | and before gap signed after ihBefore ihAfter
  | or before gap signed after ihBefore ihAfter =>
    exact ihBefore.trans (gap.takes (signed.takes.trans ihAfter))

/-! ## First characters -/

/-- The characters that literals and fields begin with. -/
def beginsToken (c : Char) : Bool := isIdentStart c || isDigit c || c == '\'' || c == '"'

/-- The characters that operands begin with. -/
def beginsOperand (c : Char) : Bool := beginsToken c || c == '-' || c == '('

/-- No operand begins with a separator. -/
theorem isSeparator_of_beginsOperand {c : Char} (begins : beginsOperand c = true) :
    Text.isSeparator c = false := isSeparator_of_kind (by decide) begins

/-- What literals and fields begin with, operands begin with. -/
theorem beginsOperand_of_token {c : Char} (begins : beginsToken c = true) :
    beginsOperand c = true := by
  simp [beginsOperand, begins]

/-- A field begins with a token's character. -/
theorem Field.begins {text rest : List Char} {name : String} (field : Field text name rest) :
    ∃ c tail, text = c :: tail ∧ beginsToken c = true := by
  obtain ⟨c, tail, rfl, same | start⟩ := field.head
  · exact ⟨c, tail, rfl, by simp [beginsToken, same]⟩
  · exact ⟨c, tail, rfl, by simp [beginsToken, start]⟩

/-- Digits begin with a token's character. -/
theorem chars_begins {digits : List Digit} (filled : digits ≠ []) (rest : List Char) :
    ∃ c tail, Digits.chars digits ++ rest = c :: tail ∧ beginsToken c = true := by
  cases digits with
  | nil => contradiction
  | cons digit digits => exact ⟨_, _, rfl, by simp [beginsToken, isDigit_char]⟩

/-- A literal begins with a token's character. -/
theorem Literal.begins {text rest : List Char} {value : Value} (found : Literal text value rest) :
    ∃ c tail, text = c :: tail ∧ beginsToken c = true := by
  cases found with
  | nullWord word | trueWord word | falseWord word =>
    obtain ⟨c, tail, rfl, start, _⟩ := word.head (by decide)
    exact ⟨c, tail, rfl, by simp [beginsToken, start]⟩
  | integer filled written ended value => exact written ▸ chars_begins filled _
  | decimal filled further written ended => exact written ▸ chars_begins filled _
  | text written => exact ⟨_, _, written, by decide⟩

/-- After separators an operand begins with a character of its own. -/
theorem Operand.begins {rank : OperandRank} {depth : Nat} {text rest : List Char} {operand : Expr}
    (found : Operand rank depth text operand rest) :
    ∃ c tail, Text.skipSeparators text = c :: tail ∧ beginsOperand c = true := by
  induction found with
  | literal gap literal =>
    obtain ⟨c, tail, rfl, begins⟩ := literal.begins
    have begins := beginsOperand_of_token begins
    exact ⟨c, tail, gap.skip_cons (isSeparator_of_beginsOperand begins), begins⟩
  | field gap field =>
    obtain ⟨c, tail, rfl, begins⟩ := field.begins
    have begins := beginsOperand_of_token begins
    exact ⟨c, tail, gap.skip_cons (isSeparator_of_beginsOperand begins), begins⟩
  | opposite sign factor ih => exact ⟨_, _, sign.skip_cons (by decide), by decide⟩
  | group opening sum closing ih => exact ⟨_, _, opening.skip_cons (by decide), by decide⟩
  | ofFactor factor ih => exact ih
  | ofProduct product ih => exact ih
  | times before gap signed after ihBefore ihAfter => exact ihBefore
  | plus before gap signed after ihBefore ihAfter => exact ihBefore

/-- A gap may stand before an operand. -/
theorem Operand.afterGap {rank : OperandRank} {depth : Nat} {text mid rest : List Char}
    {operand : Expr} (found : Operand rank depth mid operand rest) (gap : Gap text mid) :
    Operand rank depth text operand rest := by
  induction found with
  | literal before literal => exact .literal (gap.trans before) literal
  | field before field => exact .field (gap.trans before) field
  | opposite sign factor => exact .opposite (gap.trans sign) factor
  | group opening sum closing => exact .group (gap.trans opening) sum closing
  | ofFactor factor ih => exact .ofFactor (ih gap)
  | ofProduct product ih => exact .ofProduct (ih gap)
  | times before between signed after ih => exact .times (ih gap) between signed after
  | plus before between signed after ih => exact .plus (ih gap) between signed after

/-- A field is an operand. -/
theorem Field.operand {text start rest : List Char} {name : String}
    (field : Field start name rest) (gap : Gap text start) :
    Operand .sum 0 text (.field name) rest := .ofProduct (.ofFactor (.field gap field))

/-- A gap may stand before items. -/
theorem Items.afterGap {depth : Nat} {text mid rest : List Char} {items : List Expr}
    (found : Items depth mid items rest) (gap : Gap text mid) : Items depth text items rest := by
  cases found with
  | one last => exact .one (last.afterGap gap)
  | more first comma others => exact .more (first.afterGap gap) comma others

/-- A gap may stand before a set. -/
theorem ItemSet.afterGap {depth : Nat} {text mid rest : List Char} {items : List Expr}
    (found : ItemSet depth mid items rest) (gap : Gap text mid) :
    ItemSet depth text items rest := by
  cases found with
  | empty opening closing => exact .empty (gap.trans opening) closing
  | items opening listed closing => exact .items (gap.trans opening) listed closing

/-- A gap may stand before a predicate. -/
theorem Predicate.afterGap {rank : PredicateRank} {depth : Nat} {text mid rest : List Char}
    {operand : Expr} (found : Predicate rank depth mid operand rest) (gap : Gap text mid) :
    Predicate rank depth text operand rest := by
  induction found with
  | denial before sign unary => exact .denial (gap.trans before) sign unary
  | group opening disjunction closing => exact .group (gap.trans opening) disjunction closing
  | membership before field between keyword listed =>
    exact .membership (gap.trans before) field between keyword listed
  | comparison before between signed after =>
    exact .comparison (before.afterGap gap) between signed after
  | ofUnary unary ih => exact .ofUnary (ih gap)
  | ofConjunction conjunction ih => exact .ofConjunction (ih gap)
  | and before between signed after ih => exact .and (ih gap) between signed after
  | or before between signed after ih => exact .or (ih gap) between signed after

/-! ## What goes on with a phrase -/

/-- The characters that would prolong the literal before them. -/
def prolongs (c : Char) : Bool := c == '.' || c == '\''

/-- The characters that would go on with a product. -/
def prolongsProduct (c : Char) : Bool := prolongs c || c == '*' || c == '/' || c == '%'

/-- The characters that would go on with a sum. -/
def prolongsSum (c : Char) : Bool := prolongsProduct c || c == '+' || c == '-'

/-- The characters that would prolong the sign of a comparison. -/
def prolongsSign (c : Char) : Bool := c == '=' || c == '>'

/-- The sign of a product is one of three characters. -/
theorem ProductSign.head {op : Arithmetic} {text rest : List Char}
    (sign : ProductSign op text rest) : ∃ c, text = c :: rest ∧ (c = '*' ∨ c = '/' ∨ c = '%') := by
  obtain ⟨listed, rfl⟩ := sign
  cases op with
  | mul => exact ⟨'*', rfl, by simp⟩
  | div => exact ⟨'/', rfl, by simp⟩
  | rem => exact ⟨'%', rfl, by simp⟩
  | add | sub => simp at listed

/-- The sign of a sum is one of two characters. -/
theorem SumSign.head {op : Arithmetic} {text rest : List Char} (sign : SumSign op text rest) :
    ∃ c, text = c :: rest ∧ (c = '+' ∨ c = '-') := by
  obtain ⟨listed, rfl⟩ := sign
  cases op with
  | add => exact ⟨'+', rfl, by simp⟩
  | sub => exact ⟨'-', rfl, by simp⟩
  | mul | div | rem => simp at listed

/-- After a gap the sign of a product stands first and prolongs no factor. -/
theorem ProductSign.follows {op : Arithmetic} {text sign rest : List Char}
    (signed : ProductSign op sign rest) (gap : Gap text sign) :
    Text.skipSeparators text = sign ∧ Ended prolongs sign := by
  obtain ⟨c, rfl, rfl | rfl | rfl⟩ := signed.head <;>
    exact ⟨gap.skip_cons (by decide), ended_cons.mpr (by decide)⟩

/-- After a gap the sign of a sum stands first and prolongs no product. -/
theorem SumSign.follows {op : Arithmetic} {text sign rest : List Char}
    (signed : SumSign op sign rest) (gap : Gap text sign) :
    Text.skipSeparators text = sign ∧ Ended prolongsProduct sign := by
  obtain ⟨c, rfl, rfl | rfl⟩ := signed.head <;>
    exact ⟨gap.skip_cons (by decide), ended_cons.mpr (by decide)⟩

/-- The characters that the comparison or the membership after an operand begins with. -/
def beginsRelation (c : Char) : Bool :=
  c == '=' || c == '!' || c == '<' || c == '>' || c.toLower == 'i'

/-- The characters that the sign of a connective begins with. -/
def beginsConnective : Connective → Char → Bool
  | .and, c => c == '&' || c.toLower == 'a'
  | .or, c => c == '|' || c.toLower == 'o'

/-- The characters that would go on with a conjunction. -/
def prolongsConjunction (c : Char) : Bool := prolongsSum c || beginsConnective .and c

/-- The characters that would go on with a disjunction. -/
def prolongsDisjunction (c : Char) : Bool := prolongsConjunction c || beginsConnective .or c

/-- What goes on with a sum is one of seven characters. -/
theorem prolongsSum_cases {c : Char} (inside : prolongsSum c = true) :
    c = '.' ∨ c = '\'' ∨ c = '*' ∨ c = '/' ∨ c = '%' ∨ c = '+' ∨ c = '-' := by
  simpa only [prolongsSum, prolongsProduct, prolongs, Bool.or_eq_true, beq_iff_eq, or_assoc] using
    inside

/-- No sum goes on with what begins a relation or the sign of a connective. -/
theorem prolongsSum_of_begins {c : Char}
    (begins : beginsRelation c = true ∨ ∃ op, beginsConnective op c = true) :
    prolongsSum c = false := by
  apply Bool.eq_false_iff.mpr
  intro inside
  have marks := prolongsSum_cases inside
  rcases begins with relation | ⟨op, connective⟩
  · rcases marks with rfl | rfl | rfl | rfl | rfl | rfl | rfl <;> revert relation <;> decide
  · cases op <;> rcases marks with rfl | rfl | rfl | rfl | rfl | rfl | rfl <;>
      revert connective <;> decide

/-- No conjunction goes on with the sign of a disjunction. -/
theorem prolongsConjunction_of_or {c : Char} (begins : beginsConnective .or c = true) :
    prolongsConjunction c = false := by
  have noSum := prolongsSum_of_begins (.inr ⟨.or, begins⟩)
  simp only [prolongsConjunction, noSum, Bool.false_or]
  simp only [beginsConnective, Bool.or_eq_true, beq_iff_eq] at begins
  rcases begins with rfl | letter
  · decide
  · simp only [beginsConnective, letter, Bool.or_eq_false_iff, beq_eq_false_iff_ne]
    refine ⟨?_, by decide⟩
    rintro rfl
    revert letter
    decide

/-- Neither a relation nor a connective begins with a separator. -/
theorem isSeparator_of_begins {c : Char}
    (begins : beginsRelation c = true ∨ ∃ op, beginsConnective op c = true) :
    Text.isSeparator c = false := by
  rcases begins with relation | ⟨op, connective⟩
  · exact isSeparator_of_kind (by decide) relation
  · cases op <;> exact isSeparator_of_kind (by decide) connective

/-- The sign of a comparison begins a relation, and with no letter. -/
theorem ComparisonSign.begins {op : Comparison} {text rest : List Char}
    (sign : ComparisonSign op text rest) :
    ∃ c tail, text = c :: tail ∧ beginsRelation c = true ∧ isIdentStart c = false := by
  obtain ⟨spelling, listed, rfl⟩ := sign
  cases op <;> simp only [spellings, List.mem_cons, List.not_mem_nil, or_false] at listed
  case eq | ne =>
    rcases listed with rfl | rfl <;> exact ⟨_, _, rfl, by decide, by decide⟩
  all_goals
    subst listed
    exact ⟨_, _, rfl, by decide, by decide⟩

/-- A keyword begins with its first letter in either case. -/
theorem Keyword.letter {keyword : String} {text rest : List Char} {letter : Char}
    (found : Keyword keyword text rest) (listed : keyword ∈ reserved)
    (first : keyword.toList.take 1 = [letter]) :
    ∃ c tail, text = c :: tail ∧ c.toLower = letter := by
  obtain ⟨c, tail, rfl, _, lower⟩ := found.head listed
  rw [first] at lower
  exact ⟨c, tail, rfl, List.head_eq_of_cons_eq lower⟩

/-- The keyword of a membership begins a relation. -/
theorem Keyword.beginsRelation {text rest : List Char} (word : Keyword "in" text rest) :
    ∃ c tail, text = c :: tail ∧ beginsRelation c = true := by
  obtain ⟨c, tail, rfl, lower⟩ : ∃ c tail, text = c :: tail ∧ c.toLower = 'i' :=
    word.letter (by decide) rfl
  exact ⟨c, tail, rfl, by simp [Phrase.beginsRelation, lower]⟩

/-- The sign of a connective begins with a character of its own. -/
theorem ConnectiveSign.begins {op : Connective} {text rest : List Char}
    (sign : ConnectiveSign op text rest) :
    ∃ c tail, text = c :: tail ∧ beginsConnective op c = true := by
  cases op with
  | and =>
    rcases sign with rfl | word
    · exact ⟨_, _, rfl, by decide⟩
    · obtain ⟨c, tail, rfl, lower⟩ : ∃ c tail, text = c :: tail ∧ c.toLower = 'a' :=
        word.letter (by decide) rfl
      exact ⟨c, tail, rfl, by simp [beginsConnective, lower]⟩
  | or =>
    rcases sign with rfl | word
    · exact ⟨_, _, rfl, by decide⟩
    · obtain ⟨c, tail, rfl, lower⟩ : ∃ c tail, text = c :: tail ∧ c.toLower = 'o' :=
        word.letter (by decide) rfl
      exact ⟨c, tail, rfl, by simp [beginsConnective, lower]⟩

/-- A text that begins otherwise after its separators begins otherwise. -/
theorem Ended.ofSkip {kind : Char → Bool} {text : List Char}
    (ended : Ended kind (Text.skipSeparators text))
    (free : [' ', '\t', '\n', '\r'].all (fun c => !kind c) = true) : Ended kind text := by
  intro c tail same
  by_cases separator : Text.isSeparator c = true
  · exact kind_of_isSeparator free separator
  · have stays : Text.skipSeparators (c :: tail) = c :: tail := by
      simp [Text.skipSeparators, separator]
    rw [same, stays] at ended
    exact ended_cons.mp ended

/-- What goes on with a product goes on with a sum. -/
theorem prolongsSum_of_product {c : Char} (inside : prolongsProduct c = true) :
    prolongsSum c = true := by
  simp [prolongsSum, inside]

/-- What goes on with a sum goes on with a conjunction. -/
theorem prolongsConjunction_of_sum {c : Char} (inside : prolongsSum c = true) :
    prolongsConjunction c = true := by
  simp [prolongsConjunction, inside]

/-- What prolongs a literal goes on with a product. -/
theorem prolongsProduct_of_last {c : Char} (inside : prolongs c = true) :
    prolongsProduct c = true := by
  simp [prolongsProduct, inside]

end ColumnQuery.Phrase
