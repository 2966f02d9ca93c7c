import ColumnQuery.Proofs.Grammar.Extent
import ColumnQuery.Proofs.Grammar.Reading
import ColumnQuery.Proofs.Text.Quoted

/-!
# Tokens are read as the grammar has them

Keywords, field names and the signs of arithmetic, denials and connectives are read exactly where
the grammar has them. A literal is read only where the grammar has it, and wherever it is not
followed by a character that would prolong it, a point or a further quote; so is the sign of a
comparison, which a further sign may prolong.
-/
namespace ColumnQuery.Grammar

open Outcome Phrase

/-! ## Keywords -/

/-- What follows a word in any case, found exactly after one of its spellings. -/
theorem dropKeyword_eq_some_iff {word text rest : List Char} :
    dropKeyword word text = some rest ↔
      ∃ spelled, lowered spelled = word ∧ text = spelled ++ rest := by
  induction word generalizing text with
  | nil =>
    constructor
    · intro found
      exact ⟨[], rfl, by simpa [dropKeyword] using found⟩
    · rintro ⟨spelled, same, rfl⟩
      have empty : spelled = [] := List.map_eq_nil_iff.mp same
      simp [dropKeyword, empty]
  | cons w word ih =>
    cases text with
    | nil =>
      simp only [dropKeyword, reduceCtorEq, false_iff, not_exists, not_and]
      intro spelled same impossible
      have empty := (List.append_eq_nil_iff.mp impossible.symm).1
      rw [empty] at same
      contradiction
    | cons c text =>
      unfold dropKeyword
      split
      · rename_i same
        rw [ih]
        constructor
        · rintro ⟨spelled, rfl, rfl⟩
          exact ⟨c :: spelled, by simp [lowered, same], rfl⟩
        · rintro ⟨spelled, lower, written⟩
          cases spelled with
          | nil => contradiction
          | cons d spelled =>
            cases written
            exact ⟨spelled, (List.cons.inj lower).2, rfl⟩
      · rename_i other
        simp only [reduceCtorEq, false_iff, not_exists, not_and]
        intro spelled lower written
        cases spelled with
        | nil => contradiction
        | cons d spelled =>
          cases written
          exact other (List.cons.inj lower).1

/-- A keyword is read exactly where the grammar has it. -/
theorem keyword_eq_done {word : String} {text rest : List Char} {value : Unit} :
    keyword word text = .done value rest ↔ Keyword word text rest := by
  unfold keyword
  constructor
  · intro read
    split at read
    · cases read
    · rename_i found
      cases read
      obtain ⟨spelled, lower, written⟩ := dropKeyword_eq_some_iff.mp found
      exact ⟨spelled, lower, written, ended_nil _⟩
    · rename_i c tail found
      split at read
      · cases read
      · rename_i other
        cases read
        obtain ⟨spelled, lower, written⟩ := dropKeyword_eq_some_iff.mp found
        exact ⟨spelled, lower, written, ended_cons.mpr (by simpa using other)⟩
  · rintro ⟨spelled, lower, written, ended⟩
    rw [dropKeyword_eq_some_iff.mpr ⟨spelled, lower, written⟩]
    cases rest with
    | nil => rfl
    | cons c tail => simp [ended_cons.mp ended]

/-- Reading a keyword never halts. -/
theorem keyword_not_halts (word : String) (text : List Char) : ¬ (keyword word text).Halts := by
  unfold keyword
  split
  · exact not_halts_miss _ _
  · exact not_halts_done _ _
  · split
    · exact not_halts_miss _ _
    · exact not_halts_done _ _

/-- A keyword is missed where the grammar has none. -/
theorem keyword_misses {word : String} {text : List Char}
    (other : ∀ rest, ¬ Keyword word text rest) : (keyword word text).Misses :=
  misses_of_not (fun _ rest read => other rest (keyword_eq_done.mp read)) (keyword_not_halts _ _)

/-- A reserved word is missed on a text that starts with no letter. -/
theorem keyword_misses_of_head {word : String} {c : Char} {tail : List Char}
    (listed : word ∈ reserved) (other : isIdentStart c = false) :
    (keyword word (c :: tail)).Misses := by
  apply keyword_misses
  intro rest found
  obtain ⟨d, _, same, start, _⟩ := found.head listed
  cases same
  rw [other] at start
  contradiction

/-! ## Field names -/

/-- An identifier is read exactly where it is the run of identifier characters at the front. -/
theorem identifier_eq_done {text rest : List Char} {name : String} :
    identifier text = .done name rest ↔
      ∃ word, Identifier word ∧ text = word ++ rest ∧ Ended isIdentChar rest ∧
        name = String.ofList word := by
  constructor
  · intro read
    cases text with
    | nil => cases read
    | cons c tail =>
      unfold identifier at read
      by_cases start : isIdentStart c = true
      · simp only [start, ↓reduceIte] at read
        split at read
        · cases read
        · rename_i free
          cases read
          refine ⟨c :: tail.takeWhile isIdentChar, ?_, ?_, ended_dropWhile _ _, rfl⟩
          · have inside := List.all_eq_true.mp (List.all_takeWhile (p := isIdentChar) (l := tail))
            exact ⟨c, _, rfl, start, inside, by simpa using free⟩
          · rw [List.cons_append, List.takeWhile_append_dropWhile]
      · simp [start] at read
  · rintro ⟨word, whole, rfl, ended, rfl⟩
    obtain ⟨c, tail, rfl, start, inside, free⟩ := whole
    simp only [identifier, List.cons_append, start, ↓reduceIte, takeWhile_run inside ended,
      dropWhile_run inside ended, free, Bool.false_eq_true]

/-- A name between double quotes is read exactly where the grammar has it. -/
theorem quotedName_eq_done {text rest : List Char} {name : String} :
    quotedName text = .done name rest ↔
      ∃ inside, inside ≠ [] ∧ '"' ∉ inside ∧ text = '"' :: (inside ++ '"' :: rest) ∧
        name = String.ofList inside := by
  unfold quotedName
  constructor
  · intro read
    obtain ⟨_, body, opened, read⟩ := bind_eq_done.mp read
    rw [char_eq_done.mp opened]
    dsimp only at read
    split at read
    · cases read
    · rename_i filled
      obtain ⟨_, closed, rfl⟩ := map_eq_done.mp read
      refine ⟨body.takeWhile (· != '"'), by simpa using filled, ?_, ?_, rfl⟩
      · intro member
        have plain := List.all_eq_true.mp List.all_takeWhile _ member
        simp at plain
      · rw [← char_eq_done.mp closed, List.takeWhile_append_dropWhile]
  · rintro ⟨inside, filled, plain, rfl, rfl⟩
    have run : ∀ c ∈ inside, (c != '"') = true := by
      intro c member
      have different : c ≠ '"' := fun same => plain (same ▸ member)
      simpa using different
    have ended : Ended (· != '"') ('"' :: rest) := ended_cons.mpr (by decide)
    simp only [char, ↓reduceIte, done_bind, takeWhile_run run ended, dropWhile_run run ended,
      List.isEmpty_iff, filled, done_map]

/-- A field name is read exactly where the grammar has it. -/
theorem fieldName_eq_done {text rest : List Char} {name : String} :
    fieldName text = .done name rest ↔ Field text name rest := by
  unfold fieldName
  rw [orElse_eq_done, quotedName_eq_done]
  constructor
  · rintro (⟨inside, filled, plain, written, rfl⟩ | ⟨_, read⟩)
    · exact .quoted filled plain written
    · obtain ⟨word, whole, written, ended, rfl⟩ := identifier_eq_done.mp read
      exact .bare whole written ended
  · intro field
    cases field with
    | bare whole written ended =>
      refine .inr ⟨?_, identifier_eq_done.mpr ⟨_, whole, written, ended, rfl⟩⟩
      obtain ⟨c, tail, rfl, start, _⟩ := whole
      refine (char_misses ?_).bind _
      intro rest same
      rw [written] at same
      cases same
      revert start
      decide
    | quoted filled plain written => exact .inl ⟨_, filled, plain, written, rfl⟩

/-- Reading an identifier never halts. -/
theorem identifier_not_halts (text : List Char) : ¬ (identifier text).Halts := by
  unfold identifier
  split
  · exact not_halts_miss _ _
  · split
    · dsimp only
      split
      · exact not_halts_miss _ _
      · exact not_halts_done _ _
    · exact not_halts_miss _ _

/-- Reading a field name never halts. -/
theorem fieldName_not_halts (text : List Char) : ¬ (fieldName text).Halts := by
  intro halts
  rcases halts.of_orElse with halts | halts
  · rcases halts.of_bind with halts | ⟨_, rest, _, halts⟩
    · exact char_not_halts _ _ halts
    · dsimp only at halts
      split at halts
      · exact not_halts_miss _ _ halts
      · exact char_not_halts _ _ halts.of_map
  · exact identifier_not_halts _ halts

/-- A field name is missed where the grammar has none. -/
theorem fieldName_misses {text : List Char} (other : ∀ name rest, ¬ Field text name rest) :
    (fieldName text).Misses :=
  misses_of_not (fun name rest read => other name rest (fieldName_eq_done.mp read))
    (fieldName_not_halts _)

/-! ## Literals -/

/-- The digits found at the front of a text are all there are. -/
theorem ended_scan (text : List Char) : Ended isDigit (Digits.scan text).2 := by
  induction text with
  | nil => exact ended_nil _
  | cons c tail ih =>
    unfold Digits.scan
    cases read : Digit.ofChar? c with
    | none => exact ended_cons.mpr (by simp [isDigit, read])
    | some digit => exact ih

/-- Digits followed by none are found whole. -/
theorem scan_of_ended {digits : List Digit} {rest : List Char} (ended : Ended isDigit rest) :
    Digits.scan (Digits.chars digits ++ rest) = (digits, rest) :=
  Digits.scan_chars_append digits rest fun c tail same => by
    simpa [isDigit] using ended c tail same

/-- Reading a number never halts. -/
theorem number_not_halts (text : List Char) : ¬ (number text).Halts := by
  unfold number
  grind [not_halts_done, not_halts_miss]

/-- A number is read only where the grammar has it. -/
theorem literal_of_number {text rest : List Char} {value : Value}
    (read : number text = .done value rest) : Literal text value rest := by
  have written := Digits.chars_append_scan text
  have ended := ended_scan text
  unfold number at read
  generalize Digits.scan text = found at read written ended
  obtain ⟨whole, behind⟩ := found
  dsimp only at read written ended
  split at read
  · cases read
  rename_i filled
  have filled : whole ≠ [] := by simpa using filled
  -- Without a fraction the digits are an integer, which may be beyond the word.
  have integer {n : Bigint} (admitted : Bigint.ofInt? (Digits.value whole) = some n) :
      Literal text (.int n) behind :=
    .integer filled written.symm ended (Bigint.ofInt?_eq_some_iff.mp admitted).symm
  split at read
  · rename_i afterPoint
    have writtenFraction := Digits.chars_append_scan afterPoint
    have endedFraction := ended_scan afterPoint
    generalize Digits.scan afterPoint = found at read writtenFraction endedFraction
    obtain ⟨fraction, tail⟩ := found
    dsimp only at read writtenFraction endedFraction
    split at read
    · split at read
      · rename_i n admitted
        cases read
        exact integer admitted
      · cases read
    · rename_i further
      cases read
      have further : fraction ≠ [] := by simpa using further
      exact .decimal filled further (by rw [writtenFraction, written]) endedFraction
  · split at read
    · rename_i n admitted
      cases read
      exact integer admitted
    · cases read

/-- A text literal is read only where the grammar has it. -/
theorem literal_of_textLiteral {text rest : List Char} {value : Value}
    (read : textLiteral text = .done value rest) : Literal text value rest := by
  unfold textLiteral at read
  split at read
  · split at read
    · rename_i content tail found
      cases read
      refine .text ?_
      rw [(Text.Quoted.eq_of_scanBody found).1]
      simp [Text.Quoted.encode]
    · cases read
  · cases read

/-- A literal is read only where the grammar has it. -/
theorem literal_of_eq_done {text rest : List Char} {value : Value}
    (read : literal text = .done value rest) : Literal text value rest := by
  unfold literal at read
  rcases orElse_eq_done.mp read with null | ⟨_, read⟩
  · obtain ⟨_, found, rfl⟩ := map_eq_done.mp null
    exact .nullWord (keyword_eq_done.mp found)
  rcases orElse_eq_done.mp read with true | ⟨_, read⟩
  · obtain ⟨_, found, rfl⟩ := map_eq_done.mp true
    exact .trueWord (keyword_eq_done.mp found)
  rcases orElse_eq_done.mp read with false | ⟨_, read⟩
  · obtain ⟨_, found, rfl⟩ := map_eq_done.mp false
    exact .falseWord (keyword_eq_done.mp found)
  rcases orElse_eq_done.mp read with found | ⟨_, read⟩
  · exact literal_of_number found
  · exact literal_of_textLiteral read

/-- A number is missed where no digit stands. -/
theorem number_misses {text : List Char} (other : Ended isDigit text) : (number text).Misses := by
  apply misses_of_not _ (number_not_halts text)
  intro value rest read
  have scanned : Digits.scan (Digits.chars [] ++ text) = ([], text) := scan_of_ended other
  unfold number at read
  rw [show Digits.scan text = ([], text) from scanned] at read
  cases read

/-- A literal is missed where no word for one, no number and no quote stands. -/
theorem literal_misses {c : Char} {tail : List Char}
    (words : ∀ word ∈ ["null", "true", "false"], (keyword word (c :: tail)).Misses)
    (noNumber : (number (c :: tail)).Misses) (quote : c ≠ '\'') : (literal (c :: tail)).Misses := by
  have null := words "null" (by decide)
  have true := words "true" (by decide)
  have false := words "false" (by decide)
  unfold literal
  rw [(null.map _).orElse, (true.map _).orElse, (false.map _).orElse, noNumber.orElse]
  unfold textLiteral
  split
  · rename_i same
    cases same
    contradiction
  · exact misses_miss _ _

/-- A literal is missed on a text that starts with neither a letter, a digit nor a quote. -/
theorem literal_misses_of_head {c : Char} {tail : List Char} (letter : isIdentStart c = false)
    (digit : isDigit c = false) (quote : c ≠ '\'') : (literal (c :: tail)).Misses := by
  refine literal_misses ?_ (number_misses (ended_cons.mpr digit)) quote
  intro word listed
  refine keyword_misses_of_head ?_ letter
  revert word
  decide

/-- A literal is missed on a text that starts with a letter but with no word for a literal. -/
theorem literal_misses_of_word {c : Char} {tail : List Char} (start : isIdentStart c = true)
    (words : ∀ word ∈ ["null", "true", "false"], ∀ rest, ¬ Keyword word (c :: tail) rest) :
    (literal (c :: tail)).Misses := by
  refine literal_misses (fun word listed => keyword_misses (words word listed)) ?_ ?_
  · apply number_misses
    apply ended_cons.mpr
    apply Bool.eq_false_iff.mpr
    intro digit
    rw [isIdentStart_of_isDigit digit] at start
    contradiction
  · rintro rfl
    revert start
    decide

/-- A literal is missed where a field stands. -/
theorem literal_misses_of_field {text rest : List Char} {name : String}
    (field : Field text name rest) : (literal text).Misses := by
  obtain ⟨c, tail, rfl, rfl | start⟩ := field.head
  · exact literal_misses_of_head (by decide) (by decide) (by decide)
  · refine literal_misses_of_word start fun word listed rest => field.not_keyword ?_
    revert word
    decide

/-- A number is read where the grammar has an integer that no point follows. -/
theorem number_of_integer {digits : List Digit} {rest : List Char} {n : Bigint}
    (filled : digits ≠ []) (ended : Ended isDigit rest) (value : n.value = Digits.value digits)
    (last : Ended prolongs rest) :
    number (Digits.chars digits ++ rest) = .done (.int n) rest := by
  unfold number
  rw [scan_of_ended ended]
  have admitted : Bigint.ofInt? (Digits.value digits) = some n :=
    Bigint.ofInt?_eq_some_iff.mpr value.symm
  simp only [List.isEmpty_iff, filled, ↓reduceIte, admitted]
  split
  · rename_i tail
    exact absurd (last _ _ rfl) (by decide)
  · rfl

/-- A number is read where the grammar has a decimal. -/
theorem number_of_decimal {whole fraction : List Digit} {rest : List Char} (filled : whole ≠ [])
    (further : fraction ≠ []) (ended : Ended isDigit rest) :
    number (Digits.chars whole ++ '.' :: (Digits.chars fraction ++ rest)) =
      .done (.float (Numeral.double { negative := false, whole, fraction })) rest := by
  unfold number
  rw [scan_of_ended (ended_cons.mpr (by decide))]
  simp only [List.isEmpty_iff, filled, ↓reduceIte, scan_of_ended ended, further]

/-- The first of some digits is a digit, which no reserved word starts with. -/
theorem keyword_misses_of_digits {word : String} {digits : List Digit} (listed : word ∈ reserved)
    (filled : digits ≠ []) (rest : List Char) :
    (keyword word (Digits.chars digits ++ rest)).Misses := by
  cases digits with
  | nil => contradiction
  | cons digit digits =>
    exact keyword_misses_of_head listed (isIdentStart_of_isDigit (isDigit_char digit))

/-- A literal is read where keywords are missed and a number is read. -/
theorem literal_of_number_eq_done {text rest : List Char} {value : Value}
    (other : ∀ word ∈ reserved, (keyword word text).Misses)
    (read : number text = .done value rest) : literal text = .done value rest := by
  unfold literal
  rw [((other "null" (by decide)).map _).orElse, ((other "true" (by decide)).map _).orElse,
    ((other "false" (by decide)).map _).orElse, read]
  rfl

/-- A literal is read wherever the grammar has it and nothing prolongs it. -/
theorem literal_eq_done {text rest : List Char} {value : Value} (found : Literal text value rest)
    (last : Ended prolongs rest) : literal text = .done value rest := by
  have unlike (word' : String) {word : String} (listed : word ∈ reserved)
      (listed' : word' ∈ reserved) (different : word ≠ word') (found : Keyword word text rest) :
      (keyword word' text).Misses :=
    keyword_misses fun _ found' => different (found.unique found' listed listed')
  cases found with
  | nullWord word =>
    have read : keyword "null" text = .done () rest := keyword_eq_done.mpr word
    unfold literal
    rw [read]
    rfl
  | trueWord word =>
    have null := unlike "null" (by decide) (by decide) (by decide) word
    have read : keyword "true" text = .done () rest := keyword_eq_done.mpr word
    unfold literal
    rw [(null.map _).orElse, read]
    rfl
  | falseWord word =>
    have null := unlike "null" (by decide) (by decide) (by decide) word
    have true := unlike "true" (by decide) (by decide) (by decide) word
    have read : keyword "false" text = .done () rest := keyword_eq_done.mpr word
    unfold literal
    rw [(null.map _).orElse, (true.map _).orElse, read]
    rfl
  | integer filled written ended value =>
    subst written
    exact literal_of_number_eq_done
      (fun word listed => keyword_misses_of_digits listed filled rest)
      (number_of_integer filled ended value last)
  | decimal filled further written ended =>
    subst written
    exact literal_of_number_eq_done
      (fun word listed => keyword_misses_of_digits listed filled _)
      (number_of_decimal filled further ended)
  | text written =>
    subst written
    have other (word : String) (listed : word ∈ reserved) (tail : List Char) :
        (keyword word ('\'' :: tail)).Misses := keyword_misses_of_head listed (by decide)
    have alone : ∀ tail, rest ≠ '\'' :: tail := by
      rintro tail rfl
      exact absurd (last _ _ rfl) (by decide)
    unfold literal
    simp only [Text.Quoted.encode, List.cons_append, List.append_assoc, List.nil_append]
    rw [((other "null" (by decide) _).map _).orElse, ((other "true" (by decide) _).map _).orElse,
      ((other "false" (by decide) _).map _).orElse,
      (number_misses (ended_cons.mpr (by decide))).orElse]
    simp only [textLiteral, Text.Quoted.scanBody_double _ _ alone]

/-! ## Signs -/

/-- The sign of a product is read exactly where the grammar has it. -/
theorem productOperator_eq_done {op : Arithmetic} {text rest : List Char} :
    productOperator text = .done op rest ↔ ProductSign op text rest := by
  constructor
  · intro read
    rcases orElse_eq_done.mp read with star | ⟨_, read⟩
    · obtain ⟨_, mark, rfl⟩ := map_eq_done.mp star
      exact ⟨by decide, char_eq_done.mp mark⟩
    rcases orElse_eq_done.mp read with slash | ⟨_, percent⟩
    · obtain ⟨_, mark, rfl⟩ := map_eq_done.mp slash
      exact ⟨by decide, char_eq_done.mp mark⟩
    · obtain ⟨_, mark, rfl⟩ := map_eq_done.mp percent
      exact ⟨by decide, char_eq_done.mp mark⟩
  · rintro ⟨listed, rfl⟩
    cases op with
    | mul | div | rem => rfl
    | add | sub => simp at listed

/-- The sign of a sum is read exactly where the grammar has it. -/
theorem sumOperator_eq_done {op : Arithmetic} {text rest : List Char} :
    sumOperator text = .done op rest ↔ SumSign op text rest := by
  constructor
  · intro read
    rcases orElse_eq_done.mp read with plus | ⟨_, minus⟩
    · obtain ⟨_, mark, rfl⟩ := map_eq_done.mp plus
      exact ⟨by decide, char_eq_done.mp mark⟩
    · obtain ⟨_, mark, rfl⟩ := map_eq_done.mp minus
      exact ⟨by decide, char_eq_done.mp mark⟩
  · rintro ⟨listed, rfl⟩
    cases op with
    | add | sub => rfl
    | mul | div | rem => simp at listed

/-- The sign of a product is missed where nothing goes on with a product. -/
theorem productOperator_misses {text : List Char} (last : Ended prolongsProduct text) :
    (productOperator text).Misses := by
  apply misses_of_not
  · intro op rest read
    obtain ⟨c, rfl, marks⟩ := (productOperator_eq_done.mp read).head
    have other := ended_cons.mp last
    rcases marks with rfl | rfl | rfl <;> revert other <;> decide
  · intro halts
    rcases halts.of_orElse with halts | halts
    · exact char_not_halts _ _ halts.of_map
    rcases halts.of_orElse with halts | halts
    · exact char_not_halts _ _ halts.of_map
    · exact char_not_halts _ _ halts.of_map

/-- The sign of a sum is missed where nothing goes on with a sum. -/
theorem sumOperator_misses {text : List Char} (last : Ended prolongsSum text) :
    (sumOperator text).Misses := by
  apply misses_of_not
  · intro op rest read
    obtain ⟨c, rfl, marks⟩ := (sumOperator_eq_done.mp read).head
    have other := ended_cons.mp last
    rcases marks with rfl | rfl <;> revert other <;> decide
  · intro halts
    rcases halts.of_orElse with halts | halts
    · exact char_not_halts _ _ halts.of_map
    · exact char_not_halts _ _ halts.of_map

/-- The sign of a comparison is read only where the grammar has it. -/
theorem comparisonSign_of_eq_done {op : Comparison} {text rest : List Char}
    (read : comparisonSign text = .done op rest) : ComparisonSign op text rest := by
  simp only [comparisonSign, orElse_eq_done, map_eq_done, symbol_eq_done] at read
  rcases read with ⟨_, written, rfl⟩ | ⟨_, read⟩
  · exact ⟨"==", by decide, written⟩
  rcases read with ⟨_, written, rfl⟩ | ⟨_, read⟩
  · exact ⟨"!=", by decide, written⟩
  rcases read with ⟨_, written, rfl⟩ | ⟨_, read⟩
  · exact ⟨"<>", by decide, written⟩
  rcases read with ⟨_, written, rfl⟩ | ⟨_, read⟩
  · exact ⟨">=", by decide, written⟩
  rcases read with ⟨_, written, rfl⟩ | ⟨_, read⟩
  · exact ⟨"<=", by decide, written⟩
  rcases read with ⟨_, written, rfl⟩ | ⟨_, read⟩
  · exact ⟨"=", by decide, written⟩
  rcases read with ⟨_, written, rfl⟩ | ⟨_, read⟩
  · exact ⟨">", by decide, written⟩
  obtain ⟨_, written, rfl⟩ := read
  exact ⟨"<", by decide, written⟩

/-- The sign of a comparison is read wherever the grammar has it and nothing prolongs it. -/
theorem comparisonSign_eq_done {op : Comparison} {text rest : List Char}
    (sign : ComparisonSign op text rest) (last : Ended prolongsSign rest) :
    comparisonSign text = .done op rest := by
  obtain ⟨spelling, listed, rfl⟩ := sign
  cases rest with
  | nil =>
    cases op <;> simp only [spellings, List.mem_cons, List.not_mem_nil, or_false] at listed
    case eq | ne => obtain rfl | rfl := listed <;> rfl
    all_goals subst listed; rfl
  | cons c tail =>
    have other := ended_cons.mp last
    simp only [prolongsSign, Bool.or_eq_false_iff, beq_eq_false_iff_ne] at other
    obtain ⟨equals, greater⟩ := other
    cases op <;> simp only [spellings, List.mem_cons, List.not_mem_nil, or_false] at listed
    case eq | ne =>
      rcases listed with rfl | rfl <;>
        simp [comparisonSign, symbol, dropWord, Outcome.map, Outcome.bind, Outcome.orElse, equals]
    all_goals
      subst listed
      simp [comparisonSign, symbol, dropWord, Outcome.map, Outcome.bind, Outcome.orElse, equals,
        greater]

/-- A symbol or a keyword in its place is read exactly where the grammar has one of them. -/
theorem symbol_orElse_keyword_eq_done {sign word : String} {c : Char} {mark text rest : List Char}
    {value : Unit} (begins : sign.toList = c :: mark) (other : isIdentStart c = false)
    (listed : word ∈ reserved) :
    ((symbol sign text).orElse fun _ => keyword word text) = .done value rest ↔
      text = sign.toList ++ rest ∨ Keyword word text rest := by
  rw [orElse_eq_done, symbol_eq_done, keyword_eq_done]
  constructor
  · exact Or.imp id And.right
  · rintro (written | found)
    · exact .inl written
    · refine .inr ⟨symbol_misses ?_, found⟩
      obtain ⟨d, tail, rfl, start, _⟩ := found.head listed
      intro rest same
      rw [begins] at same
      cases same
      rw [other] at start
      contradiction

/-- Reading a symbol or a keyword in its place never halts. -/
theorem symbol_orElse_keyword_not_halts (sign word : String) (text : List Char) :
    ¬ ((symbol sign text).orElse fun _ => keyword word text).Halts := by
  intro halts
  rcases halts.of_orElse with halts | halts
  · exact symbol_not_halts _ _ halts
  · exact keyword_not_halts _ _ halts

/-- The sign of a denial is read exactly where the grammar has it. -/
theorem denialSign_eq_done {text rest : List Char} {value : Unit} :
    denialSign text = .done value rest ↔ DenialSign text rest := by
  unfold denialSign DenialSign
  exact symbol_orElse_keyword_eq_done rfl (by decide) (by decide)

/-- The sign of a denial is missed where the grammar has none. -/
theorem denialSign_misses {text : List Char} (other : ∀ rest, ¬ DenialSign text rest) :
    (denialSign text).Misses :=
  misses_of_not (fun _ rest read => other rest (denialSign_eq_done.mp read))
    (symbol_orElse_keyword_not_halts _ _ _)

/-- The sign of a connective. -/
def connectiveSign : Connective → Reader Connective
  | .and => conjunctionSign
  | .or => disjunctionSign

/-- The sign of a connective is read exactly where the grammar has it. -/
theorem connectiveSign_eq_done {op found : Connective} {text rest : List Char} :
    connectiveSign op text = .done found rest ↔ op = found ∧ ConnectiveSign op text rest := by
  cases op <;>
    simp only [connectiveSign, conjunctionSign, disjunctionSign, map_eq_done, ConnectiveSign]
  all_goals
    rw [exists_and_right, and_comm]
    refine and_congr_right fun _ => ?_
    constructor
    · rintro ⟨_, read⟩
      exact (symbol_orElse_keyword_eq_done rfl (by decide) (by decide)).mp read
    · intro sign
      exact ⟨(), (symbol_orElse_keyword_eq_done rfl (by decide) (by decide)).mpr sign⟩

/-- The sign of a connective is missed where the grammar has none. -/
theorem connectiveSign_misses {op : Connective} {text : List Char}
    (other : ∀ rest, ¬ ConnectiveSign op text rest) : (connectiveSign op text).Misses := by
  apply misses_of_not
  · intro found rest read
    exact other rest (connectiveSign_eq_done.mp read).2
  · cases op <;> exact fun halts => symbol_orElse_keyword_not_halts _ _ _ halts.of_map

end ColumnQuery.Grammar
