import ColumnQuery.Proofs.Clause.Compile
import ColumnQuery.Proofs.Expr.Induction
import ColumnQuery.Proofs.Grammar.Extent
import ColumnQuery.Proofs.Text.Quoted
import ColumnQuery.Proofs.Uuid

/-!
# Literals tell values apart

A literal in a list or a set is followed by a comma or by the closing bracket. Up to there it can be
told where it ends and which value it stands for (`Value.Legible.splits`), although quotes, commas
and brackets may stand inside a text and integers, identifiers and bytes share their characters. So
a clause of a membership has one list of values (`membership_unambiguous`). Floating point numbers
and timestamps are left out: a whole number is written like an integer, a timestamp like a text.
-/
namespace ColumnQuery

open Grammar Phrase

/-- The values without a floating point number or a timestamp at any depth. -/
inductive Value.Legible : Value → Prop where
  | null : Legible .null
  | bool (b : Bool) : Legible (.bool b)
  | int (n : Bigint) : Legible (.int n)
  | text (s : String) : Legible (.text s)
  | uuid (u : Uuid) : Legible (.uuid u)
  | blob (bytes : List UInt8) : Legible (.blob bytes)
  | list {items : List Value} (inside : ∀ item ∈ items, Legible item) : Legible (.list items)

/-! ## Digits -/

/-- Digits are told apart by their characters. -/
theorem Digits.chars_injective : Function.Injective chars := by
  intro digits digits' same
  refine (List.map_inj_right ?_).mp same
  intro digit digit' equal
  have read := Digit.ofChar?_char digit
  rw [equal, Digit.ofChar?_char] at read
  exact (Option.some.inj read).symm

/-- Only the first character of a decimal text may be a minus sign. -/
theorem isDigit_of_mem_decimalText {n : Int} {c : Char} (member : c ∈ decimalText n) :
    c = '-' ∨ isDigit c = true := by
  have digits (inside : c ∈ Digits.chars (Digits.ofNat n.natAbs)) : isDigit c = true := by
    obtain ⟨digit, _, rfl⟩ := List.mem_map.mp inside
    exact isDigit_char digit
  unfold decimalText at member
  split at member
  · rcases List.mem_cons.mp member with minus | inside
    · exact .inl minus
    · exact .inr (digits inside)
  · exact .inr (digits member)

/-- Integers are told apart by their decimal texts. -/
theorem decimalText_injective : Function.Injective decimalText := by
  intro n m same
  have positive (k : Nat) (tail : List Char) :
      Digits.chars (Digits.ofNat k) ≠ '-' :: tail := by
    obtain ⟨digit, digits, written⟩ := List.exists_cons_of_ne_nil (Digits.ofNat_ne_nil k)
    rw [written]
    exact char_cons_ne digit (by decide) _ tail
  have sizes (equal : Digits.chars (Digits.ofNat n.natAbs) = Digits.chars (Digits.ofNat m.natAbs)) :
      n.natAbs = m.natAbs := by
    have values := congrArg Digits.value (Digits.chars_injective equal)
    rwa [Digits.value_ofNat, Digits.value_ofNat] at values
  unfold decimalText at same
  by_cases left : n < 0
  · by_cases right : m < 0
    · simp only [left, right, ↓reduceIte, List.cons.injEq, true_and] at same
      have equal := sizes same
      omega
    · simp only [left, right, ↓reduceIte] at same
      exact absurd same.symm (positive _ _)
  · by_cases right : m < 0
    · simp only [left, right, ↓reduceIte] at same
      exact absurd same (positive _ _)
    · simp only [left, right, ↓reduceIte] at same
      have equal := sizes same
      omega

/-- Bytes are told apart by their digits. -/
theorem Text.Hex.chars_injective : Function.Injective chars := by
  intro bytes bytes' same
  have read := bytes?_chars bytes
  rw [same, bytes?_chars] at read
  exact (Option.some.inj read).symm

/-- The characters of bytes are hexadecimal digits. -/
theorem Text.Hex.exists_digit {bytes : List UInt8} {c : Char} (member : c ∈ chars bytes) :
    ∃ digit, c = digitChar digit := by
  obtain ⟨byte, _, inside⟩ := List.mem_flatMap.mp member
  simp only [byteChars, List.mem_cons, List.not_mem_nil, or_false] at inside
  rcases inside with high | low
  · exact ⟨_, high⟩
  · exact ⟨_, low⟩

/-- Identifiers are told apart by their characters. -/
theorem Uuid.chars_injective : Function.Injective chars := by
  intro uuid uuid' same
  have read := ofText?_text uuid
  rw [text, same, ← text, ofText?_text] at read
  exact (Option.some.inj read).symm

/-- The characters of an identifier are hyphens and hexadecimal digits. -/
theorem Uuid.exists_digit {uuid : Uuid} {c : Char} (member : c ∈ uuid.chars) :
    c = '-' ∨ ∃ digit, c = Text.Hex.digitChar digit := by
  simp only [chars, List.mem_append, List.mem_cons] at member
  have group {bytes : List UInt8} (inside : c ∈ Text.Hex.chars bytes) :
      c = '-' ∨ ∃ digit, c = Text.Hex.digitChar digit := .inr (Text.Hex.exists_digit inside)
  rcases member with
    (((first | hyphen | second) | hyphen | third) | hyphen | fourth) | hyphen | fifth
  · exact group first
  · exact .inl hyphen
  · exact group second
  · exact .inl hyphen
  · exact group third
  · exact .inl hyphen
  · exact group fourth
  · exact .inl hyphen
  · exact group fifth

/-! ## Words -/

namespace Value

/-- The values whose literals are words: letters, digits and hyphens and nothing else. -/
def isWord : Value → Bool
  | null | bool _ | int _ | uuid _ | blob _ => true
  | _ => false

/-- What words consist of. -/
def inWord (c : Char) : Bool := isIdentChar c || c == '-'

/-- The letters in words that are no hexadecimal digits, one at least for each kind that has any. -/
def kindMarks : List Char := ['N', 't', 's', 'x']

/-- The kind of value that a word is the literal of. A letter that is no hexadecimal digit tells
null, booleans and bytes, and a hyphen that is no minus sign tells an identifier. -/
def kindOfWord (word : List Char) : Kind :=
  if 'N' ∈ word then .null
  else if 't' ∈ word ∨ 's' ∈ word then .bool
  else if 'x' ∈ word then .blob
  else if '-' ∈ word.tail then .uuid
  else .int

/-- A text of hyphens and hexadecimal digits. -/
def Numeric (word : List Char) : Prop := ∀ c ∈ word, c = '-' ∨ ∃ digit, c = Text.Hex.digitChar digit

/-- A hexadecimal digit is none of the letters that tell kinds, no hyphen, and inside a word. -/
theorem digitChar_apart (digit : Fin 16) :
    Text.Hex.digitChar digit ∉ kindMarks ∧ Text.Hex.digitChar digit ≠ '-' ∧
      inWord (Text.Hex.digitChar digit) = true := by
  revert digit
  decide

/-- Every decimal digit is a hexadecimal one. -/
theorem exists_digitChar {c : Char} (decimal : isDigit c = true) :
    ∃ digit, c = Text.Hex.digitChar digit := by
  obtain ⟨d, rfl⟩ := isDigit_cases decimal
  clear decimal
  revert d
  decide

/-- The digits and the sign of an integer are numeric. -/
theorem numeric_decimalText (n : Int) : Numeric (decimalText n) := by
  intro c member
  rcases isDigit_of_mem_decimalText member with minus | digit
  · exact .inl minus
  · exact .inr (exists_digitChar digit)

/-- What is numeric has none of the letters that tell kinds. -/
theorem Numeric.unmarked {word : List Char} (numeric : Numeric word) :
    ∀ mark ∈ kindMarks, mark ∉ word := by
  intro mark listed member
  rcases numeric mark member with rfl | ⟨digit, rfl⟩
  · revert listed
    decide
  · exact (digitChar_apart digit).1 listed

/-- What is numeric is inside a word. -/
theorem Numeric.inWord {word : List Char} (numeric : Numeric word) :
    ∀ c ∈ word, Value.inWord c = true := by
  intro c member
  rcases numeric c member with rfl | ⟨digit, rfl⟩
  · decide
  · exact (digitChar_apart digit).2.2

/-- What is numeric is an identifier or an integer. -/
theorem Numeric.kindOfWord {word : List Char} (numeric : Numeric word) :
    Value.kindOfWord word = if '-' ∈ word.tail then .uuid else .int := by
  have null := numeric.unmarked 'N' (by decide)
  have true := numeric.unmarked 't' (by decide)
  have false := numeric.unmarked 's' (by decide)
  have bytes := numeric.unmarked 'x' (by decide)
  simp only [Value.kindOfWord, null, true, false, bytes, or_self, ↓reduceIte]

/-- No hyphen follows the first character of a decimal text. -/
theorem hyphen_not_mem_tail_decimalText (n : Int) : '-' ∉ (decimalText n).tail := by
  have digits : '-' ∉ Digits.chars (Digits.ofNat n.natAbs) := by
    intro member
    obtain ⟨digit, _, same⟩ := List.mem_map.mp member
    have read : isDigit '-' = true := same ▸ isDigit_char digit
    contradiction
  unfold decimalText
  split
  · exact digits
  · exact fun member => digits (List.mem_of_mem_tail member)

/-- Hyphens follow the first character of an identifier. -/
theorem hyphen_mem_tail_chars (uuid : Uuid) : '-' ∈ uuid.chars.tail := by
  obtain ⟨digit, tail, begins⟩ : ∃ digit tail, uuid.chars = Text.Hex.digitChar digit :: tail := by
    obtain ⟨bytes, sixteen⟩ := uuid
    cases bytes with
    | nil => contradiction
    | cons byte others => exact ⟨_, _, rfl⟩
  have member : '-' ∈ uuid.chars := by simp [Uuid.chars]
  rw [begins] at member ⊢
  rcases List.mem_cons.mp member with same | inside
  · exact absurd same.symm (digitChar_apart digit).2.1
  · exact inside

/-- The digits of bytes are numeric. -/
theorem numeric_hexChars (bytes : List UInt8) : Numeric (Text.Hex.chars bytes) :=
  fun _ member => .inr (Text.Hex.exists_digit member)

/-- The characters of an identifier are numeric. -/
theorem numeric_chars (uuid : Uuid) : Numeric uuid.chars := fun _ => Uuid.exists_digit

/-- The word of a value tells its kind. -/
theorem kindOfWord_literalChars {value : Value} (word : value.isWord = true) :
    kindOfWord value.literalChars = value.kind := by
  cases value with
  | null => decide
  | bool b => cases b <;> decide
  | int n =>
    simp only [literalChars, (numeric_decimalText n.value).kindOfWord,
      hyphen_not_mem_tail_decimalText, ↓reduceIte, kind]
  | uuid u =>
    simp only [literalChars, (numeric_chars u).kindOfWord, hyphen_mem_tail_chars, ↓reduceIte, kind]
  | blob bytes =>
    have digits := (numeric_hexChars bytes).unmarked
    have null := digits 'N' (by decide)
    have true := digits 't' (by decide)
    have false := digits 's' (by decide)
    simp [kindOfWord, literalChars, kind, null, true, false]
  | float | text | timestamp | list => contradiction

/-- A word consists of the characters of words. -/
theorem inWord_literalChars {value : Value} (word : value.isWord = true) :
    ∀ c ∈ value.literalChars, inWord c = true := by
  cases value with
  | null =>
    have all : null.literalChars.all inWord = true := by decide
    exact List.all_eq_true.mp all
  | bool b =>
    have all : (bool b).literalChars.all inWord = true := by cases b <;> decide
    exact List.all_eq_true.mp all
  | int n => exact (numeric_decimalText n.value).inWord
  | uuid u => exact (numeric_chars u).inWord
  | blob bytes =>
    intro c member
    simp only [literalChars, List.mem_cons] at member
    rcases member with rfl | rfl | inside
    · decide
    · decide
    · exact (numeric_hexChars bytes).inWord c inside
  | float | text | timestamp | list => contradiction

/-- Words are told apart. -/
theorem eq_of_words {value value' : Value} (word : value.isWord = true)
    (word' : value'.isWord = true) (same : value.literalChars = value'.literalChars) :
    value = value' := by
  have kinds : value.kind = value'.kind := by
    rw [← kindOfWord_literalChars word, same, kindOfWord_literalChars word']
  cases value <;> cases value' <;> try contradiction
  case null => rfl
  case bool b b' =>
    have equal : b = b' := by
      revert same
      cases b <;> cases b' <;> decide
    rw [equal]
  case int n n' => rw [Bigint.ext_value (decimalText_injective same)]
  case uuid u u' => rw [Uuid.chars_injective same]
  case blob bytes bytes' =>
    simp only [literalChars, List.cons.injEq, true_and] at same
    rw [Text.Hex.chars_injective same]

/-! ## Literals in front of more text -/

/-- What does not end a literal in a list or a set. -/
def goesOn (c : Char) : Bool := c != ',' && c != ']' && c != ')'

/-- A word goes on with its own characters. -/
theorem goesOn_of_inWord {c : Char} (inside : inWord c = true) : goesOn c = true := by
  have apart (mark : Char) (other : inWord mark = false) : c ≠ mark := by
    rintro rfl
    rw [inside] at other
    contradiction
  simp [goesOn, apart ',' (by decide), apart ']' (by decide), apart ')' (by decide)]

/-- No quote follows a literal that has ended. -/
theorem alone_of_ended {rest : List Char} (ended : Ended goesOn rest) :
    ∀ tail, rest ≠ '\'' :: tail := by
  intro tail same
  have other := ended _ tail same
  contradiction

/-- A word has a first character. -/
theorem exists_head_of_word {value : Value} (word : value.isWord = true) :
    ∃ c tail, value.literalChars = c :: tail ∧ inWord c = true := by
  have filled : value.literalChars ≠ [] := by
    cases value with
    | null => decide
    | bool b => cases b <;> decide
    | int n =>
      have digits := chars_ne_nil (Digits.ofNat_ne_nil n.value.natAbs)
      rw [literalChars, decimalText]
      split
      · exact List.cons_ne_nil _ _
      · exact digits
    | uuid u => exact List.ne_nil_of_mem (List.mem_of_mem_tail (hyphen_mem_tail_chars u))
    | blob bytes => exact List.cons_ne_nil _ _
    | float | text | timestamp | list => contradiction
  obtain ⟨c, tail, begins⟩ := List.exists_cons_of_ne_nil filled
  exact ⟨c, tail, begins, inWord_literalChars word c (begins ▸ List.mem_cons_self)⟩

/-- A literal is a list, a text or a word, and begins with a bracket, a quote or with neither. -/
theorem Legible.shape {value : Value} (legible : value.Legible) :
    (∃ items, value = .list items ∧ ∀ item ∈ items, item.Legible) ∨ (∃ s, value = .text s) ∨
      value.isWord = true := by
  cases legible with
  | list inside => exact .inl ⟨_, rfl, inside⟩
  | text s => exact .inr (.inl ⟨s, rfl⟩)
  | null | bool | int | uuid | blob => exact .inr (.inr rfl)

/-- No literal begins with what ends one. -/
theorem Legible.exists_head {value : Value} (legible : value.Legible) :
    ∃ c tail, value.literalChars = c :: tail ∧ goesOn c = true := by
  rcases legible.shape with ⟨items, rfl, _⟩ | ⟨s, rfl⟩ | word
  · exact ⟨_, _, rfl, by decide⟩
  · exact ⟨_, _, rfl, by decide⟩
  · obtain ⟨c, tail, begins, inside⟩ := exists_head_of_word word
    exact ⟨c, tail, begins, goesOn_of_inWord inside⟩

/-- A word is no other text that begins otherwise. -/
theorem literalChars_append_ne_cons {value : Value} (word : value.isWord = true) {mark : Char}
    (other : inWord mark = false) (rest tail : List Char) :
    value.literalChars ++ rest ≠ mark :: tail := by
  obtain ⟨c, behind, begins, inside⟩ := exists_head_of_word word
  rw [begins]
  intro same
  rw [(List.cons.inj same).1, other] at inside
  contradiction

/-- In front of what ends a literal, the literal of a value is that of no other value. -/
def Splits (value : Value) : Prop :=
  ∀ (value' : Value) (rest rest' : List Char), value'.Legible → Ended goesOn rest →
    Ended goesOn rest' → value.literalChars ++ rest = value'.literalChars ++ rest' →
      value = value' ∧ rest = rest'

/-- A word ends where its characters do. -/
theorem splits_of_word {value : Value} (word : value.isWord = true) : value.Splits := by
  intro value' rest rest' legible' ended ended' same
  rcases legible'.shape with ⟨items', rfl, _⟩ | ⟨s', rfl⟩ | word'
  · exact absurd same (literalChars_append_ne_cons word (by decide) _ _)
  · exact absurd same (literalChars_append_ne_cons word (by decide) _ _)
  · have apart := ended.mono fun _ => goesOn_of_inWord
    have apart' := ended'.mono fun _ => goesOn_of_inWord
    have words := takeWhile_run (inWord_literalChars word) apart
    have rests := dropWhile_run (inWord_literalChars word) apart
    rw [same, takeWhile_run (inWord_literalChars word') apart'] at words
    rw [same, dropWhile_run (inWord_literalChars word') apart'] at rests
    exact ⟨eq_of_words word word' words.symm, rests.symm⟩

/-- A text ends at its closing quote. -/
theorem splits_text (s : String) : (text s).Splits := by
  intro value' rest rest' legible' ended ended' same
  rcases legible'.shape with ⟨items', rfl, _⟩ | ⟨s', rfl⟩ | word'
  · exact absurd (List.cons.inj same).1 (by decide)
  · have bodies : Text.Quoted.double s.toList ++ '\'' :: rest =
        Text.Quoted.double s'.toList ++ '\'' :: rest' := by
      simpa [literalChars, Text.Quoted.encode] using same
    have read := Text.Quoted.scanBody_double s.toList rest (alone_of_ended ended)
    rw [bodies, Text.Quoted.scanBody_double s'.toList rest' (alone_of_ended ended')] at read
    simp only [Option.some.injEq, Prod.mk.injEq, String.toList_inj] at read
    exact ⟨by rw [read.1], read.2.symm⟩
  · exact absurd same.symm (literalChars_append_ne_cons word' (by decide) _ _)

/-- The literals after a first one, each with a comma before it. -/
def laterChars : List Value → List Char
  | [] => []
  | items => ',' :: literalsChars items

/-- The literals of values are that of the first one and then the later ones. -/
theorem literalsChars_cons (item : Value) (items : List Value) :
    literalsChars (item :: items) = item.literalChars ++ laterChars items := by
  cases items with
  | nil => exact (List.append_nil _).symm
  | cons second items => rfl

section Items

/- A bracket of either kind, which ends the last literal. -/
variable {close : Char} (closes : close = ']' ∨ close = ')')
include closes

/-- A bracket ends a literal. -/
theorem ended_close (rest : List Char) : Ended goesOn (close :: rest) := by
  rcases closes with rfl | rfl <;> exact ended_cons.mpr (by decide)

/-- A comma or the bracket ends a literal. -/
theorem ended_laterChars (items : List Value) (rest : List Char) :
    Ended goesOn (laterChars items ++ close :: rest) := by
  cases items with
  | nil => exact ended_close closes rest
  | cons second items => exact ended_cons.mpr (by decide)

/-- No literals begin with the bracket. -/
theorem literalsChars_ne_close {item : Value} (legible : item.Legible) (items : List Value)
    (rest rest' : List Char) :
    literalsChars (item :: items) ++ close :: rest ≠ close :: rest' := by
  obtain ⟨c, tail, begins, inside⟩ := legible.exists_head
  rw [literalsChars_cons, begins]
  intro same
  have other := ended_cons.mp (ended_close closes rest)
  rw [← (List.cons.inj same).1, inside] at other
  contradiction

/-- Literals with commas between end at the bracket, and stand for one list of values. -/
theorem split_of_literals {items items' : List Value}
    (splits : ∀ item ∈ items, item.Legible ∧ item.Splits)
    (legible' : ∀ item ∈ items', item.Legible) {rest rest' : List Char}
    (same : literalsChars items ++ close :: rest = literalsChars items' ++ close :: rest') :
    items = items' ∧ rest = rest' := by
  induction items generalizing items' with
  | nil =>
    cases items' with
    | nil => exact ⟨rfl, (List.cons.inj same).2⟩
    | cons item' items' =>
      have first' := legible' item' List.mem_cons_self
      exact absurd same.symm (literalsChars_ne_close closes first' items' rest' rest)
  | cons item items ih =>
    obtain ⟨first, splitsFirst⟩ := splits item List.mem_cons_self
    cases items' with
    | nil => exact absurd same (literalsChars_ne_close closes first items rest rest')
    | cons item' items' =>
      have first' := legible' item' List.mem_cons_self
      have others := ih (fun value member => splits value (List.mem_cons_of_mem _ member))
        fun value member => legible' value (List.mem_cons_of_mem _ member)
      rw [literalsChars_cons, literalsChars_cons, List.append_assoc, List.append_assoc] at same
      obtain ⟨rfl, later⟩ := splitsFirst item' _ _ first' (ended_laterChars closes items rest)
        (ended_laterChars closes items' rest') same
      have noComma : close ≠ ',' := by rcases closes with rfl | rfl <;> decide
      cases items with
      | nil =>
        cases items' with
        | nil => exact ⟨rfl, (List.cons.inj later).2⟩
        | cons second' items' => exact absurd (List.cons.inj later).1 noComma
      | cons second items =>
        cases items' with
        | nil => exact absurd (List.cons.inj later).1.symm noComma
        | cons second' items' =>
          obtain ⟨equal, ended⟩ := others (List.cons.inj later).2
          exact ⟨congrArg (item :: ·) equal, ended⟩

end Items

/-- A list ends at its closing bracket if each of its items can be told. -/
theorem splits_list {items : List Value} (splits : ∀ item ∈ items, item.Legible ∧ item.Splits) :
    (list items).Splits := by
  intro value' rest rest' legible' ended ended' same
  rcases legible'.shape with ⟨items', rfl, inside'⟩ | ⟨s', rfl⟩ | word'
  · have bodies : literalsChars items ++ ']' :: rest = literalsChars items' ++ ']' :: rest' := by
      simpa [literalChars] using same
    obtain ⟨rfl, ends⟩ := split_of_literals (.inl rfl) splits inside' bodies
    exact ⟨rfl, ends⟩
  · exact absurd (List.cons.inj same).1 (by decide)
  · exact absurd same.symm (literalChars_append_ne_cons word' (by decide) _ _)

/-- Every literal of a legible value, however deep, can be told from what follows it and from the
literals of all others. -/
theorem Legible.splits {value : Value} (legible : value.Legible) : value.Splits := by
  induction legible with
  | list inside ih => exact splits_list fun item member => ⟨inside item member, ih item member⟩
  | text s => exact splits_text s
  | null | bool | int | uuid | blob => exact splits_of_word rfl

/-- Legible values with one literal are one value. -/
theorem Legible.eq_of_literal {value value' : Value} (legible : value.Legible)
    (legible' : value'.Legible) (same : value.literal = value'.literal) : value = value' := by
  have chars : value.literalChars ++ [] = value'.literalChars ++ [] := by
    rw [List.append_nil, List.append_nil]
    exact String.ofList_inj.mp same
  exact (legible.splits value' [] [] legible' (ended_nil _) (ended_nil _) chars).1

/-- Lists of legible values with the same literals are one list. -/
theorem eq_of_literalsChars {items items' : List Value} (legible : ∀ item ∈ items, item.Legible)
    (legible' : ∀ item ∈ items', item.Legible)
    (same : literalsChars items = literalsChars items') : items = items' := by
  have splits : ∀ item ∈ items, item.Legible ∧ item.Splits :=
    fun item member => ⟨legible item member, (legible item member).splits⟩
  have closed : literalsChars items ++ ')' :: [] = literalsChars items' ++ ')' :: [] := by
    rw [same]
  exact (split_of_literals (.inr rfl) splits legible' closed).1

end Value

/-! ## Memberships -/

/-- Clauses of one field hold the same literals if they are the same text. -/
theorem literalsChars_of_membershipClause {field : String} {items items' : List Value}
    (same : membershipClause field items = membershipClause field items') :
    Value.literalsChars items = Value.literalsChars items' := by
  have chars := congrArg String.toList same
  simpa [membershipClause] using chars

/-- **Written values are unambiguous.** Let no floating point number and no timestamp stand in two
lists of values. Memberships of one field in sets that evaluate to them have one clause exactly if
the lists are equal. Values in them are equal exactly if their literals are. The literal of a text
stands for no list of values but that with the text alone, so it passes neither for several values
nor for a value of another kind. -/
theorem membership_unambiguous {items items' : List Value} (legible : ∀ item ∈ items, item.Legible)
    (legible' : ∀ item ∈ items', item.Legible) :
    (∀ (field : String) (column column' set set' : Expr), column.fieldName = .ok field →
      column'.fieldName = .ok field → set.evaluate = .ok (.list items) →
        set'.evaluate = .ok (.list items') →
          ((Expr.membership column set).predicate = (Expr.membership column' set').predicate ↔
            items = items')) ∧
    (∀ value ∈ items, ∀ value' ∈ items', value.literal = value'.literal ↔ value = value') ∧
    (∀ s : String, Value.literalsChars items = (Value.text s).literalChars ↔
      items = [.text s]) := by
  refine ⟨?_, ?_, ?_⟩
  · intro field column column' set set' named named' evaluated evaluated'
    have compiled : (Expr.membership column set).predicate = .ok (membershipClause field items) :=
      Expr.predicate_membership_eq_ok.mpr ⟨field, items, named, evaluated, rfl⟩
    have compiled' : (Expr.membership column' set').predicate =
        .ok (membershipClause field items') :=
      Expr.predicate_membership_eq_ok.mpr ⟨field, items', named', evaluated', rfl⟩
    rw [compiled, compiled', Except.ok.injEq]
    constructor
    · intro same
      have literals := literalsChars_of_membershipClause same
      exact Value.eq_of_literalsChars legible legible' literals
    · intro same
      rw [same]
  · intro value member value' member'
    constructor
    · exact (legible value member).eq_of_literal (legible' value' member')
    · intro same
      rw [same]
  · intro s
    have alone : ∀ item ∈ [Value.text s], item.Legible := by
      intro item member
      rw [List.mem_singleton.mp member]
      exact .text s
    constructor
    · exact Value.eq_of_literalsChars legible alone
    · intro same
      rw [same]
      rfl

/-- A text that looks like the rest of a set is one element. -/
theorem membership_unambiguous_comma :
    let one : List Value := [.text "a','b", .list []]
    let two : List Value := [.text "a", .text "b", .list []]
    (∀ item ∈ one, item.Legible) ∧ (∀ item ∈ two, item.Legible) ∧
      (Expr.membership (.field "f") (.constant (.list one))).predicate ≠
        (Expr.membership (.quote (.field "f")) (.list (two.map .constant))).predicate := by
  intro one two
  have empty : (Value.list []).Legible := .list fun _ inside => absurd inside List.not_mem_nil
  have legibleOne : ∀ item ∈ one, item.Legible := by
    simpa only [one, List.forall_mem_cons] using ⟨.text _, empty, List.forall_mem_nil _⟩
  have legibleTwo : ∀ item ∈ two, item.Legible := by
    simpa only [two, List.forall_mem_cons] using ⟨.text _, .text _, empty, List.forall_mem_nil _⟩
  refine ⟨legibleOne, legibleTwo, fun same => ?_⟩
  have equal : one = two := ((membership_unambiguous legibleOne legibleTwo).1 "f" _ _ _ _ rfl rfl
    rfl rfl).mp same
  exact absurd (congrArg List.length equal) (by decide)

end ColumnQuery
