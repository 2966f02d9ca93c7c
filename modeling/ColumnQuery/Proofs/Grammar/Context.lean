import ColumnQuery.Proofs.Grammar.Extent

/-!
# Phrases in front of more text

A phrase looks past its end only to see that a word or a run of digits has ended there. So what the
grammar has up to some place it also has with more text behind that place, at the same depth and
with the same tree, if the further text does not begin with an identifier character.
-/
namespace ColumnQuery.Phrase

open Grammar

/-- What a text begins with it begins with in front of more text. -/
theorem written_append {text front rest : List Char} (written : text = front ++ rest)
    (more : List Char) : text ++ more = front ++ (rest ++ more) := by
  rw [written, List.append_assoc]

/-- A gap is one in front of more text. -/
theorem Gap.append {text rest : List Char} (gap : Gap text rest) (more : List Char) :
    Gap (text ++ more) (rest ++ more) := by
  obtain ⟨separators, blank, written⟩ := gap
  exact ⟨separators, blank, written_append written more⟩

/-- A run that ends where the text does ends in front of more text. -/
theorem Ended.append {kind : Char → Bool} {text more : List Char} (ended : Ended kind text)
    (apart : Ended kind more) : Ended kind (text ++ more) := by
  cases text with
  | nil => exact apart
  | cons c tail =>
    have other : kind c = false := ended_cons.mp ended
    exact ended_cons.mpr other

/-- A digit run ends where an identifier would. -/
theorem ended_isDigit {text : List Char} (ended : Ended isIdentChar text) : Ended isDigit text :=
  ended.mono fun _ => isIdentChar_of_isDigit

variable {text rest more : List Char}

/-- A keyword is one in front of more text. -/
theorem Keyword.append {keyword : String} (found : Keyword keyword text rest)
    (apart : Ended isIdentChar more) : Keyword keyword (text ++ more) (rest ++ more) := by
  obtain ⟨word, spelled, written, ended⟩ := found
  exact ⟨word, spelled, written_append written more, ended.append apart⟩

/-- The name of a field is one in front of more text. -/
theorem Field.append {name : String} (field : Field text name rest)
    (apart : Ended isIdentChar more) : Field (text ++ more) name (rest ++ more) := by
  cases field with
  | bare identifier written ended =>
    exact .bare identifier (written_append written more) (ended.append apart)
  | quoted named plain written =>
    have longer := congrArg (· ++ more) written
    simp only [List.append_assoc, List.cons_append] at longer
    exact .quoted named plain longer

/-- A literal is one in front of more text. -/
theorem Literal.append {value : Value} (found : Literal text value rest)
    (apart : Ended isIdentChar more) : Literal (text ++ more) value (rest ++ more) := by
  cases found with
  | nullWord word => exact .nullWord (word.append apart)
  | trueWord word => exact .trueWord (word.append apart)
  | falseWord word => exact .falseWord (word.append apart)
  | integer filled written ended value =>
    have behind := ended.append (ended_isDigit apart)
    exact .integer filled (written_append written more) behind value
  | decimal filled further written ended =>
    have longer := congrArg (· ++ more) written
    simp only [List.append_assoc, List.cons_append] at longer
    exact .decimal filled further longer (ended.append (ended_isDigit apart))
  | text written =>
    exact .text (written_append written more)

/-- The sign of a multiplication, division or remainder is one in front of more text. -/
theorem ProductSign.append {op : Arithmetic} (sign : ProductSign op text rest)
    (more : List Char) : ProductSign op (text ++ more) (rest ++ more) :=
  ⟨sign.1, written_append sign.2 more⟩

/-- The sign of an addition or subtraction is one in front of more text. -/
theorem SumSign.append {op : Arithmetic} (sign : SumSign op text rest) (more : List Char) :
    SumSign op (text ++ more) (rest ++ more) :=
  ⟨sign.1, written_append sign.2 more⟩

/-- An operand is one in front of more text. -/
theorem Operand.append {rank : OperandRank} {depth : Nat} {operand : Expr}
    (found : Operand rank depth text operand rest) (apart : Ended isIdentChar more) :
    Operand rank depth (text ++ more) operand (rest ++ more) := by
  induction found with
  | literal gap literal => exact .literal (gap.append more) (literal.append apart)
  | field gap field => exact .field (gap.append more) (field.append apart)
  | opposite sign factor ih => exact .opposite (sign.append more) ih
  | group opening sum closing ih => exact .group (opening.append more) ih (closing.append more)
  | ofFactor factor ih => exact .ofFactor ih
  | times before gap signed after ihBefore ihAfter =>
    exact .times ihBefore (gap.append more) (signed.append more) ihAfter
  | ofProduct product ih => exact .ofProduct ih
  | plus before gap signed after ihBefore ihAfter =>
    exact .plus ihBefore (gap.append more) (signed.append more) ihAfter

/-- Items are ones in front of more text. -/
theorem Items.append {depth : Nat} {items : List Expr} (found : Items depth text items rest)
    (apart : Ended isIdentChar more) : Items depth (text ++ more) items (rest ++ more) := by
  induction found with
  | one last => exact .one (last.append apart)
  | more first comma others ih => exact .more (first.append apart) (comma.append _) ih

/-- A set is one in front of more text. -/
theorem ItemSet.append {depth : Nat} {items : List Expr} (found : ItemSet depth text items rest)
    (apart : Ended isIdentChar more) : ItemSet depth (text ++ more) items (rest ++ more) := by
  cases found with
  | empty opening closing => exact .empty (opening.append more) (closing.append more)
  | items opening listed closing =>
    exact .items (opening.append more) (listed.append apart) (closing.append more)

/-- The sign of a comparison is one in front of more text. -/
theorem ComparisonSign.append {op : Comparison} (sign : ComparisonSign op text rest)
    (more : List Char) : ComparisonSign op (text ++ more) (rest ++ more) := by
  obtain ⟨spelling, listed, written⟩ := sign
  exact ⟨spelling, listed, written_append written more⟩

/-- The sign of a denial is one in front of more text. -/
theorem DenialSign.append (sign : DenialSign text rest) (apart : Ended isIdentChar more) :
    DenialSign (text ++ more) (rest ++ more) := by
  cases sign with
  | inl written => exact .inl (by rw [written, List.cons_append])
  | inr word => exact .inr (word.append apart)

/-- The sign of a connective is one in front of more text. -/
theorem ConnectiveSign.append {op : Connective} (sign : ConnectiveSign op text rest)
    (apart : Ended isIdentChar more) : ConnectiveSign op (text ++ more) (rest ++ more) := by
  cases op with
  | and | or => cases sign with
    | inl written => exact .inl (by rw [written, List.cons_append, List.cons_append])
    | inr word => exact .inr (word.append apart)

/-- **A predicate is one in front of more text.** What it stands in does not change how it is
taken. -/
theorem Predicate.append {rank : PredicateRank} {depth : Nat} {predicate : Expr}
    (found : Predicate rank depth text predicate rest) (apart : Ended isIdentChar more) :
    Predicate rank depth (text ++ more) predicate (rest ++ more) := by
  induction found with
  | denial gap sign unary ih => exact .denial (gap.append more) (sign.append apart) ih
  | group opening disjunction closing ih =>
    exact .group (opening.append more) ih (closing.append more)
  | membership gap field between keyword listed =>
    exact .membership (gap.append more) (field.append apart) (between.append more)
      (keyword.append apart) (listed.append apart)
  | comparison before gap signed after =>
    exact .comparison (before.append apart) (gap.append more) (signed.append more)
      (after.append apart)
  | ofUnary unary ih => exact .ofUnary ih
  | and before gap signed after ihBefore ihAfter =>
    exact .and ihBefore (gap.append more) (signed.append apart) ihAfter
  | ofConjunction conjunction ih => exact .ofConjunction ih
  | or before gap signed after ihBefore ihAfter =>
    exact .or ihBefore (gap.append more) (signed.append apart) ihAfter

/-- A predicate between brackets is a group, whatever follows. -/
theorem Predicate.bracketed {depth : Nat} {predicate : Expr}
    (found : Predicate .disjunction depth text predicate []) (rest : List Char) :
    Predicate .unary (depth + 1) ('(' :: (text ++ ')' :: rest)) predicate rest := by
  have apart : Ended isIdentChar (')' :: rest) := ended_cons.mpr (by decide)
  have inside : Predicate .disjunction depth (text ++ ')' :: rest) predicate (')' :: rest) :=
    found.append apart
  exact .group (Gap.refl _) inside (Gap.refl _)

end ColumnQuery.Phrase
