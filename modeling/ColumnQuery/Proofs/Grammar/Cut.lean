import Mathlib.Data.List.DropRight
import ColumnQuery.Proofs.Grammar.Names

/-!
# Phrases without the text behind them

A phrase looks past its end only to see that a word or a run of digits has ended there, and the end
of a text ends every run. So what the grammar has up to some place it also has without any part of
the text behind that place, at the same depth and with the same tree. A text is cut by the number
of characters it loses at its end (`List.rdrop`), which is the same at all places within a phrase.

The last character of a phrase is never white space, so trimming does not reach into one.
-/
namespace ColumnQuery.Phrase

open Grammar

variable {text rest : List Char} {n : Nat}

/-! ## Cutting -/

/-- What a text begins with it begins with after a cut behind that. -/
theorem written_cut {front : List Char} (written : text = front ++ rest) (short : n ≤ rest.length) :
    text.rdrop n = front ++ rest.rdrop n := by
  rw [written, List.rdrop_append_of_le_length n short]

/-- The first character stays if the cut is behind it. -/
theorem cons_cut (c : Char) (short : n ≤ rest.length) :
    (c :: rest).rdrop n = c :: rest.rdrop n := by
  have written : c :: rest = [c] ++ rest := rfl
  exact written_cut written short

/-- A cut behind some place is a cut behind all places before it. -/
theorem Takes.short (takes : Takes text rest) (short : n ≤ rest.length) : n ≤ text.length :=
  Nat.le_trans short (Nat.le_of_lt takes.length_lt)

/-- A run that ends where a text does, or before, ends in a text that is cut. -/
theorem Ended.cut {kind : Char → Bool} (ended : Ended kind text) (n : Nat) :
    Ended kind (text.rdrop n) := by
  intro c tail same
  have front : c :: tail <+: text := same ▸ List.take_prefix _ text
  obtain ⟨behind, whole⟩ := front
  exact ended c (tail ++ behind) whole.symm

/-- A gap stays one. -/
theorem Gap.cut (gap : Gap text rest) (short : n ≤ rest.length) :
    Gap (text.rdrop n) (rest.rdrop n) := by
  obtain ⟨separators, blank, written⟩ := gap
  exact ⟨separators, blank, written_cut written short⟩

/-- A gap before a character stays one. -/
theorem Gap.cut_cons {c : Char} (gap : Gap text (c :: rest)) (short : n ≤ rest.length) :
    Gap (text.rdrop n) (c :: rest.rdrop n) := by
  rw [← cons_cut c short]
  exact gap.cut (Nat.le_succ_of_le short)

/-- A keyword stays one. -/
theorem Keyword.cut {keyword : String} (found : Keyword keyword text rest)
    (short : n ≤ rest.length) : Keyword keyword (text.rdrop n) (rest.rdrop n) := by
  obtain ⟨word, spelled, written, ended⟩ := found
  exact ⟨word, spelled, written_cut written short, ended.cut n⟩

/-- The name of a field stays one. -/
theorem Field.cut {name : String} (field : Field text name rest) (short : n ≤ rest.length) :
    Field (text.rdrop n) name (rest.rdrop n) := by
  cases field with
  | bare identifier written ended =>
    exact .bare identifier (written_cut written short) (ended.cut n)
  | @quoted name _ named plain written =>
    have whole : text = '"' :: (name ++ ['"']) ++ rest := by simp [written]
    exact .quoted named plain (by simpa using written_cut whole short)

/-- A literal stays one. -/
theorem Literal.cut {value : Value} (found : Literal text value rest) (short : n ≤ rest.length) :
    Literal (text.rdrop n) value (rest.rdrop n) := by
  cases found with
  | nullWord word => exact .nullWord (word.cut short)
  | trueWord word => exact .trueWord (word.cut short)
  | falseWord word => exact .falseWord (word.cut short)
  | integer filled written ended value =>
    exact .integer filled (written_cut written short) (ended.cut n) value
  | @decimal _ whole fraction filled further written ended =>
    have digits : text = Digits.chars whole ++ '.' :: Digits.chars fraction ++ rest := by
      simp [written]
    exact .decimal filled further (by simpa using written_cut digits short) (ended.cut n)
  | text written => exact .text (written_cut written short)

/-- The sign of a multiplication, division or remainder stays one. -/
theorem ProductSign.cut {op : Arithmetic} (sign : ProductSign op text rest)
    (short : n ≤ rest.length) : ProductSign op (text.rdrop n) (rest.rdrop n) :=
  ⟨sign.1, written_cut sign.2 short⟩

/-- The sign of an addition or subtraction stays one. -/
theorem SumSign.cut {op : Arithmetic} (sign : SumSign op text rest) (short : n ≤ rest.length) :
    SumSign op (text.rdrop n) (rest.rdrop n) :=
  ⟨sign.1, written_cut sign.2 short⟩

/-- An operand stays one. -/
theorem Operand.cut {rank : OperandRank} {depth : Nat} {operand : Expr}
    (found : Operand rank depth text operand rest) (short : n ≤ rest.length) :
    Operand rank depth (text.rdrop n) operand (rest.rdrop n) := by
  induction found with
  | literal gap literal =>
    exact .literal (gap.cut (literal.takes.short short)) (literal.cut short)
  | field gap field => exact .field (gap.cut (field.takes.short short)) (field.cut short)
  | opposite sign factor ih =>
    exact .opposite (sign.cut_cons (factor.takes.short short)) (ih short)
  | group opening sum closing ih =>
    have before := (closing.takes (takes_cons _ _)).short short
    exact .group (opening.cut_cons (sum.takes.short before)) (ih before) (closing.cut_cons short)
  | ofFactor factor ih => exact .ofFactor (ih short)
  | times before gap signed after ihBefore ihAfter =>
    have next := after.takes.short short
    have sign := (takes_symbol signed.2).short next
    have mid := (gap.takes (takes_symbol signed.2)).short next
    exact .times (ihBefore mid) (gap.cut sign) (signed.cut next) (ihAfter short)
  | ofProduct product ih => exact .ofProduct (ih short)
  | plus before gap signed after ihBefore ihAfter =>
    have next := after.takes.short short
    have sign := (takes_symbol signed.2).short next
    have mid := (gap.takes (takes_symbol signed.2)).short next
    exact .plus (ihBefore mid) (gap.cut sign) (signed.cut next) (ihAfter short)

/-- Items stay ones. -/
theorem Items.cut {depth : Nat} {items : List Expr} (found : Items depth text items rest)
    (short : n ≤ rest.length) : Items depth (text.rdrop n) items (rest.rdrop n) := by
  induction found with
  | one last => exact .one (last.cut short)
  | more first comma others ih =>
    have next := others.takes.short short
    have mid := (comma.takes (takes_cons _ _)).short next
    exact .more (first.cut mid) (comma.cut_cons next) (ih short)

/-- A set stays one. -/
theorem ItemSet.cut {depth : Nat} {items : List Expr} (found : ItemSet depth text items rest)
    (short : n ≤ rest.length) : ItemSet depth (text.rdrop n) items (rest.rdrop n) := by
  cases found with
  | empty opening closing =>
    have before := (closing.takes (takes_cons _ _)).short short
    exact .empty (opening.cut_cons before) (closing.cut_cons short)
  | items opening listed closing =>
    have before := (closing.takes (takes_cons _ _)).short short
    exact .items (opening.cut_cons (listed.takes.short before)) (listed.cut before)
      (closing.cut_cons short)

/-- The sign of a comparison stays one. -/
theorem ComparisonSign.cut {op : Comparison} (sign : ComparisonSign op text rest)
    (short : n ≤ rest.length) : ComparisonSign op (text.rdrop n) (rest.rdrop n) := by
  obtain ⟨spelling, listed, written⟩ := sign
  exact ⟨spelling, listed, written_cut written short⟩

/-- The sign of a denial stays one. -/
theorem DenialSign.cut (sign : DenialSign text rest) (short : n ≤ rest.length) :
    DenialSign (text.rdrop n) (rest.rdrop n) := by
  cases sign with
  | inl written =>
    have whole : text = ['!'] ++ rest := written
    exact .inl (written_cut whole short)
  | inr word => exact .inr (word.cut short)

/-- The sign of a connective stays one. -/
theorem ConnectiveSign.cut {op : Connective} (sign : ConnectiveSign op text rest)
    (short : n ≤ rest.length) : ConnectiveSign op (text.rdrop n) (rest.rdrop n) := by
  cases op with
  | and => cases sign with
    | inl written =>
      have whole : text = ['&', '&'] ++ rest := written
      exact .inl (written_cut whole short)
    | inr word => exact .inr (word.cut short)
  | or => cases sign with
    | inl written =>
      have whole : text = ['|', '|'] ++ rest := written
      exact .inl (written_cut whole short)
    | inr word => exact .inr (word.cut short)

/-- **A predicate stays one without the text behind it.** What follows it does not change how it is
taken. -/
theorem Predicate.cut {rank : PredicateRank} {depth : Nat} {predicate : Expr}
    (found : Predicate rank depth text predicate rest) (short : n ≤ rest.length) :
    Predicate rank depth (text.rdrop n) predicate (rest.rdrop n) := by
  -- The cut is behind the last part, so it is behind every place before that part as well.
  induction found with
  | denial gap sign unary ih =>
    have inner := unary.takes.short short
    exact .denial (gap.cut (sign.takes.short inner)) (sign.cut inner) (ih short)
  | group opening disjunction closing ih =>
    have before := (closing.takes (takes_cons _ _)).short short
    exact .group (opening.cut_cons (disjunction.takes.short before)) (ih before)
      (closing.cut_cons short)
  | membership gap field between keyword listed =>
    have set := listed.takes.short short
    have keyed := keyword.takes (by decide)
    have word := keyed.short set
    have mid := (between.takes keyed).short set
    exact .membership (gap.cut (field.takes.short mid)) (field.cut mid) (between.cut word)
      (keyword.cut set) (listed.cut short)
  | comparison before gap signed after =>
    have next := after.takes.short short
    have mid := (gap.takes signed.takes).short next
    exact .comparison (before.cut mid) (gap.cut (signed.takes.short next)) (signed.cut next)
      (after.cut short)
  | ofUnary unary ih => exact .ofUnary (ih short)
  | and before gap signed after ihBefore ihAfter =>
    have next := after.takes.short short
    have mid := (gap.takes signed.takes).short next
    exact .and (ihBefore mid) (gap.cut (signed.takes.short next)) (signed.cut next) (ihAfter short)
  | ofConjunction conjunction ih => exact .ofConjunction (ih short)
  | or before gap signed after ihBefore ihAfter =>
    have next := after.takes.short short
    have mid := (gap.takes signed.takes).short next
    exact .or (ihBefore mid) (gap.cut (signed.takes.short next)) (signed.cut next) (ihAfter short)

/-- Names stay ones. -/
theorem Names.cut {names : List String} (found : Names text names rest)
    (short : n ≤ rest.length) : Names (text.rdrop n) names (rest.rdrop n) := by
  induction found with
  | one gap field => exact .one (gap.cut (field.takes.short short)) (field.cut short)
  | more gap field comma others ih =>
    have next := others.takes.short short
    have mid := (comma.takes (takes_cons _ _)).short next
    exact .more (gap.cut (field.takes.short mid)) (field.cut mid) (comma.cut_cons next) (ih short)

/-- Nothing is left of a text that is cut at its front. -/
theorem rdrop_length (text : List Char) : text.rdrop text.length = [] := by
  rw [List.rdrop, Nat.sub_self, List.take_zero]

/-- A predicate in front of any text is one on its own. -/
theorem Predicate.alone {rank : PredicateRank} {depth : Nat} {front : List Char} {predicate : Expr}
    (found : Predicate rank depth (front ++ rest) predicate rest) :
    Predicate rank depth front predicate [] := by
  have cut := found.cut (Nat.le_refl rest.length)
  rwa [List.rdrop_append_length, rdrop_length] at cut

/-- Names in front of any text are ones on their own. -/
theorem Names.alone {front : List Char} {names : List String}
    (found : Names (front ++ rest) names rest) : Names front names [] := by
  have cut := found.cut (Nat.le_refl rest.length)
  rwa [List.rdrop_append_length, rdrop_length] at cut

/-! ## Last characters -/

/-- What stands between two places of a text ends with something else than white space. -/
def Lands (text rest : List Char) : Prop := ∃ taken, Text.EndsSolid taken ∧ text = taken ++ rest

/-- The last part decides how a text ends. -/
theorem Lands.of_suffix {mid : List Char} (lands : Lands mid rest) (suffix : mid <:+ text) :
    Lands text rest := by
  obtain ⟨taken, solid, rfl⟩ := lands
  obtain ⟨before, rfl⟩ := suffix
  exact ⟨before ++ taken, solid.append before, (List.append_assoc _ _ _).symm⟩

/-- One character that is no white space is taken. -/
theorem lands_cons {c : Char} (solid : Text.isWhiteSpace c = false) (rest : List Char) :
    Lands (c :: rest) rest := ⟨[c], ⟨[], c, rfl, solid⟩, rfl⟩

/-- A closing character may stand behind a gap. -/
theorem Gap.lands {c : Char} (gap : Gap text (c :: rest)) (solid : Text.isWhiteSpace c = false) :
    Lands text rest := (lands_cons solid rest).of_suffix gap.suffix

/-- A run of identifier characters is taken. -/
theorem lands_run {run : List Char} (filled : run ≠ []) (all : ∀ c ∈ run, isIdentChar c = true)
    (rest : List Char) : Lands (run ++ rest) rest := by
  have last := all _ (List.getLast_mem filled)
  exact ⟨run, ⟨run.dropLast, run.getLast filled, (List.dropLast_append_getLast filled).symm,
    isWhiteSpace_of_isIdentChar last⟩, rfl⟩

/-- Digits are taken. -/
theorem lands_chars {digits : List Digit} (filled : digits ≠ []) (rest : List Char) :
    Lands (Digits.chars digits ++ rest) rest := by
  apply lands_run (chars_ne_nil filled)
  intro c member
  obtain ⟨digit, _, rfl⟩ := List.mem_map.mp member
  exact isIdentChar_of_isDigit (isDigit_char digit)

/-- A keyword ends with a letter. -/
theorem Keyword.lands {keyword : String} (found : Keyword keyword text rest)
    (listed : keyword ∈ reserved) : Lands text rest := by
  obtain ⟨word, spelled, rfl, _⟩ := found
  apply lands_run
  · rintro rfl
    exact toList_ne_nil_of_mem_reserved listed spelled.symm
  · intro c member
    exact isIdentChar_of_isIdentStart (isIdentStart_of_lowered listed spelled c member)

/-- The name of a field ends with a character of an identifier or with a double quote. -/
theorem Field.lands {name : String} (field : Field text name rest) : Lands text rest := by
  cases field with
  | bare identifier written ended =>
    subst written
    have inside := identifier.isIdentChar
    obtain ⟨c, tail, rfl, _⟩ := identifier
    exact lands_run (List.cons_ne_nil c tail) inside rest
  | @quoted name _ named plain written =>
    have quote : Lands ('"' :: rest) rest := lands_cons (by decide) rest
    exact quote.of_suffix ⟨'"' :: name, written.symm⟩

/-- A literal ends with a letter, a digit or a quote. -/
theorem Literal.lands {value : Value} (found : Literal text value rest) : Lands text rest := by
  cases found with
  | nullWord word | trueWord word | falseWord word => exact word.lands (by decide)
  | integer filled written ended value => exact written ▸ lands_chars filled rest
  | @decimal _ whole fraction filled further written ended =>
    have digits := lands_chars further rest
    exact digits.of_suffix ⟨Digits.chars whole ++ ['.'], by simp [written]⟩
  | @text content _ written =>
    have quote : Lands ('\'' :: rest) rest := lands_cons (by decide) rest
    refine quote.of_suffix ⟨'\'' :: Text.Quoted.double content, ?_⟩
    rw [written, Text.Quoted.encode]
    simp

/-- An operand ends as its last token does. -/
theorem Operand.lands {rank : OperandRank} {depth : Nat} {operand : Expr}
    (found : Operand rank depth text operand rest) : Lands text rest := by
  induction found with
  | literal gap literal => exact literal.lands.of_suffix gap.suffix
  | field gap field => exact field.lands.of_suffix gap.suffix
  | opposite sign factor ih => exact ih.of_suffix (sign.takes (takes_cons _ _)).suffix
  | group opening sum closing ih =>
    have before := (opening.takes (takes_cons _ _)).trans sum.takes
    exact (closing.lands (by decide)).of_suffix before.suffix
  | ofFactor factor ih => exact ih
  | ofProduct product ih => exact ih
  | times before gap signed after ihBefore ihAfter
  | plus before gap signed after ihBefore ihAfter =>
    have sign := gap.takes (takes_symbol signed.2)
    exact ihAfter.of_suffix (before.takes.trans sign).suffix

/-- A set ends with its bracket. -/
theorem ItemSet.lands {depth : Nat} {items : List Expr} (found : ItemSet depth text items rest) :
    Lands text rest := by
  cases found with
  | empty opening closing =>
    exact (closing.lands (by decide)).of_suffix (opening.takes (takes_cons _ _)).suffix
  | items opening listed closing =>
    have before := (opening.takes (takes_cons _ _)).trans listed.takes
    exact (closing.lands (by decide)).of_suffix before.suffix

/-- A predicate ends as its last token does. -/
theorem Predicate.lands {rank : PredicateRank} {depth : Nat} {predicate : Expr}
    (found : Predicate rank depth text predicate rest) : Lands text rest := by
  induction found with
  | denial gap sign unary ih => exact ih.of_suffix (gap.takes sign.takes).suffix
  | group opening disjunction closing ih =>
    have before := (opening.takes (takes_cons _ _)).trans disjunction.takes
    exact (closing.lands (by decide)).of_suffix before.suffix
  | membership gap field between keyword listed =>
    have before := gap.takes (field.takes.trans (between.takes (keyword.takes (by decide))))
    exact listed.lands.of_suffix before.suffix
  | comparison before gap signed after =>
    exact after.lands.of_suffix (before.takes.trans (gap.takes signed.takes)).suffix
  | ofUnary unary ih => exact ih
  | ofConjunction conjunction ih => exact ih
  | and before gap signed after ihBefore ihAfter
  | or before gap signed after ihBefore ihAfter =>
    exact ihAfter.of_suffix (before.takes.trans (gap.takes signed.takes)).suffix

/-- Names end as the last of them does. -/
theorem Names.lands {names : List String} (found : Names text names rest) : Lands text rest := by
  induction found with
  | one gap field => exact field.lands.of_suffix gap.suffix
  | more gap field comma others ih =>
    have before := gap.takes (field.takes.trans (comma.takes (takes_cons _ _)))
    exact ih.of_suffix before.suffix

end ColumnQuery.Phrase
