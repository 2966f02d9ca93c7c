import ColumnQuery.Text.Classes

/-!
# Trimmed texts

A trimmed text does not end with white space, so nothing blank can be left at its end. A text that
neither begins nor ends with white space is trimmed already, and white space behind it is all that
trimming takes away. No letter and no numeral is white space.
-/
namespace ColumnQuery.Text

/-- Separators are white space. -/
theorem isWhiteSpace_of_isSeparator {c : Char} (separator : isSeparator c = true) :
    isWhiteSpace c = true := by
  simp only [isSeparator, Bool.or_eq_true, beq_iff_eq, or_assoc] at separator
  rcases separator with rfl | rfl | rfl | rfl <;> decide

/-- A text trimmed at its end does not end with white space. -/
theorem getLast?_trimEnd {text : List Char} {c : Char} (last : (trimEnd text).getLast? = some c) :
    isWhiteSpace c = false := by
  unfold trimEnd at last
  rw [List.getLast?_reverse] at last
  have head := List.head?_dropWhile_not isWhiteSpace text.reverse
  rw [last] at head
  simpa using head

/-- Only the empty text is blank and ends a trimmed text. -/
theorem eq_nil_of_suffix_trim {text rest : List Char} (suffix : rest <:+ trim text)
    (blank : ∀ c ∈ rest, isWhiteSpace c = true) : rest = [] := by
  refine Classical.byContradiction fun filled => ?_
  obtain ⟨before, whole⟩ := suffix
  have last : (trim text).getLast? = some (rest.getLast filled) := by
    rw [← whole, List.getLast?_append, List.getLast?_eq_some_getLast filled, Option.some_or]
  have token := getLast?_trimEnd last
  rw [blank _ (List.getLast_mem filled)] at token
  contradiction

/-- A text begins with something else than white space. -/
def BeginsSolid (text : List Char) : Prop := ∃ c tail, text = c :: tail ∧ isWhiteSpace c = false

/-- A text ends with something else than white space. -/
def EndsSolid (text : List Char) : Prop := ∃ before c, text = before ++ [c] ∧ isWhiteSpace c = false

/-- A text begins as its first part does. -/
theorem BeginsSolid.append {text : List Char} (begins : BeginsSolid text) (rest : List Char) :
    BeginsSolid (text ++ rest) := by
  obtain ⟨c, tail, rfl, solid⟩ := begins
  exact ⟨c, tail ++ rest, rfl, solid⟩

/-- A text ends as its last part does. -/
theorem EndsSolid.append {text : List Char} (ends : EndsSolid text) (before : List Char) :
    EndsSolid (before ++ text) := by
  obtain ⟨inner, c, rfl, solid⟩ := ends
  exact ⟨before ++ inner, c, (List.append_assoc _ _ _).symm, solid⟩

/-- The first part of a text begins as the text does. -/
theorem BeginsSolid.of_append {text rest : List Char} (begins : BeginsSolid (text ++ rest))
    (filled : text ≠ []) : BeginsSolid text := by
  obtain ⟨c, tail, rfl⟩ := List.exists_cons_of_ne_nil filled
  obtain ⟨d, behind, same, solid⟩ := begins
  cases same
  exact ⟨c, tail, rfl, solid⟩

/-- What ends with something else than white space is not empty. -/
theorem EndsSolid.ne_nil {text : List Char} (ends : EndsSolid text) : text ≠ [] := by
  obtain ⟨before, c, rfl, _⟩ := ends
  exact List.concat_ne_nil c before

/-- A text that neither begins nor ends with white space is left by trimming. -/
theorem trim_eq_self {text : List Char} (begins : BeginsSolid text) (ends : EndsSolid text) :
    trim text = text := by
  obtain ⟨c, tail, rfl, solid⟩ := begins
  have front : trimStart (c :: tail) = c :: tail := by simp [trimStart, solid]
  obtain ⟨before, d, same, solid'⟩ := ends
  rw [trim, front, same]
  simp [trimEnd, solid']

/-- White space behind a text that neither begins nor ends with any is trimmed away. -/
theorem trim_append_blank {text blank : List Char} (begins : BeginsSolid text)
    (ends : EndsSolid text) (all : ∀ c ∈ blank, isWhiteSpace c = true) :
    trim (text ++ blank) = text := by
  obtain ⟨c, tail, same, solid⟩ := begins.append blank
  have front : trimStart (text ++ blank) = text ++ blank := by
    rw [same, trimStart, List.dropWhile_cons_of_neg (by simp [solid])]
  have back : ∀ c ∈ blank.reverse, isWhiteSpace c = true :=
    fun c member => all c (List.mem_reverse.mp member)
  have behind : trimEnd (text ++ blank) = trimEnd text := by
    unfold trimEnd
    rw [List.reverse_append, List.dropWhile_append_of_pos back]
  calc
    trim (text ++ blank) = trimEnd (text ++ blank) := by rw [trim, front]
    _ = trimEnd (trimStart text) := by
      obtain ⟨d, rest, rfl, solid'⟩ := begins
      rw [behind, trimStart, List.dropWhile_cons_of_neg (by simp [solid'])]
    _ = text := trim_eq_self begins ends

/-- White space before a text is trimmed away. -/
theorem trim_blank_append {blank : List Char} (all : ∀ c ∈ blank, isWhiteSpace c = true)
    (text : List Char) : trim (blank ++ text) = trim text := by
  rw [trim, trimStart, List.dropWhile_append_of_pos all, ← trimStart, ← trim]

/-- A trimmed text does not begin with white space. -/
theorem beginsSolid_trim {text : List Char} (filled : trim text ≠ []) :
    BeginsSolid (trim text) := by
  have front : trim text <+: trimStart text :=
    List.reverse_suffix.mp (by
      rw [trim, trimEnd, List.reverse_reverse]
      exact List.dropWhile_suffix _)
  obtain ⟨c, tail, same⟩ := List.exists_cons_of_ne_nil filled
  obtain ⟨behind, whole⟩ := front
  have head := List.head?_dropWhile_not isWhiteSpace text
  rw [← trimStart, ← whole, same] at head
  exact ⟨c, tail, same, by simpa using head⟩

/-! ## Letters and numerals -/

/-- White space within ASCII does not go beyond the space. -/
theorem toNat_le_of_isWhiteSpace {c : Char} (blank : isWhiteSpace c = true)
    (small : c.toNat < 128) : c.toNat ≤ 32 := by
  simp only [isWhiteSpace, inRanges, whiteSpaceRanges, List.any_cons, List.any_nil, Bool.or_false,
    Bool.or_eq_true, Bool.and_eq_true, decide_eq_true_eq] at blank
  omega

/-- No character lies in ranges of two kinds that are apart. -/
theorem inRanges_of_apart {ranges ranges' : List (Nat × Nat)} {c : Char}
    (apart : ∀ range ∈ ranges, ∀ range' ∈ ranges', range.2 < range'.1 ∨ range'.2 < range.1)
    (inside : inRanges ranges c = true) : inRanges ranges' c = false := by
  simp only [inRanges, List.any_eq_true, Bool.and_eq_true, decide_eq_true_eq] at inside
  obtain ⟨range, listed, lower, upper⟩ := inside
  simp only [inRanges, List.any_eq_false, Bool.and_eq_true, decide_eq_true_eq, not_and]
  intro range' listed' lower'
  have order := apart range listed range' listed'
  omega

/-- No white space is a letter. -/
theorem isAlphabetic_of_isWhiteSpace {c : Char} (blank : isWhiteSpace c = true) :
    isAlphabetic c = false := by
  unfold isAlphabetic
  split
  · rename_i small
    have early := toNat_le_of_isWhiteSpace blank small
    have noUpper : ¬ 'A'.val ≤ c.val := by
      intro upper
      have first : 65 ≤ c.toNat := upper
      omega
    have noLower : ¬ 'a'.val ≤ c.val := by
      intro lower
      have first : 97 ≤ c.toNat := lower
      omega
    show (decide ('A'.val ≤ c.val ∧ c.val ≤ 'Z'.val) ||
      decide ('a'.val ≤ c.val) && decide (c.val ≤ 'z'.val)) = false
    simp only [noUpper, noLower, false_and, decide_false, Bool.false_and, Bool.or_self]
  · exact inRanges_of_apart (by decide +kernel) blank

/-- No white space is a numeral. -/
theorem isNumeric_of_isWhiteSpace {c : Char} (blank : isWhiteSpace c = true) :
    isNumeric c = false := by
  unfold isNumeric
  split
  · rename_i small
    have early := toNat_le_of_isWhiteSpace blank small
    apply Bool.eq_false_iff.mpr
    intro digit
    have first : 48 ≤ c.toNat := (Char.isDigit_iff_toNat.mp digit).1
    omega
  · exact inRanges_of_apart (by decide +kernel) blank

end ColumnQuery.Text
