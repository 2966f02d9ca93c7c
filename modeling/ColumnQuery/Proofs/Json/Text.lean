import ColumnQuery.Proofs.Json.Numeral
import ColumnQuery.Proofs.Json.Quoted

/-!
# JSON texts are read back

A tree whose numerals are of JSON and whose strings have texts is read back from its text without
blanks: nothing in it begins with a blank or a closing bracket, and after a value stands a comma, a
closing bracket or the end. The bound on calls is never met, since each call leaves at least one
character less.
-/
namespace ColumnQuery.Json

open Grammar Phrase

/-- The trees that a text can hold: numerals are of JSON, strings and keys have texts. -/
inductive Node.HasText : Node → Prop where
  | null : HasText .null
  | bool (b : Bool) : HasText (.bool b)
  | number {numeral : Numeral} (json : numeral.IsJson) : HasText (.number numeral)
  | string (text : String) : HasText (.string (some text))
  | array {items : List Node} (all : ∀ item ∈ items, HasText item) : HasText (.array items)
  | object {entries : List Entry} (keyed : ∀ entry ∈ entries, entry.key.isSome = true)
      (all : ∀ entry ∈ entries, HasText entry.node) : HasText (.object entries)

/-! ## Written parts -/

/-- Items with a comma before each. -/
def tailItems (items : List Node) : List Char := items.flatMap fun item => ',' :: item.compact

/-- An entry as it is written. -/
def entryChars (entry : Entry) : List Char :=
  Node.stringChars entry.key ++ ':' :: entry.node.compact

/-- Entries with a comma before each. -/
def tailEntries (entries : List Entry) : List Char :=
  entries.flatMap fun entry => ',' :: entryChars entry

/-- Items are written with a comma before each after the first. -/
theorem compactItems_cons (first : Node) (others : List Node) :
    Node.compactItems (first :: others) = first.compact ++ tailItems others := by
  induction others generalizing first with
  | nil => simp [Node.compactItems, tailItems]
  | cons second others ih =>
    rw [Node.compactItems, ih]
    · rfl
    · intro impossible
      cases impossible

/-- Entries are written with a comma before each after the first. -/
theorem compactEntries_cons (first : Entry) (others : List Entry) :
    Node.compactEntries (first :: others) = entryChars first ++ tailEntries others := by
  induction others generalizing first with
  | nil =>
    obtain ⟨key, node⟩ := first
    simp [Node.compactEntries, tailEntries, entryChars]
  | cons second others ih =>
    obtain ⟨key, node⟩ := first
    rw [Node.compactEntries, ih]
    · simp [tailEntries, entryChars]
    · intro impossible
      cases impossible

/-! ## Reading -/

/-- A text that begins with no blank is not skipped. -/
theorem skipSeparators_cons {c : Char} (solid : Text.isSeparator c = false) (tail : List Char) :
    Text.skipSeparators (c :: tail) = c :: tail := by
  simp [Text.skipSeparators, solid]

/-- What begins like none of the other values is a number. -/
theorem readNode_of_numeral {c : Char} (bound : Nat) (solid : Text.isSeparator c = false)
    (other : c ∉ ['n', 't', 'f', '"', '[', ']', '\x7b']) (tail : List Char) :
    readNode (bound + 1) (c :: tail) =
      (scanNumeral (c :: tail)).map fun found => (.number found.1, found.2) := by
  rw [readNode, skipSeparators_cons solid]
  split
  all_goals simp_all

/-- A bracket that is not closed at once opens an array with a first item. -/
theorem readNode_array {c : Char} (bound : Nat) (solid : Text.isSeparator c = false)
    (filled : c ≠ ']') (tail : List Char) :
    readNode (bound + 1) ('[' :: c :: tail) = (do
      let (first, text) ← readNode bound (c :: tail)
      let (others, text) ← readItems bound text
      some (.array (first :: others), text)) := by
  rw [readNode, skipSeparators_cons (by decide)]
  split
  case h_5 text opened =>
    obtain rfl := (List.cons.inj opened).2
    rw [skipSeparators_cons solid]
    split
    · rename_i closed
      exact absurd (List.cons.inj closed).1 filled
    · rfl
  all_goals simp_all

/-- A brace with a key after it opens an object with a first entry. -/
theorem readNode_object (bound : Nat) (tail : List Char) :
    readNode (bound + 1) ('\x7b' :: '"' :: tail) = (do
      let (key, text) ← scanKey ('"' :: tail)
      let (node, text) ← readNode bound text
      let (others, text) ← readEntries bound text
      some (.object (⟨key, node⟩ :: others), text)) := by
  rw [readNode, skipSeparators_cons (by decide)]
  rfl

/-- A value is read back in front of any text that does not go on with a number. -/
def Reads (node : Node) : Prop :=
  ∀ (bound : Nat) (rest : List Char), node.compact.length < bound → Ended prolongsNumeral rest →
    readNode bound (node.compact ++ rest) = some (node, rest)

/-- A number begins like nothing else. -/
theorem numeral_head {numeral : Numeral} (json : numeral.IsJson) :
    ∃ c tail, numeral.chars = c :: tail ∧ Text.isSeparator c = false ∧
      c ∉ ['n', 't', 'f', '"', '[', ']', '\x7b'] := by
  have digit (d : Digit) : Text.isSeparator d.char = false ∧
      d.char ∉ ['n', 't', 'f', '"', '[', ']', '\x7b'] := by
    revert d
    decide
  obtain ⟨negative, whole, fraction, exponent⟩ := numeral
  obtain ⟨first, others, filled, _⟩ := json.whole
  cases filled
  cases negative with
  | true => exact ⟨'-', _, rfl, by decide, by decide⟩
  | false => exact ⟨first.char, _, rfl, digit first⟩

/-- A number is read back. -/
theorem reads_number {numeral : Numeral} (json : numeral.IsJson) : Reads (.number numeral) := by
  intro bound rest within ended
  obtain ⟨bound, rfl⟩ : ∃ less, bound = less + 1 := ⟨bound - 1, by omega⟩
  obtain ⟨c, tail, written, solid, other⟩ := numeral_head json
  have found := scanNumeral_chars json ended
  show readNode (bound + 1) (numeral.chars ++ rest) = _
  rw [written, List.cons_append] at found ⊢
  rw [readNode_of_numeral bound solid other, found]
  rfl

/-- A string is read back. -/
theorem reads_string (text : String) : Reads (.string (some text)) := by
  intro bound rest within ended
  obtain ⟨bound, rfl⟩ : ∃ less, bound = less + 1 := ⟨bound - 1, by omega⟩
  have written : (Node.string (some text)).compact ++ rest =
      '"' :: (text.toList.flatMap Quoted.encodeChar ++ '"' :: rest) := by
    simp [Node.compact, Node.stringChars, Quoted.encode]
  rw [written, readNode, skipSeparators_cons (by decide)]
  show (scanString _).map _ = _
  rw [scanString_encode]
  rfl

/-- Items after the first are read back up to their bracket. -/
theorem readItems_tailItems {items : List Node} (reads : ∀ item ∈ items, Reads item) (bound : Nat)
    (rest : List Char) (within : (tailItems items).length < bound) :
    readItems bound (tailItems items ++ ']' :: rest) = some (items, rest) := by
  induction items generalizing bound with
  | nil =>
    obtain ⟨bound, rfl⟩ : ∃ less, bound = less + 1 := ⟨bound - 1, by omega⟩
    rfl
  | cons item items ih =>
    obtain ⟨bound, rfl⟩ : ∃ less, bound = less + 1 := ⟨bound - 1, by omega⟩
    -- The comma before the item pays for the call, so the bound outlasts the items.
    have written : tailItems (item :: items) ++ ']' :: rest =
        ',' :: (item.compact ++ (tailItems items ++ ']' :: rest)) := by
      simp [tailItems]
    have size : (tailItems (item :: items)).length =
        item.compact.length + (tailItems items).length + 1 := by
      simp [tailItems]
    have ended : Ended prolongsNumeral (tailItems items ++ ']' :: rest) := by
      cases items <;> exact ended_cons.mpr (by decide)
    have first := reads item List.mem_cons_self bound _ (by omega) ended
    have others := ih (fun item member => reads item (List.mem_cons_of_mem _ member)) bound
      (by omega)
    rw [written, readItems, skipSeparators_cons (by decide)]
    show (readNode bound (item.compact ++ (tailItems items ++ ']' :: rest))).bind _ = _
    rw [first]
    show (readItems bound (tailItems items ++ ']' :: rest)).bind _ = _
    rw [others]
    rfl

/-- A key is read back with its colon. -/
theorem scanKey_stringChars (key : String) (rest : List Char) :
    scanKey (Node.stringChars (some key) ++ ':' :: rest) = some (some key, rest) := by
  have written : Node.stringChars (some key) ++ ':' :: rest =
      '"' :: (key.toList.flatMap Quoted.encodeChar ++ '"' :: ':' :: rest) := by
    simp [Node.stringChars, Quoted.encode]
  rw [written, scanKey, skipSeparators_cons (by decide)]
  show (scanString (key.toList.flatMap Quoted.encodeChar ++ '"' :: ':' :: rest)).bind _ = _
  rw [scanString_encode]
  rfl

/-- An entry is read back as its key and its value, whatever is done with them next. -/
theorem bind_entryChars {α : Type} {key : String} {node : Node} (reads : Reads node) {bound : Nat}
    (within : node.compact.length < bound) {rest : List Char} (ended : Ended prolongsNumeral rest)
    (next : Option String → Node → List Char → Option α) :
    ((scanKey (entryChars ⟨some key, node⟩ ++ rest)).bind fun found =>
      (readNode bound found.2).bind fun value => next found.1 value.1 value.2) =
        next (some key) node rest := by
  have written : entryChars ⟨some key, node⟩ ++ rest =
      Node.stringChars (some key) ++ ':' :: (node.compact ++ rest) := by
    simp [entryChars]
  rw [written, scanKey_stringChars, Option.bind_some, reads bound rest within ended,
    Option.bind_some]

/-- Entries after the first are read back up to their brace. -/
theorem readEntries_tailEntries {entries : List Entry}
    (keyed : ∀ entry ∈ entries, entry.key.isSome = true)
    (reads : ∀ entry ∈ entries, Reads entry.node) (bound : Nat) (rest : List Char)
    (within : (tailEntries entries).length < bound) :
    readEntries bound (tailEntries entries ++ '\x7d' :: rest) = some (entries, rest) := by
  induction entries generalizing bound with
  | nil =>
    obtain ⟨bound, rfl⟩ : ∃ less, bound = less + 1 := ⟨bound - 1, by omega⟩
    rfl
  | cons entry entries ih =>
    obtain ⟨bound, rfl⟩ : ∃ less, bound = less + 1 := ⟨bound - 1, by omega⟩
    obtain ⟨key, node⟩ := entry
    obtain ⟨key, rfl⟩ := Option.isSome_iff_exists.mp (keyed _ List.mem_cons_self)
    have written : tailEntries (⟨some key, node⟩ :: entries) ++ '\x7d' :: rest =
        ',' :: (entryChars ⟨some key, node⟩ ++ (tailEntries entries ++ '\x7d' :: rest)) := by
      simp [tailEntries]
    have size : (tailEntries (⟨some key, node⟩ :: entries)).length =
        (Node.stringChars (some key)).length + node.compact.length +
          (tailEntries entries).length + 2 := by
      simp [tailEntries, entryChars]
      omega
    have small : node.compact.length < bound := by omega
    have ended : Ended prolongsNumeral (tailEntries entries ++ '\x7d' :: rest) := by
      cases entries <;> exact ended_cons.mpr (by decide)
    have others := ih (fun entry member => keyed entry (List.mem_cons_of_mem _ member))
      (fun entry member => reads entry (List.mem_cons_of_mem _ member)) bound (by omega)
    rw [written, readEntries, skipSeparators_cons (by decide)]
    refine (bind_entryChars (reads _ List.mem_cons_self) small ended fun key node text =>
      (readEntries bound text).bind fun found => some (⟨key, node⟩ :: found.1, found.2)).trans ?_
    rw [others]
    rfl

/-! ## Whole values -/

/-- A value begins with no blank and with no closing bracket. -/
theorem Node.HasText.head {node : Node} (hasText : node.HasText) :
    ∃ c tail, node.compact = c :: tail ∧ Text.isSeparator c = false ∧ c ≠ ']' := by
  cases hasText with
  | null => exact ⟨'n', _, rfl, by decide, by decide⟩
  | bool b => cases b <;> exact ⟨_, _, rfl, by decide, by decide⟩
  | number json =>
    obtain ⟨c, tail, written, solid, other⟩ := numeral_head json
    refine ⟨c, tail, written, solid, ?_⟩
    rintro rfl
    exact other (by decide)
  | string text => exact ⟨'"', _, rfl, by decide, by decide⟩
  | array all => exact ⟨'[', _, rfl, by decide, by decide⟩
  | object keyed all => exact ⟨'\x7b', _, rfl, by decide, by decide⟩

/-- An array of values that are read back is read back. -/
theorem reads_array {items : List Node} (all : ∀ item ∈ items, item.HasText)
    (reads : ∀ item ∈ items, Reads item) : Reads (.array items) := by
  intro bound rest within ended
  obtain ⟨bound, rfl⟩ : ∃ less, bound = less + 1 := ⟨bound - 1, by omega⟩
  cases items with
  | nil => rfl
  | cons first others =>
    have written : (Node.array (first :: others)).compact ++ rest =
        '[' :: (first.compact ++ (tailItems others ++ ']' :: rest)) := by
      simp [Node.compact, compactItems_cons]
    have size : (Node.array (first :: others)).compact.length =
        first.compact.length + (tailItems others).length + 2 := by
      simp [Node.compact, compactItems_cons, Nat.add_assoc]
    have ended : Ended prolongsNumeral (tailItems others ++ ']' :: rest) := by
      cases others <;> exact ended_cons.mpr (by decide)
    have head := reads first List.mem_cons_self bound _ (by omega) ended
    have tail := readItems_tailItems (fun item member => reads item (List.mem_cons_of_mem _ member))
      bound rest (by omega)
    obtain ⟨c, more, begins, solid, filled⟩ := (all first List.mem_cons_self).head
    rw [written, begins, List.cons_append, readNode_array bound solid filled, ← List.cons_append,
      ← begins, head]
    show (readItems bound (tailItems others ++ ']' :: rest)).bind _ = _
    rw [tail]
    rfl

/-- An object of values that are read back is read back. -/
theorem reads_object {entries : List Entry} (keyed : ∀ entry ∈ entries, entry.key.isSome = true)
    (reads : ∀ entry ∈ entries, Reads entry.node) : Reads (.object entries) := by
  intro bound rest within ended
  obtain ⟨bound, rfl⟩ : ∃ less, bound = less + 1 := ⟨bound - 1, by omega⟩
  cases entries with
  | nil => rfl
  | cons first others =>
    obtain ⟨key, node⟩ := first
    obtain ⟨key, rfl⟩ := Option.isSome_iff_exists.mp (keyed _ List.mem_cons_self)
    have written : (Node.object (⟨some key, node⟩ :: others)).compact ++ rest =
        '\x7b' :: (entryChars ⟨some key, node⟩ ++ (tailEntries others ++ '\x7d' :: rest)) := by
      simp [Node.compact, compactEntries_cons]
    have size : (Node.object (⟨some key, node⟩ :: others)).compact.length =
        (Node.stringChars (some key)).length + node.compact.length +
          (tailEntries others).length + 3 := by
      simp [Node.compact, compactEntries_cons, entryChars]
      omega
    have small : node.compact.length < bound := by omega
    have ended : Ended prolongsNumeral (tailEntries others ++ '\x7d' :: rest) := by
      cases others <;> exact ended_cons.mpr (by decide)
    have tail := readEntries_tailEntries
      (fun entry member => keyed entry (List.mem_cons_of_mem _ member))
      (fun entry member => reads entry (List.mem_cons_of_mem _ member)) bound rest (by omega)
    rw [written]
    refine (readNode_object bound _).trans ?_
    refine (bind_entryChars (reads _ List.mem_cons_self) small ended fun key node text =>
      (readEntries bound text).bind fun found =>
        some (Node.object (⟨key, node⟩ :: found.1), found.2)).trans ?_
    rw [tail]
    rfl

/-- **A value is read back in front of any text that does not go on with a number.** -/
theorem Node.HasText.reads {node : Node} (hasText : node.HasText) : Reads node := by
  induction hasText with
  | null =>
    intro bound rest within ended
    obtain ⟨bound, rfl⟩ : ∃ less, bound = less + 1 := ⟨bound - 1, by omega⟩
    rfl
  | bool b =>
    intro bound rest within ended
    obtain ⟨bound, rfl⟩ : ∃ less, bound = less + 1 := ⟨bound - 1, by omega⟩
    cases b <;> rfl
  | number json => exact reads_number json
  | string text => exact reads_string text
  | array all ih => exact reads_array all ih
  | object keyed all ih => exact reads_object keyed ih

/-- **A tree is read back from its text.** -/
theorem Node.HasText.ofText?_compactText {node : Node} (hasText : node.HasText) :
    Node.ofText? node.compactText = some node := by
  have whole := hasText.reads (node.compact.length + 1) [] (by omega) (ended_nil _)
  rw [List.append_nil] at whole
  rw [ofText?, compactText, String.toList_ofList, ofChars?, whole]
  rfl

end ColumnQuery.Json
