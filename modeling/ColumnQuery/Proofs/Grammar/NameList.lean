import ColumnQuery.Clause.Select
import ColumnQuery.Proofs.Grammar.Cut
import ColumnQuery.Proofs.Grammar.Predicate

/-!
# Projection texts

A projection text writes names in order, each bare or between double quotes, with commas between
them and separators wherever it likes around each (`Written`). This says nothing about how far a
bare name reaches: a comma or a separator ends it, and either may stand in a quoted name. The reader
takes every such text for the selection of its names and, the star apart, nothing else.
-/
namespace ColumnQuery.Phrase

open Grammar

/-- A name as it is written: an identifier that is not reserved, or any name without double quotes
between double quotes. -/
inductive Mention : String → List Char → Prop where
  | bare {word : List Char} (identifier : Identifier word) : Mention (String.ofList word) word
  | quoted {name : List Char} (named : name ≠ []) (plain : '"' ∉ name) :
      Mention (String.ofList name) ('"' :: (name ++ ['"']))

/-- A name as it is written, with any separators on both sides. -/
def Entry (name : String) (text : List Char) : Prop :=
  ∃ before word behind, (∀ c ∈ before, Text.isSeparator c = true) ∧ Mention name word ∧
    (∀ c ∈ behind, Text.isSeparator c = true) ∧ text = before ++ (word ++ behind)

/-- Names as they are written in order, with commas between. -/
inductive Written : List String → List Char → Prop where
  | one {name : String} {text : List Char} (entry : Entry name text) : Written [name] text
  | more {name : String} {names : List String} {front rest : List Char} (entry : Entry name front)
      (others : Written names rest) : Written (name :: names) (front ++ ',' :: rest)

variable {text rest : List Char} {name : String} {names : List String}

/-- Separators before a place where no identifier goes on end one as well. -/
theorem ended_of_gap (gap : Gap text rest) (ended : Ended isIdentChar rest) :
    Ended isIdentChar text := by
  obtain ⟨separators, blank, rfl⟩ := gap
  cases separators with
  | nil => exact ended
  | cons c tail =>
    have separator := blank c List.mem_cons_self
    exact ended_cons.mpr (kind_of_isSeparator (by decide) separator)

/-- A name is a field where no identifier goes on behind it. -/
theorem Mention.field {word : List Char} (mention : Mention name word)
    (ended : Ended isIdentChar rest) : Field (word ++ rest) name rest := by
  cases mention with
  | bare identifier => exact .bare identifier rfl ended
  | quoted named plain => exact .quoted named plain (by simp)

/-- A field is a name with something behind it. -/
theorem Field.mention (field : Field text name rest) :
    ∃ word, Mention name word ∧ text = word ++ rest := by
  cases field with
  | bare identifier written ended => exact ⟨_, .bare identifier, written⟩
  | quoted named plain written => exact ⟨_, .quoted named plain, by simp [written]⟩

/-- A name with separators on both sides leads over a gap to a field and over another gap to what
follows, if no identifier goes on there. -/
theorem Entry.field {front : List Char} (entry : Entry name front)
    (ended : Ended isIdentChar rest) :
    ∃ start mid, Gap (front ++ rest) start ∧ Field start name mid ∧ Gap mid rest := by
  obtain ⟨before, word, behind, blank, mention, blank', rfl⟩ := entry
  have close : Gap (behind ++ rest) rest := ⟨behind, blank', rfl⟩
  have field := mention.field (ended_of_gap close ended)
  exact ⟨word ++ (behind ++ rest), behind ++ rest, ⟨before, blank, by simp⟩, field, close⟩

/-- A gap, a field and another gap make up a name with separators on both sides. -/
theorem entry_of_field {start mid : List Char} (gap : Gap text start)
    (field : Field start name mid) (close : Gap mid rest) :
    ∃ front, Entry name front ∧ text = front ++ rest := by
  obtain ⟨before, blank, rfl⟩ := gap
  obtain ⟨word, mention, rfl⟩ := field.mention
  obtain ⟨behind, blank', rfl⟩ := close
  exact ⟨_, ⟨before, word, behind, blank, mention, blank', rfl⟩, by simp⟩

/-- Names are written exactly in the texts that the grammar has as names up to a gap. -/
theorem written_iff_names :
    Written names text ↔ ∃ close, Names text names close ∧ Gap close [] := by
  constructor
  · intro written
    induction written with
    | @one name text entry =>
      obtain ⟨start, mid, gap, field, close⟩ := entry.field (ended_nil _)
      rw [List.append_nil] at gap
      exact ⟨mid, .one gap field, close⟩
    | @more name names front rest entry others ih =>
      have ended : Ended isIdentChar (',' :: rest) := ended_cons.mpr (by decide)
      obtain ⟨start, mid, gap, field, comma⟩ := entry.field ended
      obtain ⟨close, found, ends⟩ := ih
      exact ⟨close, .more gap field comma found, ends⟩
  · rintro ⟨close, found, ends⟩
    induction found with
    | one gap field =>
      obtain ⟨front, entry, rfl⟩ := entry_of_field gap field ends
      rw [List.append_nil]
      exact .one entry
    | more gap field comma others ih =>
      obtain ⟨front, entry, rfl⟩ := entry_of_field gap field comma
      exact .more entry (ih ends)

/-- A field does not begin with white space. -/
theorem Field.beginsSolid (field : Field text name rest) : Text.BeginsSolid text := by
  obtain ⟨c, tail, rfl, rfl | start⟩ := field.head
  · exact ⟨_, tail, rfl, by decide⟩
  · exact ⟨c, tail, rfl, isWhiteSpace_of_isIdentChar (isIdentChar_of_isIdentStart start)⟩

/-- Names begin with a field after a gap. -/
theorem Names.skipGap {close : List Char} (found : Names text names close) :
    ∃ start, Gap text start ∧ Text.BeginsSolid start ∧ Names start names close := by
  cases found with
  | one gap field => exact ⟨_, gap, field.beginsSolid, .one (Gap.refl _) field⟩
  | more gap field comma others =>
    exact ⟨_, gap, field.beginsSolid, .more (Gap.refl _) field comma others⟩

/-- Trimming takes away what stands around all the names that are written, and no more. -/
theorem Written.names_trim (written : Written names text) : Names (Text.trim text) names [] := by
  obtain ⟨close, found, ends⟩ := written_iff_names.mp written
  obtain ⟨start, gap, begins, inner⟩ := found.skipGap
  obtain ⟨core, solid, rfl⟩ := inner.lands
  obtain ⟨before, blank, rfl⟩ := gap
  obtain ⟨behind, blank', rfl⟩ := ends
  have trimmed : Text.trim (before ++ (core ++ (behind ++ []))) = core := by
    rw [Text.trim_blank_append fun c member => Text.isWhiteSpace_of_isSeparator (blank c member),
      List.append_nil]
    exact Text.trim_append_blank (begins.of_append solid.ne_nil) solid fun c member =>
      Text.isWhiteSpace_of_isSeparator (blank' c member)
  rw [trimmed]
  exact inner.alone

/-- Nothing is left behind the names that a trimmed text writes. -/
theorem Written.names_of_trimmed (written : Written names (Text.trim text)) :
    Names (Text.trim text) names [] := by
  obtain ⟨close, found, ends⟩ := written_iff_names.mp written
  have empty : close = [] := by
    apply Text.eq_nil_of_suffix_trim found.takes.suffix
    obtain ⟨separators, blank, rfl⟩ := ends
    rw [List.append_nil]
    exact fun c member => Text.isWhiteSpace_of_isSeparator (blank c member)
  exact empty ▸ found

end ColumnQuery.Phrase

namespace ColumnQuery

/-- A selection of fields has them in order. -/
theorem Expr.projectedFields_fields (names : List String) :
    (Expr.fields names).projectedFields = .ok names := by
  have listed (names : List String) :
      memberFields (names.map fun name => ⟨none, col name⟩) = .ok names := by
    induction names with
    | nil => rfl
    | cons name names ih =>
      rw [List.map_cons, memberFields, ih]
      rfl
  exact listed names

namespace Grammar

open Outcome Phrase

/-- A text is read as a projection only if it is the star or the grammar has it as names. -/
theorem names_of_readProjection {text : String} {expr : Expr}
    (reads : readProjection text = .ok expr) :
    (Text.trim text.toList = ['*'] ∧ expr = .row) ∨
      ∃ names, Written names (Text.trim text.toList) ∧ expr = .fields names := by
  unfold readProjection at reads
  dsimp only at reads
  split at reads
  · rename_i star
    cases reads
    exact .inl ⟨star, rfl⟩
  · obtain ⟨names, read, rfl⟩ := map_eq_done.mp (finish_eq_ok.mp reads)
    obtain ⟨close, found, ends⟩ := names_of_eq_done read
    have gap := gap_skipSeparators close
    rw [ends] at gap
    exact .inr ⟨names, written_iff_names.mpr ⟨close, found, gap⟩, rfl⟩

/-- **Projection texts are exactly the star and written names.** Any text that writes names is read
as the selection of these names in order, and any text that is read is, once trimmed, the star or
writes the names selected. -/
theorem readProjection_exact (text : String) :
    (∀ names, Written names text.toList →
      readProjection text = .ok (.fields names) ∧
        (Expr.fields names).projectedFields = .ok names) ∧
    ∀ expr, readProjection text = .ok expr ↔
      (Text.trim text.toList = ['*'] ∧ expr = .row) ∨
        ∃ names, Written names (Text.trim text.toList) ∧ expr = .fields names := by
  constructor
  · intro names written
    exact ⟨readProjection_of_names written.names_trim, Expr.projectedFields_fields names⟩
  · intro expr
    refine ⟨names_of_readProjection, ?_⟩
    rintro (⟨star, rfl⟩ | ⟨names, written, rfl⟩)
    · exact if_pos star
    · exact readProjection_of_names written.names_of_trimmed

/-- A comma, a star and a reserved word stand in quoted names, and all four separators around
names. -/
theorem readProjection_exact_quoted :
    readProjection "\t\"a,* \" ,\r\n\"or\",Age " = .ok (.fields ["a,* ", "or", "Age"]) ∧
    readProjection "*" = .ok .row := by
  have letters : ∀ c ∈ ['g', 'e'], isIdentChar c = true :=
    List.forall_mem_cons.mpr ⟨rfl, List.forall_mem_singleton.mpr rfl⟩
  have age : Identifier ['A', 'g', 'e'] := ⟨'A', ['g', 'e'], rfl, rfl, letters, rfl⟩
  have space : ∀ c ∈ [' '], Text.isSeparator c = true := List.forall_mem_singleton.mpr rfl
  have tab : ∀ c ∈ ['\t'], Text.isSeparator c = true := List.forall_mem_singleton.mpr rfl
  have newLine : ∀ c ∈ ['\r', '\n'], Text.isSeparator c = true :=
    List.forall_mem_cons.mpr ⟨rfl, List.forall_mem_singleton.mpr rfl⟩
  have last : Entry "Age" ['A', 'g', 'e', ' '] :=
    ⟨[], ['A', 'g', 'e'], [' '], List.forall_mem_nil _, .bare age, space, rfl⟩
  have second : Entry "or" ['\r', '\n', '"', 'o', 'r', '"'] :=
    ⟨['\r', '\n'], ['"', 'o', 'r', '"'], [], newLine,
      .quoted (List.cons_ne_nil 'o' ['r']) (by simp), List.forall_mem_nil _, rfl⟩
  have first : Entry "a,* " ['\t', '"', 'a', ',', '*', ' ', '"', ' '] :=
    ⟨['\t'], ['"', 'a', ',', '*', ' ', '"'], [' '], tab,
      .quoted (List.cons_ne_nil 'a' [',', '*', ' ']) (by simp), space, rfl⟩
  have written : Written ["a,* ", "or", "Age"]
      "\t\"a,* \" ,\r\n\"or\",Age ".toList := .more first (.more second (.one last))
  have star : Text.trim "*".toList = ['*'] := by decide +kernel
  exact ⟨((readProjection_exact _).1 _ written).1,
    ((readProjection_exact _).2 _).mpr (.inl ⟨star, rfl⟩)⟩

end Grammar

end ColumnQuery
