import ColumnQuery.Grammar.Reader

/-!
# Laws of readers

What a combined reader reads is what its parts read: each combinator here has one law that says when
it is done, and one that says what it does after a miss of its first part. A chain of operands is
read like a loop; `resume` is that loop from any place with the tree built so far, and one more
operator with its operand moves it on (`resume_of_done`).
-/
namespace ColumnQuery.Grammar

variable {α β : Type}

namespace Outcome

/-- Nothing was read, and another reader may try. -/
def Misses (outcome : Outcome α) : Prop := ∃ rest expected, outcome = miss rest expected

@[simp] theorem misses_miss (rest : List Char) (expected : Expected) :
    (miss rest expected : Outcome α).Misses := ⟨rest, expected, rfl⟩

@[simp] theorem not_misses_done (value : α) (rest : List Char) :
    ¬ (done value rest : Outcome α).Misses := by
  rintro ⟨_, _, h⟩
  cases h

@[simp] theorem done_bind (value : α) (rest : List Char) (next : α → Reader β) :
    (done value rest).bind next = next value rest := rfl

@[simp] theorem done_map (value : α) (rest : List Char) (f : α → β) :
    (done value rest).map f = done (f value) rest := rfl

@[simp] theorem done_orElse (value : α) (rest : List Char) (other : Unit → Outcome α) :
    (done value rest).orElse other = done value rest := rfl

/-- The whole reading ended. -/
def Halts (outcome : Outcome α) : Prop := ∃ rest cause, outcome = halt rest cause

@[simp] theorem not_halts_done (value : α) (rest : List Char) :
    ¬ (done value rest : Outcome α).Halts := by
  rintro ⟨_, _, h⟩
  cases h

@[simp] theorem not_halts_miss (rest : List Char) (expected : Expected) :
    ¬ (miss rest expected : Outcome α).Halts := by
  rintro ⟨_, _, h⟩
  cases h

/-- A reader that neither is done nor halts misses. -/
theorem misses_of_not {outcome : Outcome α} (unread : ∀ value rest, outcome ≠ done value rest)
    (goes : ¬ outcome.Halts) : outcome.Misses := by
  cases outcome with
  | done value rest => exact absurd rfl (unread value rest)
  | miss rest expected => exact misses_miss rest expected
  | halt rest cause => exact absurd ⟨rest, cause, rfl⟩ goes

/-- Going on halts only in one of its parts. -/
theorem Halts.of_bind {outcome : Outcome α} {next : α → Reader β}
    (halts : (outcome.bind next).Halts) :
    outcome.Halts ∨ ∃ value rest, outcome = done value rest ∧ (next value rest).Halts := by
  cases outcome with
  | done value rest => exact .inr ⟨value, rest, rfl, halts⟩
  | miss rest expected => exact absurd halts (not_halts_miss rest expected)
  | halt rest cause => exact .inl ⟨rest, cause, rfl⟩

/-- Making something else of what was read never halts. -/
theorem Halts.of_map {outcome : Outcome α} {f : α → β} (halts : (outcome.map f).Halts) :
    outcome.Halts := by
  rcases Halts.of_bind halts with halts | ⟨value, rest, _, halts⟩
  · exact halts
  · exact absurd halts (not_halts_done _ _)

/-- A choice halts only in one of its readers. -/
theorem Halts.of_orElse {outcome : Outcome α} {other : Unit → Outcome α}
    (halts : (outcome.orElse other).Halts) : outcome.Halts ∨ (other ()).Halts := by
  cases outcome with
  | done value rest => exact absurd halts (not_halts_done value rest)
  | miss rest expected => exact .inr halts
  | halt rest cause => exact .inl ⟨rest, cause, rfl⟩

/-- What follows a miss is not tried. -/
theorem Misses.bind {outcome : Outcome α} (misses : outcome.Misses) (next : α → Reader β) :
    (outcome.bind next).Misses := by
  obtain ⟨rest, expected, rfl⟩ := misses
  exact ⟨rest, expected, rfl⟩

/-- A miss of something is a miss of what is made of it. -/
theorem Misses.map {outcome : Outcome α} (misses : outcome.Misses) (f : α → β) :
    (outcome.map f).Misses := misses.bind _

/-- After a miss the other reader decides. -/
theorem Misses.orElse {outcome : Outcome α} (misses : outcome.Misses)
    (other : Unit → Outcome α) : outcome.orElse other = other () := by
  obtain ⟨rest, expected, rfl⟩ := misses
  rfl

/-- Going on is done exactly when both parts are. -/
theorem bind_eq_done {outcome : Outcome α} {next : α → Reader β} {value : β} {rest : List Char} :
    outcome.bind next = done value rest ↔
      ∃ first mid, outcome = done first mid ∧ next first mid = done value rest := by
  cases outcome with
  | done first mid =>
    constructor
    · intro h
      exact ⟨first, mid, rfl, h⟩
    · rintro ⟨_, _, same, h⟩
      cases same
      exact h
  | miss rest expected => simp [bind]
  | halt rest cause => simp [bind]

/-- Something was made exactly of something that was read. -/
theorem map_eq_done {outcome : Outcome α} {f : α → β} {value : β} {rest : List Char} :
    outcome.map f = done value rest ↔ ∃ first, outcome = done first rest ∧ f first = value := by
  cases outcome with
  | done first mid =>
    simp only [done_map, done.injEq]
    constructor
    · rintro ⟨made, rfl⟩
      exact ⟨first, ⟨rfl, rfl⟩, made⟩
    · rintro ⟨_, ⟨rfl, rfl⟩, made⟩
      exact ⟨made, rfl⟩
  | miss rest expected => simp [map, bind]
  | halt rest cause => simp [map, bind]

/-- A choice is done by its first reader, or by its second after a miss of the first. -/
theorem orElse_eq_done {outcome : Outcome α} {other : Unit → Outcome α} {value : α}
    {rest : List Char} : outcome.orElse other = done value rest ↔
      outcome = done value rest ∨ outcome.Misses ∧ other () = done value rest := by
  cases outcome with
  | done first mid => simp [orElse]
  | miss rest expected => simp [orElse]
  | halt rest cause =>
    simp only [orElse, reduceCtorEq, false_or, false_iff, not_and]
    rintro ⟨_, _, h⟩
    cases h

end Outcome

open Outcome

/-- A certain character is read exactly from a text that starts with it. -/
theorem char_eq_done {expected : Char} {text rest : List Char} {value : Unit} :
    char expected text = .done value rest ↔ text = expected :: rest := by
  cases text with
  | nil => simp [char]
  | cons c tail =>
    by_cases same : c = expected <;> simp [char, same]

/-- Reading a certain character never halts. -/
theorem char_not_halts (expected : Char) (text : List Char) : ¬ (char expected text).Halts := by
  unfold char
  split
  · exact not_halts_miss _ _
  · split
    · exact not_halts_done _ _
    · exact not_halts_miss _ _

/-- A certain character is missed on every other text. -/
theorem char_misses {expected : Char} {text : List Char}
    (other : ∀ tail, text ≠ expected :: tail) : (char expected text).Misses :=
  misses_of_not (fun _ rest read => other rest (char_eq_done.mp read)) (char_not_halts _ _)

/-- What follows a word, found exactly when the text starts with the word. -/
theorem dropWord_eq_some_iff {word text rest : List Char} :
    dropWord word text = some rest ↔ text = word ++ rest := by
  induction word generalizing text with
  | nil => simp [dropWord]
  | cons w word ih =>
    cases text with
    | nil => simp [dropWord]
    | cons c text =>
      unfold dropWord
      split
      · rename_i same
        simp [same, ih]
      · rename_i other
        simp [other]

/-- A symbol is read exactly from a text that starts with it. -/
theorem symbol_eq_done {expected : String} {text rest : List Char} {value : Unit} :
    symbol expected text = .done value rest ↔ text = expected.toList ++ rest := by
  rw [← dropWord_eq_some_iff]
  unfold symbol
  split
  · rename_i found
    simp [found]
  · rename_i none
    simp [none]

/-- Reading a symbol never halts. -/
theorem symbol_not_halts (expected : String) (text : List Char) :
    ¬ (symbol expected text).Halts := by
  unfold symbol
  split
  · exact not_halts_done _ _
  · exact not_halts_miss _ _

/-- A symbol is missed on every other text. -/
theorem symbol_misses {expected : String} {text : List Char}
    (other : ∀ rest, text ≠ expected.toList ++ rest) : (symbol expected text).Misses :=
  misses_of_not (fun _ rest read => other rest (symbol_eq_done.mp read)) (symbol_not_halts _ _)

/-- Brackets are missed on a text that starts with none. -/
theorem bracketed_misses {read : Reader α} {text : List Char} (other : ∀ tail, text ≠ '(' :: tail) :
    (bracketed read text).Misses := (char_misses other).bind _

/-- Something in brackets is read as its inside is, if the closing bracket follows. -/
theorem bracketed_of_done {read : Reader α} {inner rest : List Char} {value : α}
    (reads : read inner = .done value (')' :: rest)) :
    bracketed read ('(' :: inner) = .done value rest := by
  simp [bracketed, char, reads]

/-- Brackets are missed if their inside is missed or something else than the closing bracket follows
it. -/
theorem bracketed_misses_of_inside {read : Reader α} {inner : List Char}
    (misses : (read inner).Misses ∨
      ∃ value rest, read inner = .done value rest ∧ ∀ tail, rest ≠ ')' :: tail) :
    (bracketed read ('(' :: inner)).Misses := by
  simp only [bracketed, char, ↓reduceIte, done_bind]
  rcases misses with misses | ⟨value, rest, reads, other⟩
  · exact misses.bind _
  · rw [reads]
    exact (char_misses other).map _

/-- A repetition ends where its reader misses. -/
theorem many_of_misses {read : Reader α} {text : List Char} (misses : (read text).Misses) :
    many read text = .done [] text := by
  obtain ⟨rest, expected, h⟩ := misses
  rw [many, h]

/-- A repetition goes on where its reader takes something. -/
theorem many_of_done {read : Reader α} {text rest : List Char} {value : α}
    (reads : read text = .done value rest) (shorter : rest.length < text.length) :
    many read text = (many read rest).map (value :: ·) := by
  rw [many, reads]
  simp only [dif_pos shorter]

/-- A repetition that reads nothing leaves its text. -/
theorem eq_of_many_nil {read : Reader α} {text rest : List Char}
    (reads : many read text = .done [] rest) : rest = text := by
  rw [many] at reads
  split at reads
  · cases reads
    rfl
  · cases reads
  · split at reads
    · obtain ⟨_, _, impossible⟩ := map_eq_done.mp reads
      cases impossible
    · cases reads
      rfl

/-- A repetition that reads something reads it first and goes on after it. -/
theorem of_many_cons {read : Reader α} {text rest : List Char} {value : α} {values : List α}
    (reads : many read text = .done (value :: values) rest) :
    ∃ mid, read text = .done value mid ∧ many read mid = .done values rest := by
  rw [many] at reads
  split at reads
  · cases reads
  · cases reads
  · rename_i found mid readsFound
    split at reads
    · obtain ⟨others, readsOthers, same⟩ := map_eq_done.mp reads
      cases same
      exact ⟨mid, readsFound, readsOthers⟩
    · cases reads

/-- One more step of a chain: an operator and an operand after it. -/
def link (operator : Reader β) (operand : Reader α) : Reader (β × α) := fun text =>
  (operator text).bind fun op rest => (operand rest).map (op, ·)

/-- The rest of a chain, after the tree of what stands before it. -/
def resume (operator : Reader β) (operand : Reader α) (combine : β → α → α → α) (before : α)
    (text : List Char) : Outcome α :=
  (many (link operator operand) text).map
    (·.foldl (fun left step => combine step.1 left step.2) before)

section Chain

variable {operator : Reader β} {operand : Reader α} {combine : β → α → α → α}

/-- A chain resumes after its first operand. -/
theorem chain_of_done {text rest : List Char} {first : α}
    (reads : operand text = .done first rest) :
    chain operator operand combine text = resume operator operand combine first rest := by
  unfold chain
  rw [reads]
  rfl

/-- A chain is missed where its first operand is. -/
theorem chain_misses {text : List Char} (misses : (operand text).Misses) :
    (chain operator operand combine text).Misses := misses.bind _

/-- A chain reads the same from two texts where its operand does. -/
theorem chain_congr {text text' : List Char} (same : operand text = operand text') :
    chain operator operand combine text = chain operator operand combine text' := by
  unfold chain
  rw [same]

/-- One more step joins its operand to the tree before it. -/
theorem resume_of_done {text mid rest : List Char} {before right : α} {op : β}
    (signed : operator text = .done op mid) (reads : operand mid = .done right rest)
    (shorter : rest.length < text.length) :
    resume operator operand combine before text =
      resume operator operand combine (combine op before right) rest := by
  have step : link operator operand text = .done (op, right) rest := by
    simp [link, signed, reads]
  unfold resume
  rw [many_of_done step shorter]
  cases many (link operator operand) rest <;> rfl

/-- A chain ends where no operator follows. -/
theorem resume_of_misses {text : List Char} {before : α} (misses : (operator text).Misses) :
    resume operator operand combine before text = .done before text := by
  have ended : (link operator operand text).Misses := misses.bind _
  unfold resume
  rw [many_of_misses ended]
  rfl

/-- What holds of a first operand and is kept by every step holds of a whole chain. -/
theorem chain_induction (holds : List Char → α → List Char → Prop)
    (first : ∀ text value rest, operand text = .done value rest → holds text value rest)
    (step : ∀ text before mid op next right rest, holds text before mid →
      operator mid = .done op next → operand next = .done right rest →
        holds text (combine op before right) rest)
    {text rest : List Char} {value : α}
    (reads : chain operator operand combine text = .done value rest) : holds text value rest := by
  obtain ⟨start, mid, readsFirst, readsRest⟩ := bind_eq_done.mp reads
  obtain ⟨steps, readsSteps, folded⟩ := map_eq_done.mp readsRest
  have base := first _ _ _ readsFirst
  clear reads readsFirst readsRest
  -- The tree built so far and its end change with each step, the steps left get fewer.
  induction steps generalizing start mid with
  | nil =>
    subst folded
    rw [eq_of_many_nil readsSteps]
    exact base
  | cons last steps ih =>
    obtain ⟨next, readsStep, readsOthers⟩ := of_many_cons readsSteps
    obtain ⟨op, behind, signed, readsOperand⟩ := bind_eq_done.mp readsStep
    obtain ⟨right, readsRight, rfl⟩ := map_eq_done.mp readsOperand
    exact ih _ _ readsOthers folded (step _ _ _ _ _ _ _ base signed readsRight)

end Chain

end ColumnQuery.Grammar
