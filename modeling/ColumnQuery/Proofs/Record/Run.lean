import ColumnQuery.Record

/-!
# Runs of a row

A row changes only by calls: one sets a column, the other removes one. `Record.Turn` lists the four
things that a call can do, with all that becomes of the row, and whatever holds of runs is read off
it. A run keeps the key and the family, and its events are what the log grows by.
-/
namespace ColumnQuery

namespace Column

/-! ## The first column of a name -/

/-- No column has a name. -/
def Absent (name : String) (columns : List Column) : Prop :=
  ∀ column ∈ columns, column.name ≠ name

/-- The first column of a name with its value, between the columns before it and those after it. -/
structure First (name : String) (columns before : List Column) (value : Value)
    (after : List Column) : Prop where
  /-- The columns in order. -/
  whole : columns = before ++ ⟨name, value⟩ :: after
  /-- No column before it has the name. -/
  absent : Absent name before

/-- One more column in front does not have a name. -/
theorem absent_cons {name : String} {column : Column} {columns : List Column} :
    Absent name (column :: columns) ↔ column.name ≠ name ∧ Absent name columns :=
  List.forall_mem_cons

/-- A name has a first column, or no column at all. -/
theorem absent_or_first (name : String) (columns : List Column) :
    Absent name columns ∨ ∃ before value after, First name columns before value after := by
  induction columns with
  | nil => exact .inl (List.forall_mem_nil _)
  | cons column columns ih =>
    by_cases same : column.name = name
    · subst same
      exact .inr ⟨[], column.value, columns, rfl, List.forall_mem_nil _⟩
    · cases ih with
      | inl absent => exact .inl (absent_cons.mpr ⟨same, absent⟩)
      | inr present =>
        obtain ⟨before, value, after, first⟩ := present
        have whole : column :: columns = (column :: before) ++ ⟨name, value⟩ :: after := by
          rw [first.whole, List.cons_append]
        exact .inr ⟨column :: before, value, after, whole, absent_cons.mpr ⟨same, first.absent⟩⟩

/-- A name that no column has stands for no value. -/
theorem Absent.find? {name : String} {columns : List Column} (absent : Absent name columns) :
    find? name columns = none := by
  induction columns with
  | nil => rfl
  | cons column columns ih =>
    have apart := absent_cons.mp absent
    rw [Column.find?, if_neg apart.1, ih apart.2]

/-- A column that no name stands for cannot be changed. -/
theorem Absent.replace? {name : String} {columns : List Column} (absent : Absent name columns)
    (value : Value) : replace? name value columns = none := by
  induction columns with
  | nil => rfl
  | cons column columns ih =>
    have apart := absent_cons.mp absent
    rw [Column.replace?, if_neg apart.1, ih apart.2, Option.map_none]

/-- A column that no name stands for cannot be removed. -/
theorem Absent.remove? {name : String} {columns : List Column} (absent : Absent name columns) :
    remove? name columns = none := by
  induction columns with
  | nil => rfl
  | cons column columns ih =>
    have apart := absent_cons.mp absent
    rw [Column.remove?, if_neg apart.1, ih apart.2, Option.map_none]

/-- Columns without a name in front do not change what the name stands for. -/
theorem find?_append_of_absent {name : String} {before : List Column}
    (absent : Absent name before) (after : List Column) :
    find? name (before ++ after) = find? name after := by
  induction before with
  | nil => rfl
  | cons column before ih =>
    have apart := absent_cons.mp absent
    rw [List.cons_append, find?, if_neg apart.1, ih apart.2]

/-- A column does not change what another name stands for. -/
theorem find?_append_cons_of_ne {name other : String} (apart : name ≠ other) (value : Value)
    (before after : List Column) :
    find? other (before ++ ⟨name, value⟩ :: after) = find? other (before ++ after) := by
  induction before with
  | nil => rw [List.nil_append, find?, if_neg apart, List.nil_append]
  | cons column before ih => rw [List.cons_append, find?, ih, List.cons_append, find?]

namespace First

variable {name : String} {columns before after : List Column} {value : Value}

/-- A name stands for the value of its first column. -/
theorem find? (first : First name columns before value after) :
    find? name columns = some value := by
  rw [first.whole, find?_append_of_absent first.absent, Column.find?, if_pos rfl]

/-- A change puts another value in the place of the first. -/
theorem replace? (first : First name columns before value after) (next : Value) :
    replace? name next columns = some (before ++ ⟨name, next⟩ :: after) := by
  obtain ⟨rfl, absent⟩ := first
  induction before with
  | nil => rw [List.nil_append, Column.replace?, if_pos rfl, List.nil_append]
  | cons column before ih =>
    have apart := absent_cons.mp absent
    rw [List.cons_append, Column.replace?, if_neg apart.1, ih apart.2, Option.map_some,
      List.cons_append]

/-- A removal takes out the first column. -/
theorem remove? (first : First name columns before value after) :
    remove? name columns = some (⟨name, value⟩, before ++ after) := by
  obtain ⟨rfl, absent⟩ := first
  induction before with
  | nil => rw [List.nil_append, Column.remove?, if_pos rfl, List.nil_append]
  | cons column before ih =>
    have apart := absent_cons.mp absent
    rw [List.cons_append, Column.remove?, if_neg apart.1, ih apart.2, Option.map_some,
      List.cons_append]

end First

end Column

/-! ## Calls -/

/-- What a caller may do to a row. -/
inductive Record.Call where
  /-- Give a column a value. -/
  | set (name : String) (value : Value)
  /-- Take a column away. -/
  | remove (name : String)

namespace Record

open Column

/-- The answer to a call, and the row after it. -/
def perform (record : Record) : Call → Except Error Mutation × Record
  | .set name value =>
    let (mutation, next) := record.set name value
    (.ok mutation, next)
  | .remove name => record.remove name

/-- The row after some calls. -/
def after (record : Record) : List Call → Record
  | [] => record
  | call :: calls => (record.perform call).2.after calls

/-- The answers to some calls in order. -/
def answers (record : Record) : List Call → List (Except Error Mutation)
  | [] => []
  | call :: calls => (record.perform call).1 :: (record.perform call).2.answers calls

/-- The mutations that successful calls return, in order. -/
def events (record : Record) (calls : List Call) : List Mutation :=
  (record.answers calls).filterMap Except.toOption

/-- A removal takes out the first column of its name, and the log tells its value. -/
theorem remove_first {record : Record} {name : String} {value : Value}
    {before after : List Column} (first : First name record.columns before value after) :
    record.remove name =
      (.ok ⟨.removed, name, value⟩,
        { record with
          columns := before ++ after
          mutations := record.mutations ++ [⟨.removed, name, value⟩] }) := by
  rw [remove, first.remove?]
  rfl

/-- A column that is not there cannot be removed. -/
theorem remove_absent {record : Record} {name : String} (absent : Absent name record.columns) :
    record.remove name = (.error (.columnNotFound record.family name), record) := by
  rw [remove, absent.remove?]

/-- **A removal that fails changes nothing**, and there was no column to remove. -/
theorem remove_error {record next : Record} {name : String} {error : Error}
    (fails : record.remove name = (.error error, next)) :
    next = record ∧ error = .columnNotFound record.family name ∧
      Absent name record.columns := by
  cases absent_or_first name record.columns with
  | inl absent =>
    rw [remove_absent absent] at fails
    cases fails
    exact ⟨rfl, rfl, absent⟩
  | inr present =>
    obtain ⟨before, value, after, first⟩ := present
    rw [remove_first first] at fails
    cases fails

/-- What a call can do to a row: add a column at the end, change or remove the first column of a
name, or fail for want of a column to remove. -/
inductive Turn (record : Record) : Call → Except Error Mutation → Record → Prop where
  | added {name : String} {value : Value} (absent : Absent name record.columns) :
      Turn record (.set name value) (.ok ⟨.added, name, value⟩)
        { record with
          columns := record.columns ++ [⟨name, value⟩]
          mutations := record.mutations ++ [⟨.added, name, value⟩] }
  | changed {name : String} {old value : Value} {before after : List Column}
      (first : First name record.columns before old after) :
      Turn record (.set name value) (.ok ⟨.changed, name, value⟩)
        { record with
          columns := before ++ ⟨name, value⟩ :: after
          mutations := record.mutations ++ [⟨.changed, name, value⟩] }
  | removed {name : String} {value : Value} {before after : List Column}
      (first : First name record.columns before value after) :
      Turn record (.remove name) (.ok ⟨.removed, name, value⟩)
        { record with
          columns := before ++ after
          mutations := record.mutations ++ [⟨.removed, name, value⟩] }
  | missing {name : String} (absent : Absent name record.columns) :
      Turn record (.remove name) (.error (.columnNotFound record.family name)) record

/-- Every call does one of these things. -/
theorem turn_perform (record : Record) (call : Call) :
    record.Turn call (record.perform call).1 (record.perform call).2 := by
  cases call with
  | set name value =>
    cases absent_or_first name record.columns with
    | inl absent =>
      rw [perform, set, absent.replace? value]
      exact .added absent
    | inr present =>
      obtain ⟨before, old, after, first⟩ := present
      rw [perform, set, first.replace? value]
      exact .changed first
  | remove name =>
    cases absent_or_first name record.columns with
    | inl absent =>
      rw [perform, remove_absent absent]
      exact .missing absent
    | inr present =>
      obtain ⟨before, value, after, first⟩ := present
      rw [perform, remove_first first]
      exact .removed first

/-- What a call does to the rest of a row: the key and the family stay, and the log grows by what
the call returns. -/
theorem Turn.frame {record next : Record} {call : Call} {answer : Except Error Mutation}
    (turn : record.Turn call answer next) :
    next.key = record.key ∧ next.family = record.family ∧
      next.mutations = record.mutations ++ answer.toOption.toList := by
  cases turn with
  | added | changed | removed => exact ⟨rfl, rfl, rfl⟩
  | missing => exact ⟨rfl, rfl, (List.append_nil _).symm⟩

/-- The events of a run are those of its first call and those of the rest. -/
theorem events_cons (record : Record) (call : Call) (calls : List Call) :
    record.events (call :: calls) =
      (record.perform call).1.toOption.toList ++ (record.perform call).2.events calls := by
  unfold events
  rw [answers, List.filterMap_cons]
  cases (record.perform call).1 with
  | ok mutation => rfl
  | error error => rfl

/-- A run keeps the key and the family and extends the log by its events. -/
theorem frame_after (record : Record) (calls : List Call) :
    (record.after calls).key = record.key ∧ (record.after calls).family = record.family ∧
      (record.after calls).mutations = record.mutations ++ record.events calls := by
  induction calls generalizing record with
  | nil => exact ⟨rfl, rfl, (List.append_nil _).symm⟩
  | cons call calls ih =>
    have first := (record.turn_perform call).frame
    have others := ih (record.perform call).2
    have key := others.1.trans first.1
    have family := others.2.1.trans first.2.1
    have log : (record.after (call :: calls)).mutations =
        record.mutations ++ record.events (call :: calls) := by
      rw [after, others.2.2, first.2.2, events_cons, List.append_assoc]
    exact ⟨key, family, log⟩

end Record

end ColumnQuery
