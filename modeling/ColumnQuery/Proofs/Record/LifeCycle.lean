import Mathlib.Data.List.Nodup
import ColumnQuery.Proofs.Record.Run

/-!
# The life of a column

No row checks that its column names are distinct. A row that starts with distinct names keeps them
so, because a column is added only for want of one of its name. Then a name stands for one column at
most, and the mutations of the name tell its life: it is added only while it is gone, changed and
removed only while it is there, and removed with the value it held. The last one decides what the
row answers.
-/
namespace ColumnQuery

open Column

/-- The mutations of a name in a log. -/
def Mutation.about (name : String) (log : List Mutation) : List Mutation :=
  log.filter fun mutation => mutation.column = name

/-- A legal life of a column, from what it holds before its mutations to what it holds after them.
A column that is gone can only be added; one that is there can be changed, or removed with the value
it holds. -/
inductive Mutation.Life : Option Value → List Mutation → Option Value → Prop where
  | rest (held : Option Value) : Life held [] held
  | added {name : String} {value : Value} {log : List Mutation} {last : Option Value}
      (later : Life (some value) log last) : Life none (⟨.added, name, value⟩ :: log) last
  | changed {name : String} {old value : Value} {log : List Mutation} {last : Option Value}
      (later : Life (some value) log last) : Life (some old) (⟨.changed, name, value⟩ :: log) last
  | removed {name : String} {value : Value} {log : List Mutation} {last : Option Value}
      (later : Life none log last) : Life (some value) (⟨.removed, name, value⟩ :: log) last

namespace Mutation

/-- What a column holds after a mutation. -/
def left (mutation : Mutation) : Option Value :=
  match mutation.kind with
  | .removed => none
  | .added | .changed => some mutation.value

/-- A life goes on where it was left. -/
theorem Life.append {held between last : Option Value} {log log' : List Mutation}
    (first : Life held log between) (second : Life between log' last) :
    Life held (log ++ log') last := by
  induction first with
  | rest held => exact second
  | added later ih => exact .added (ih second)
  | changed later ih => exact .changed (ih second)
  | removed later ih => exact .removed (ih second)

/-- A column holds what its last mutation left, or what it held at first if there is none. -/
theorem Life.last_eq {held last : Option Value} {log : List Mutation} (life : Life held log last) :
    last = log.getLast?.elim held left := by
  have step (mutation : Mutation) (log : List Mutation) (held : Option Value) :
      (mutation :: log).getLast?.elim held left = log.getLast?.elim mutation.left left := by
    cases log with
    | nil => rfl
    | cons next log =>
      rw [List.getLast?_cons_cons, List.getLast?_eq_some_getLast (List.cons_ne_nil next log)]
      rfl
  induction life with
  | rest held => rfl
  | added later ih | changed later ih | removed later ih =>
    rw [step, ih]
    rfl

/-- The mutations of a name in two logs in a row. -/
theorem about_append (name : String) (log log' : List Mutation) :
    about name (log ++ log') = about name log ++ about name log' := List.filter_append log log'

/-- A log of one mutation tells of its own name. -/
theorem about_self (kind : Mutation.Kind) (name : String) (value : Value) :
    about name [⟨kind, name, value⟩] = [⟨kind, name, value⟩] := by
  simp [about]

/-- A log of one mutation does not tell of another name. -/
theorem about_other {name other : String} (apart : name ≠ other) (kind : Mutation.Kind)
    (value : Value) : about other [⟨kind, name, value⟩] = [] := by
  simp [about, apart]

end Mutation

namespace Column

/-- No two columns have the same name. -/
def Distinct (columns : List Column) : Prop := (columns.map (·.name)).Nodup

/-- A name that no column has is not among the names. -/
theorem absent_iff {name : String} {columns : List Column} :
    Absent name columns ↔ name ∉ columns.map (·.name) := by
  simp [Absent]

/-- A column of a new name may be added. -/
theorem Distinct.add {name : String} {columns : List Column} (distinct : Distinct columns)
    (absent : Absent name columns) (value : Value) :
    Distinct (columns ++ [⟨name, value⟩]) := by
  have new : name ∉ columns.map (·.name) := absent_iff.mp absent
  rw [Distinct, List.map_append, List.map_singleton, ← List.concat_eq_append, List.nodup_concat]
  exact ⟨new, distinct⟩

variable {name : String} {columns before after : List Column} {value : Value}

/-- A changed column has the same name as before. -/
theorem Distinct.change (distinct : Distinct columns)
    (first : First name columns before value after) (next : Value) :
    Distinct (before ++ ⟨name, next⟩ :: after) := by
  have names : (before ++ ⟨name, next⟩ :: after).map (·.name) = columns.map (·.name) := by
    rw [first.whole, List.map_append, List.map_append, List.map_cons, List.map_cons]
  rw [Distinct, names]
  exact distinct

/-- Where names are distinct, no other column has the name of the first. -/
theorem Distinct.absent (distinct : Distinct columns)
    (first : First name columns before value after) : Absent name (before ++ after) := by
  rw [Distinct, first.whole, List.map_append, List.map_cons, List.nodup_middle,
    List.nodup_cons] at distinct
  have new := distinct.1
  rw [← List.map_append] at new
  exact absent_iff.mpr new

/-- Removing a column leaves the names distinct. -/
theorem Distinct.remove (distinct : Distinct columns)
    (first : First name columns before value after) : Distinct (before ++ after) := by
  rw [Distinct, first.whole, List.map_append, List.map_cons, List.nodup_middle,
    List.nodup_cons, ← List.map_append] at distinct
  exact distinct.2

/-- An added column is found by its name. -/
theorem find?_add (absent : Absent name columns) (value : Value) :
    find? name (columns ++ [⟨name, value⟩]) = some value := by
  rw [find?_append_of_absent absent, find?, if_pos rfl]

end Column

namespace Record

open Mutation

/-- A row as it is started: without columns, or with stored columns of distinct names. -/
inductive Fresh : Record → Prop where
  | empty (key : Value) (family : String) : Fresh (.empty key family)
  | stored (key : Value) (family : String) {columns : List Column} (distinct : Distinct columns) :
      Fresh (.stored key family columns)

/-- What a row answers for a name by the log of its changes: what the last mutation of the name
left, and what the row answered at the start if there is none. -/
def getByLog (start : Record) (log : List Mutation) (name : String) : Except Error Value :=
  match (about name log).getLast? with
  | none => start.get name
  | some ⟨.removed, _, _⟩ => .error (.columnNotFound start.family name)
  | some ⟨.added, _, given⟩ | some ⟨.changed, _, given⟩ => .ok given

/-- A call keeps the names distinct. -/
theorem Turn.distinct {record next : Record} {call : Call} {answer : Except Error Mutation}
    (turn : record.Turn call answer next) (distinct : Distinct record.columns) :
    Distinct next.columns := by
  cases turn with
  | @added name value absent => exact distinct.add absent value
  | @changed name old value before after first => exact distinct.change first value
  | removed first => exact distinct.remove first
  | missing absent => exact distinct

/-- A call makes one legal step, or none, in the life of each name. -/
theorem Turn.life {record next : Record} {call : Call} {answer : Except Error Mutation}
    (turn : record.Turn call answer next) (distinct : Distinct record.columns) (name : String) :
    Life (find? name record.columns) (about name answer.toOption.toList)
      (find? name next.columns) := by
  -- A name that the call is not about finds the same columns, and the call tells nothing of it.
  have unmoved {other : String} {mutation : Mutation} (apart : mutation.column ≠ other)
      (same : find? other record.columns = find? other next.columns) :
      Life (find? other record.columns) (about other [mutation]) (find? other next.columns) := by
    rw [about_other apart, same]
    exact .rest _
  cases turn with
  | @added own value absent =>
    by_cases same : own = name
    · subst same
      have gone : find? own record.columns = none := absent.find?
      have there : find? own (record.columns ++ [⟨own, value⟩]) = some value :=
        find?_add absent value
      show Life _ (about own [⟨.added, own, value⟩]) (find? own (record.columns ++ [⟨own, value⟩]))
      rw [gone, there, about_self]
      exact .added (.rest _)
    · have kept := find?_append_cons_of_ne same value record.columns []
      rw [List.append_nil] at kept
      exact unmoved same kept.symm
  | @changed own old value before after first =>
    by_cases same : own = name
    · subst same
      have held : find? own record.columns = some old := first.find?
      have there : First own (before ++ ⟨own, value⟩ :: after) before value after :=
        ⟨rfl, first.absent⟩
      show Life _ (about own [⟨.changed, own, value⟩]) (find? own (before ++ ⟨own, value⟩ :: after))
      rw [held, there.find?, about_self]
      exact .changed (.rest _)
    · have kept : find? name record.columns = find? name (before ++ ⟨own, value⟩ :: after) := by
        rw [first.whole, find?_append_cons_of_ne same, find?_append_cons_of_ne same]
      exact unmoved same kept
  | @removed own value before after first =>
    by_cases same : own = name
    · subst same
      have held : find? own record.columns = some value := first.find?
      have gone : find? own (before ++ after) = none := (distinct.absent first).find?
      show Life _ (about own [⟨.removed, own, value⟩]) (find? own (before ++ after))
      rw [held, gone, about_self]
      exact .removed (.rest _)
    · have kept : find? name record.columns = find? name (before ++ after) := by
        rw [first.whole, find?_append_cons_of_ne same]
      exact unmoved same kept
  | missing absent => exact .rest _

/-- A run keeps the names distinct. -/
theorem distinct_after {record : Record} (distinct : Distinct record.columns)
    (calls : List Call) : Distinct (record.after calls).columns := by
  induction calls generalizing record with
  | nil => exact distinct
  | cons call calls ih => exact ih ((record.turn_perform call).distinct distinct)

/-- The events of a run tell a legal life of each name. -/
theorem life_events {record : Record} (distinct : Distinct record.columns) (calls : List Call)
    (name : String) :
    Life (find? name record.columns) (about name (record.events calls))
      (find? name (record.after calls).columns) := by
  induction calls generalizing record with
  | nil => exact .rest _
  | cons call calls ih =>
    have turn := record.turn_perform call
    have first := turn.life distinct name
    have others := ih (turn.distinct distinct)
    rw [events_cons, about_append]
    exact first.append others

/-- A started row has distinct names and an empty log. -/
theorem Fresh.start {start : Record} (fresh : start.Fresh) :
    Distinct start.columns ∧ start.mutations = [] := by
  cases fresh with
  | empty key family => exact ⟨List.nodup_nil, rfl⟩
  | stored key family distinct => exact ⟨distinct, rfl⟩

/-- A row answers what it finds. -/
theorem get_eq (record : Record) (name : String) :
    record.get name = (find? name record.columns).elim
      (.error (.columnNotFound record.family name)) .ok := by
  unfold get
  cases find? name record.columns with
  | none => rfl
  | some value => rfl

/-- **The last writer wins, and columns live legal lives.** From a fresh row and over any run of
calls, the log is what the successful calls returned, and column names stay distinct. For every name
the row answers what the last returned mutation of the name left, or what it answered at the start
if there is none, and the returned mutations of the name are a legal life, from what the name stood
for at the start to what it stands for at the end. -/
theorem Fresh.columns_live {start : Record} (fresh : start.Fresh) (calls : List Call) :
    (start.after calls).mutations = start.events calls ∧
    Distinct (start.after calls).columns ∧
    ∀ name, (start.after calls).get name = start.getByLog (start.events calls) name ∧
      Life (find? name start.columns) (about name (start.events calls))
        (find? name (start.after calls).columns) := by
  have started := fresh.start
  have frame := start.frame_after calls
  have log : (start.after calls).mutations = start.events calls := by
    rw [frame.2.2, started.2, List.nil_append]
  refine ⟨log, distinct_after started.1 calls, fun name => ?_⟩
  have life := life_events started.1 calls name
  have answer : (start.after calls).get name = start.getByLog (start.events calls) name := by
    rw [get_eq, frame.2.1, life.last_eq, getByLog]
    cases (about name (start.events calls)).getLast? with
    | none => exact (start.get_eq name).symm
    | some mutation =>
      obtain ⟨kind, column, value⟩ := mutation
      cases kind with
      | added | changed | removed => rfl
  exact ⟨answer, life⟩

/-- A stored column that is removed and set again is added, with the new value: so the calls say,
of which one fails and one is about another column, and so the log. -/
theorem columns_live_readded :
    let start := Record.stored .null "Users" [⟨"Name", .text "Adama"⟩, ⟨"Age", .null⟩]
    let calls := [Call.remove "Name", .remove "Name", .set "Age" (.bool true),
      .set "Name" (.text "Tigh")]
    let events : List Mutation := [⟨.removed, "Name", .text "Adama"⟩, ⟨.changed, "Age", .bool true⟩,
      ⟨.added, "Name", .text "Tigh"⟩]
    start.Fresh ∧ start.events calls = events ∧ (start.after calls).mutations = events ∧
      (start.after calls).get "Name" = .ok (.text "Tigh") ∧
      about "Name" (start.events calls) =
        [⟨.removed, "Name", .text "Adama"⟩, ⟨.added, "Name", .text "Tigh"⟩] ∧
      Life (find? "Name" start.columns) (about "Name" (start.events calls))
        (find? "Name" (start.after calls).columns) := by
  intro start calls events
  have fresh : start.Fresh := .stored .null "Users" (by unfold Distinct; decide)
  have laws := fresh.columns_live calls
  have returned : start.events calls = events := rfl
  have answer := (laws.2.2 "Name").1
  exact ⟨fresh, returned, laws.1.trans returned, answer, rfl, (laws.2.2 "Name").2⟩

end Record

end ColumnQuery
