import ColumnQuery.Proofs.Record.Run

/-!
# The log is a history

`Mutation.Replays` says what a mutation makes of columns without regard to how a row carries it out.
The events of a run, replayed in order over the columns before it, give the columns after it and no
others, whatever columns and whatever log the row started with.
-/
namespace ColumnQuery

open Column

namespace Mutation

/-- What a mutation makes of columns: an added column stands at the end, a change and a removal are
about the first column of their name, and a removed column had the value that is told of it. -/
inductive Replays : Mutation → List Column → List Column → Prop where
  | added (name : String) (value : Value) (columns : List Column) :
      Replays ⟨.added, name, value⟩ columns (columns ++ [⟨name, value⟩])
  | changed {name : String} {old value : Value} {columns before after : List Column}
      (first : First name columns before old after) :
      Replays ⟨.changed, name, value⟩ columns (before ++ ⟨name, value⟩ :: after)
  | removed {name : String} {value : Value} {columns before after : List Column}
      (first : First name columns before value after) :
      Replays ⟨.removed, name, value⟩ columns (before ++ after)

/-- What mutations make of columns one after another. -/
inductive ReplaysAll : List Mutation → List Column → List Column → Prop where
  | done (columns : List Column) : ReplaysAll [] columns columns
  | next {mutation : Mutation} {log : List Mutation} {columns between last : List Column}
      (one : mutation.Replays columns between) (others : ReplaysAll log between last) :
      ReplaysAll (mutation :: log) columns last

/-- A mutation makes one thing of columns. -/
theorem Replays.unique {mutation : Mutation} {columns found found' : List Column}
    (replays : mutation.Replays columns found) (replays' : mutation.Replays columns found') :
    found = found' := by
  cases replays with
  | added => cases replays' with
    | added => rfl
  | @changed name old value columns before after first => cases replays' with
    | changed first' =>
      have same := (first.replace? value).symm.trans (first'.replace? value)
      exact Option.some.inj same
  | removed first => cases replays' with
    | removed first' =>
      have same := first.remove?.symm.trans first'.remove?
      exact (Prod.mk.inj (Option.some.inj same)).2

/-- Mutations make one thing of columns. -/
theorem ReplaysAll.unique {log : List Mutation} {columns found found' : List Column}
    (replays : ReplaysAll log columns found) (replays' : ReplaysAll log columns found') :
    found = found' := by
  induction replays with
  | done columns => cases replays' with
    | done => rfl
  | next one others ih => cases replays' with
    | next one' others' =>
      have between := one.unique one'
      subst between
      exact ih others'

/-- One log is replayed after another. -/
theorem ReplaysAll.append {log log' : List Mutation} {columns between last : List Column}
    (first : ReplaysAll log columns between) (second : ReplaysAll log' between last) :
    ReplaysAll (log ++ log') columns last := by
  induction first with
  | done columns => exact second
  | next one others ih => exact .next one (ih second)

end Mutation

namespace Record

open Mutation

/-- What a call returns is what it did to the columns. -/
theorem Turn.replays {record next : Record} {call : Call} {answer : Except Error Mutation}
    (turn : record.Turn call answer next) :
    ReplaysAll answer.toOption.toList record.columns next.columns := by
  have single {mutation : Mutation} {columns : List Column}
      (replays : mutation.Replays record.columns columns) :
      ReplaysAll [mutation] record.columns columns := .next replays (.done columns)
  cases turn with
  | @added name value absent => exact single (.added name value record.columns)
  | changed first => exact single (.changed first)
  | removed first => exact single (.removed first)
  | missing absent => exact .done record.columns

/-- The events of a run are what it did to the columns. -/
theorem replaysAll_events (record : Record) (calls : List Call) :
    ReplaysAll (record.events calls) record.columns (record.after calls).columns := by
  induction calls generalizing record with
  | nil => exact .done record.columns
  | cons call calls ih =>
    rw [events_cons]
    exact (record.turn_perform call).replays.append (ih (record.perform call).2)

/-- **The log is a faithful history.** From any row and over any run of calls, the key and the
family stay, and the log grows at its end by the events of the run. These, replayed over the columns
at the start, give the columns at the end and no others. Whatever the run was, a further call that
succeeds appends the one event that it returns; one that fails is a removal, and leaves the row as
it is. -/
theorem after_history (record : Record) (calls : List Call) :
    (record.after calls).mutations = record.mutations ++ record.events calls ∧
    (record.after calls).key = record.key ∧ (record.after calls).family = record.family ∧
    (∀ columns, ReplaysAll (record.events calls) record.columns columns ↔
      columns = (record.after calls).columns) ∧
    ∀ call, match (record.after calls).perform call with
      | (.ok mutation, next) => next.mutations = (record.after calls).mutations ++ [mutation]
      | (.error _, next) => next = record.after calls ∧ ∃ name, call = .remove name := by
  have frame := record.frame_after calls
  have replays := record.replaysAll_events calls
  refine ⟨frame.2.2, frame.1, frame.2.1, fun columns => ⟨fun found => ?_, ?_⟩, fun call => ?_⟩
  · exact found.unique replays
  · intro same
    rw [same]
    exact replays
  · have turn := (record.after calls).turn_perform call
    generalize (record.after calls).perform call = result at turn
    obtain ⟨answer, next⟩ := result
    cases turn with
    | added | changed | removed => rfl
    | missing absent => exact ⟨rfl, _, rfl⟩

end Record

end ColumnQuery
