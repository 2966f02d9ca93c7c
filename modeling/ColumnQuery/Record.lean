import ColumnQuery.Error
import ColumnQuery.Query

/-!
# Records

A record is a row of a column family whose changes are logged: every successful change appends one
mutation to the log and returns it. Columns keep the order in which they were added, and a name
stands for the first column that has it.
-/
namespace ColumnQuery

/-- A named value of a row. -/
structure Column where
  /-- The name of the column. -/
  name : String
  /-- Its value. -/
  value : Value

/-- How a column changed. -/
inductive Mutation.Kind where
  /-- There was no column of the name. -/
  | added
  /-- The column got another value. -/
  | changed
  /-- The column is gone. -/
  | removed
deriving DecidableEq

namespace Mutation.Kind

/-- The name of a kind of change. -/
def name : Mutation.Kind → String
  | added => "Added"
  | changed => "Changed"
  | removed => "Removed"

/-- The kind of change of a name. -/
def ofName? (name : String) : Option Mutation.Kind :=
  [added, changed, removed].find? (·.name == name)

/-- A kind of change is found by its name. -/
theorem ofName?_name (kind : Mutation.Kind) : ofName? kind.name = some kind := by
  cases kind <;> decide

end Mutation.Kind

/-- One logged change of a row. -/
structure Mutation where
  /-- How the column changed. -/
  kind : Mutation.Kind
  /-- The name of the column. -/
  column : String
  /-- The value set, or the last value of a removed column. -/
  value : Value

/-- A row of a column family. -/
structure Record where
  /-- The key of the row. -/
  key : Value
  /-- The column family it belongs to. -/
  family : String
  /-- The columns in order. -/
  columns : List Column
  /-- The changes so far, oldest first. -/
  mutations : List Mutation

namespace Column

/-- The value of the first column of a name. -/
def find? (name : String) : List Column → Option Value
  | [] => none
  | column :: columns => if column.name = name then some column.value else find? name columns

/-- The columns with another value in the first column of a name, if there is one. -/
def replace? (name : String) (value : Value) : List Column → Option (List Column)
  | [] => none
  | column :: columns =>
    if column.name = name then some ({ column with value } :: columns)
    else (replace? name value columns).map (column :: ·)

/-- The first column of a name and the columns without it, if there is one. -/
def remove? (name : String) : List Column → Option (Column × List Column)
  | [] => none
  | column :: columns =>
    if column.name = name then some (column, columns)
    else (remove? name columns).map fun (removed, rest) => (removed, column :: rest)

end Column

namespace Record

/-- A row without columns. -/
def empty (key : Value) (family : String) : Record := ⟨key, family, [], []⟩

/-- A row with stored columns, which are no changes. -/
def stored (key : Value) (family : String) (columns : List Column) : Record :=
  ⟨key, family, columns, []⟩

/-- The value of a column. -/
def get (record : Record) (name : String) : Except Error Value :=
  match Column.find? name record.columns with
  | some value => .ok value
  | none => .error (.columnNotFound record.family name)

/-- The row with a change in its log. -/
def log (record : Record) (columns : List Column) (mutation : Mutation) : Mutation × Record :=
  (mutation, { record with columns, mutations := record.mutations ++ [mutation] })

/-- Sets the value of a column, which is added at the end if there is none. -/
def set (record : Record) (name : String) (value : Value) : Mutation × Record :=
  match Column.replace? name value record.columns with
  | some columns => record.log columns ⟨.changed, name, value⟩
  | none => record.log (record.columns ++ [⟨name, value⟩]) ⟨.added, name, value⟩

/-- Removes a column, if there is one. The row is returned in either case. -/
def remove (record : Record) (name : String) : Except Error Mutation × Record :=
  match Column.remove? name record.columns with
  | some (removed, columns) =>
    let (mutation, next) := record.log columns ⟨.removed, removed.name, removed.value⟩
    (.ok mutation, next)
  | none => (.error (.columnNotFound record.family name), record)

/-- The query of the column family the row belongs to. -/
def query (record : Record) : Query := Query.source record.family

end Record

end ColumnQuery
