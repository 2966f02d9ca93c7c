/-!
# Settings

What a user can set for all calls: the limit of index lookups, the output format, and whether
statements are written on one line.
-/
namespace ColumnQuery

/-- How compiled queries and index lookups are shown. -/
inductive Format where
  /-- Lines to read. -/
  | text
  /-- A JSON tree. -/
  | json
deriving DecidableEq

namespace Format

/-- The name of a format. -/
def name : Format → String
  | text => "text"
  | json => "json"

/-- The format of a name. -/
def ofName? (name : String) : Option Format := [text, json].find? (·.name == name)

/-- A format is found by its name. -/
theorem ofName?_name (format : Format) : ofName? format.name = some format := by
  cases format <;> decide

end Format

/-- What can be set; each setting has a default. -/
structure Settings where
  /-- The limit of index lookups that name none. -/
  defaultLimit : UInt32 := 100
  /-- How results are shown. -/
  format : Format := .text
  /-- Whether statements have no line breaks. -/
  singleLine : Bool := false
deriving DecidableEq

end ColumnQuery
