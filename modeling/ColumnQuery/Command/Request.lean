import ColumnQuery.Settings

/-!
# Requests

What a user asks for on the command line.
-/
namespace ColumnQuery.Command

/-- Where a query comes from. -/
inductive QueryInput where
  /-- Its source, the texts of its conditions and the text of its selection. -/
  | written (source : String) (conditions : List String) (selection : Option String)
  /-- A file that holds its chain as JSON. -/
  | file (path : String)
deriving DecidableEq

/-- Where a predicate comes from. -/
inductive PredicateInput where
  /-- Its text. -/
  | written (text : String)
  /-- A file that holds its tree as JSON. -/
  | file (path : String)
deriving DecidableEq

/-- What is to be done. -/
inductive Task where
  /-- Compile a query. -/
  | query (input : QueryInput)
  /-- Compile an index lookup; without a limit the one of the settings counts. -/
  | index (startKey : String) (limit : Option UInt32) (input : PredicateInput)
  /-- Show what a predicate means. -/
  | explain (text : String)
deriving DecidableEq

/-- A task, and how it is to be done. -/
structure Request where
  /-- The output format, if not that of the settings. -/
  format : Option Format
  /-- The file of the settings, if not the usual one. -/
  config : Option String
  /-- Whether more is shown. -/
  verbose : Bool
  /-- What is to be done. -/
  task : Task
deriving DecidableEq

/-- What the arguments of a command line say. -/
inductive Invocation where
  /-- A request. -/
  | run (request : Request)
  /-- The user wants to know how to ask. -/
  | help
  /-- The user wants to know the version. -/
  | version
  /-- The arguments make no sense. -/
  | refused
deriving DecidableEq

end ColumnQuery.Command
