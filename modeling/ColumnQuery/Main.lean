import ColumnQuery.Command.Arguments
import ColumnQuery.Command.Run

/-!
# The program

Reads the arguments, takes up the files that the request may need, and prints the report.
-/
namespace ColumnQuery.Command

/-- The text of a file of the system. -/
def readText (path : String) : IO (Except FileFault String) := do
  try
    return .ok (← IO.FS.readFile path)
  catch
    | .noFileOrDirectory .. => return .error .missing
    | .inappropriateType _ 21 _ => return .error .directory
    | .inappropriateType .. => return .error .notDirectory
    | .permissionDenied .. => return .error .denied
    | .invalidArgument _ 36 _ => return .error .tooLong
    | _ => return .error .notText

/-- The directory for the settings of programs. -/
def findConfigHome : IO (Option String) := do
  match ← IO.getEnv "XDG_CONFIG_HOME" with
  | some home => if home.startsWith "/" then return some home
  | none => pure ()
  return (← IO.getEnv "HOME").map (· ++ "/.config")

/-- What is wrong with a text that is not the JSON of an expression. -/
def causeOfText (text : String) : String :=
  match Json.Node.ofText? text with
  | some _ => "the JSON holds something else"
  | none => "the text is no JSON"

/-- How the program is called. -/
def usage : String :=
  String.join
    ["Usage: fluent-cql [OPTIONS] query --from <NAME> [--where <PREDICATE>]... ",
      "[--select <FIELDS>]\n",
      "       fluent-cql [OPTIONS] query --json <FILE>\n",
      "       fluent-cql [OPTIONS] index [--start-key <KEY>] [--limit <N>] --where <PREDICATE>\n",
      "       fluent-cql [OPTIONS] index [--start-key <KEY>] [--limit <N>] --json <FILE>\n",
      "       fluent-cql [OPTIONS] explain <PREDICATE>\n",
      "Options: --format <text|json>, --config <FILE>, --verbose, --help, --version\n"]

end ColumnQuery.Command

open ColumnQuery.Command in
/-- Runs the program with the arguments of a command line. -/
def main (args : List String) : IO UInt32 := do
  match readArguments (← IO.getEnv "FLUENT_CQL_FORMAT") args with
  | .help =>
    IO.print usage
    return 0
  | .version =>
    IO.print versionText
    return 0
  | .refused =>
    IO.eprint usage
    return 2
  | .run request =>
    let configHome ← findConfigHome
    let found ← (request.paths configHome).mapM fun path => do return (path, ← readText path)
    let color := match ← IO.getEnv "CLICOLOR_FORCE" with
      | some value => value != "0"
      | none => false
    let file (path : String) := (found.lookup path).getD (.error .missing)
    let report := run ⟨file, configHome, color, causeOfText, fun _ => ""⟩ request
    IO.print report.output
    IO.eprint (report.errorLine color)
    return UInt32.ofNat report.exitCode
