import ColumnQuery.Command.Paint
import ColumnQuery.Command.Request
import ColumnQuery.Expr.Outline
import ColumnQuery.Grammar.Predicate
import ColumnQuery.Json.Decode
import ColumnQuery.Json.Encode
import ColumnQuery.Toml.Settings

/-!
# Running requests

`run` answers a request with lines of output and, if it fails, why. Each task is a `Session`, whose
steps print lines or may fail, so that a failure leaves what was printed before it. Settings come
from the file that the request names, else from the first usual place where there is one, else they
are the defaults. The words in which the readers of JSON and of settings refuse a text are not known
here, and are taken from the surroundings.
-/
namespace ColumnQuery.Command

/-- The name of the program and its version. -/
def versionText : String := "fluent-cql 0.1.0\n"

/-- What a run knows of where it runs. -/
structure Surroundings where
  /-- The text of a file. -/
  file : String → Except FileFault String
  /-- The directory for the settings of programs. -/
  configHome : Option String
  /-- Whether colours are wanted. -/
  color : Bool
  /-- What is said of a text that is not the JSON of an expression. -/
  jsonCause : String → String
  /-- What is said, after the first words, of a text that holds no settings. -/
  settingsCause : String → String

/-- Why a run fails. -/
inductive Failure where
  /-- Something in the library. -/
  | fault (error : Error)
  /-- The text of a condition cannot be read. -/
  | condition (text : String) (error : ParseError)
  /-- The file of an expression cannot be read. -/
  | unreadable (path : String) (fault : FileFault)
  /-- A file holds no expression. -/
  | notExpression (path cause : String)
deriving DecidableEq

/-- The message of a failure, from the outermost cause to the innermost. -/
def Failure.message : Failure → String
  | fault (.file cause) => (Error.file cause).message ++ ": " ++ cause.text
  | fault error => error.message
  | condition text error => "in --where '" ++ text ++ "': " ++ (Error.parse error).message
  | unreadable path cause => "failed to read " ++ path ++ ": " ++ cause.text
  | notExpression path cause => path ++ " is not a serialized expression: " ++ cause

/-- What a run prints, and why it ends early if it does. -/
structure Report where
  /-- The lines of output. -/
  lines : List String
  /-- Why the run failed. -/
  failure : Option Failure

namespace Report

/-- The output. -/
def output (report : Report) : String := String.join (report.lines.map (· ++ "\n"))

/-- The line about the failure. -/
def errorLine (report : Report) (color : Bool) : String :=
  report.failure.elim "" fun failure =>
    paint color .alarm "Error:" ++ " " ++ failure.message ++ "\n"

/-- The exit code. -/
def exitCode (report : Report) : Nat := if report.failure.isSome then 1 else 0

end Report

/-! ## Sessions -/

/-- Steps of a run, over the lines printed before them. -/
abbrev Session := EStateM Failure (List String)

/-- Prints lines. -/
def say (lines : List String) : Session Unit := modify (· ++ lines)

/-- Goes on with a result, or fails. -/
def attempt {α : Type} : Except Failure α → Session α
  | .ok value => pure value
  | .error failure => throw failure

/-- What a session prints in all, and why it ends early if it does. -/
def Session.report (session : Session Unit) : Report :=
  match session.run [] with
  | .ok _ lines => ⟨lines, none⟩
  | .error failure lines => ⟨lines, some failure⟩

/-! ## Settings -/

/-- The file of settings in the directory of the run. -/
def localSettings : String := "fluent-cql.toml"

/-- The usual files of settings, the first that exists counts. -/
def usualSettings (configHome : Option String) : List String :=
  localSettings :: (configHome.map (· ++ "/fluent-cql/config.toml")).toList

/-- Whether there is something at a path. -/
def Surroundings.hasPath (surroundings : Surroundings) (path : String) : Bool :=
  match surroundings.file path with
  | .error .missing | .error .notDirectory | .error .tooLong => false
  | _ => true

/-- The settings of a file. -/
def Surroundings.settingsOf (surroundings : Surroundings) (path : String) :
    Except Failure Settings :=
  match surroundings.file path with
  | .error fault => .error (.fault (.file fault))
  | .ok text =>
    match Settings.ofToml? text with
    | some settings => .ok settings
    | none =>
      let cause := "TOML parse error" ++ surroundings.settingsCause text
      .error (.fault (.config (path ++ ": " ++ (Error.config cause).message)))

/-- The settings of a run. -/
def Surroundings.settings (surroundings : Surroundings) (request : Request) :
    Except Failure Settings := do
  let usual := (usualSettings surroundings.configHome).find? surroundings.hasPath
  let found ← match request.config.or usual with
    | some path => surroundings.settingsOf path
    | none => .ok {}
  .ok { found with format := request.format.getD found.format }

/-- The files that a run may read. -/
def Request.paths (configHome : Option String) (request : Request) : List String :=
  let input := match request.task with
    | .query (.file path) | .index _ _ (.file path) => [path]
    | _ => []
  request.config.toList ++ usualSettings configHome ++ input

/-! ## Tasks -/

/-- A result of reading a text. -/
def parsed {α : Type} (result : Except ParseError α) : Except Failure α :=
  result.mapError fun error => .fault (.parse error)

/-- A result of compiling. -/
def compiled {α : Type} (result : Except Unsupported α) : Except Failure α :=
  result.mapError fun cause => .fault (.unsupported cause)

/-- The expression of a file. -/
def Surroundings.exprOf (surroundings : Surroundings) (path : String) : Except Failure Expr :=
  match surroundings.file path with
  | .error fault => .error (.unreadable path fault)
  | .ok text =>
    match Json.ofText? Expr.ofNode? text with
    | some expr => .ok expr
    | none => .error (.notExpression path (surroundings.jsonCause text))

/-- The query with a condition for each text. -/
def addConditions (query : Query) : List String → Except Failure Query
  | [] => .ok query
  | text :: texts =>
    match Grammar.readPredicate text with
    | .error error => .error (.condition text error)
    | .ok predicate => addConditions (query.filter predicate) texts

/-- The chain of a query. -/
def QueryInput.chain (surroundings : Surroundings) : QueryInput → Except Failure Expr
  | file path => surroundings.exprOf path
  | written source conditions selection => do
    let query ← addConditions (Query.source source) conditions
    match selection with
    | none => .ok query.chain
    | some text =>
      let projection ← parsed (Grammar.readProjection text)
      .ok (query.select projection).chain

/-- The expression of a predicate. -/
def PredicateInput.expr (surroundings : Surroundings) : PredicateInput → Except Failure Expr
  | file path => surroundings.exprOf path
  | written text => parsed (Grammar.readPredicate text)

/-- How a statement is shown. -/
def showSelect (settings : Settings) (select : Select) : List String :=
  match settings.format with
  | .json => [select.node.prettyText]
  | .text => [if settings.singleLine then select.singleLine else select.text]

/-- How the clauses of an index lookup are shown, numbered from a number on. -/
def showClauses (color : Bool) : Nat → List IndexClause → List String
  | _, [] => []
  | number, clause :: clauses =>
    ("  " ++ String.ofList (decimalText number) ++ ". " ++ paint color .white clause.field ++ " " ++
      paint color .cyan clause.relation.code ++ " " ++ paint color .yellow clause.value.literal) ::
    showClauses color (number + 1) clauses

/-- How an index lookup is shown. -/
def showScan (color : Bool) (settings : Settings) (scan : IndexScan) : List String :=
  match settings.format with
  | .json => [scan.node.prettyText]
  | .text =>
    [paint color .dimmed "Start key:" ++ " " ++ paint color .yellow scan.startKey.literal,
      paint color .dimmed "Limit:" ++ " " ++
        paint color .cyan (String.ofList (decimalText scan.limit.toNat)),
      paint color .heading "Clauses:"] ++ showClauses color 1 scan.clauses

/-- Compiles a query and shows the statement. -/
def answerQuery (surroundings : Surroundings) (settings : Settings) (input : QueryInput) :
    Session Unit := do
  let chain ← attempt (input.chain surroundings)
  let select ← attempt (compiled chain.select)
  say (showSelect settings select)

/-- Compiles an index lookup and shows it. -/
def answerIndex (surroundings : Surroundings) (settings : Settings) (startKey : String)
    (limit : Option UInt32) (input : PredicateInput) : Session Unit := do
  let predicate ← attempt (input.expr surroundings)
  let query : IndexQuery := ⟨.text startKey, limit.getD settings.defaultLimit, predicate⟩
  let scan ← attempt (compiled query.compile)
  say (showScan surroundings.color settings scan)

/-- Shows what a predicate means, as far as it has a meaning: its text, its tree, its clause, and
its index clauses. -/
def explain (color verbose : Bool) (text : String) : Session Unit := do
  say [paint color .dimmed "Predicate:" ++ " " ++ paint color .yellow text, ""]
  let expr ← attempt (parsed (Grammar.readPredicate text))
  say [paint color .heading "Parsed Tree:", "  " ++ paint color .white expr.display]
  if verbose then say ["  " ++ paint color .dimmed expr.outline]
  say ["", paint color .heading "WHERE clause:"]
  let clause ← attempt (compiled expr.predicate)
  say ["  " ++ paint color .white clause, "", paint color .heading "Index clauses:"]
  match expr.indexClauses with
  | .ok clauses => say (clauses.map fun clause => "  " ++ paint color .white clause.display)
  | .error cause =>
    say ["  " ++ paint color .yellow "not indexable:" ++ " " ++ (Error.unsupported cause).message]

/-- The steps that answer a request. -/
def answer (surroundings : Surroundings) (request : Request) : Session Unit := do
  let settings ← attempt (surroundings.settings request)
  match request.task with
  | .query input => answerQuery surroundings settings input
  | .index startKey limit input => answerIndex surroundings settings startKey limit input
  | .explain text => explain surroundings.color request.verbose text

/-- Answers a request. -/
def run (surroundings : Surroundings) (request : Request) : Report :=
  (answer surroundings request).report

end ColumnQuery.Command
