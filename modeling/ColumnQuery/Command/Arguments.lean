import ColumnQuery.Command.Request
import ColumnQuery.Number.Digits

/-!
# Arguments

A command line has options of the whole program, the name of a task, and options of the task;
format, settings and verbosity may stand on both sides of the name. An option is written as two
hyphens and its name, or one hyphen and its letter. Its value follows as the next argument, after an
equals sign, or right after the letter. Letters of options without a value may share a hyphen. After
two hyphens alone there are no options.

Arguments are taken in order, and the first that makes no sense or asks for help ends the reading.
-/
namespace ColumnQuery.Command

/-- An option. -/
inductive Switch where
  | format
  | config
  | verbose
  | help
  | version
  | source
  | condition
  | selection
  | json
  | startKey
  | limit
deriving DecidableEq

namespace Switch

/-- The name of an option. -/
def name : Switch → String
  | format => "format"
  | config => "config"
  | verbose => "verbose"
  | help => "help"
  | version => "version"
  | source => "from"
  | condition => "where"
  | selection => "select"
  | json => "json"
  | startKey => "start-key"
  | limit => "limit"

/-- The letter of an option that has one. -/
def letter? : Switch → Option Char
  | format => some 'f'
  | verbose => some 'v'
  | help => some 'h'
  | version => some 'V'
  | condition => some 'w'
  | selection => some 's'
  | limit => some 'l'
  | config | source | json | startKey => none

/-- Whether an option has a value. -/
def takesValue : Switch → Bool
  | verbose | help | version => false
  | _ => true

end Switch

/-- A 32-bit natural as a limit is written, with a sign and leading zeros allowed. -/
def limit? (text : String) : Option UInt32 :=
  let read (sign : Int) (text : List Char) : Option UInt32 :=
    match Digits.scan text with
    | (digit :: digits, []) =>
      let n := sign * (Digits.value (digit :: digits) : Int)
      if 0 ≤ n ∧ n.toNat < UInt32.size then some (UInt32.ofNat n.toNat) else none
    | _ => none
  match text.toList with
  | '+' :: rest => read 1 rest
  | '-' :: rest => read (-1) rest
  | rest => read 1 rest

/-- Whether an option can have a value. -/
def Switch.accepts (switch : Switch) (value : String) : Bool :=
  match switch with
  | format => (Format.ofName? value).isSome
  | config | json => value != ""
  | limit => (limit? value).isSome
  | _ => true

/-- The part of a command line that options belong to. -/
inductive Scope where
  /-- Before the name of the task. -/
  | program
  | query
  | index
  | explain
deriving DecidableEq

namespace Scope

/-- The options of a part. -/
def switches : Scope → List Switch
  | program => [.format, .config, .verbose, .help, .version]
  | query => [.format, .config, .verbose, .help, .source, .condition, .selection, .json]
  | index => [.format, .config, .verbose, .help, .startKey, .limit, .condition, .json]
  | explain => [.format, .config, .verbose, .help]

/-- The option of a name. -/
def named? (scope : Scope) (name : List Char) : Option Switch :=
  scope.switches.find? fun switch => switch.name.toList == name

/-- The option of a letter. -/
def lettered? (scope : Scope) (letter : Char) : Option Switch :=
  scope.switches.find? fun switch => switch.letter? == some letter

/-- Whether an option may be given more than once. -/
def repeats (scope : Scope) (switch : Switch) : Bool := scope == query && switch == .condition

/-- How many arguments are no options. -/
def maxWords : Scope → Nat
  | explain => 1
  | _ => 0

/-- Whether an argument ends the part: the name of a task ends the options of the program. -/
def endsAt (scope : Scope) (arg : String) : Bool :=
  scope == program && ["query", "index", "explain", "help"].contains arg

end Scope

/-- Why reading ends early. -/
inductive Stop where
  | refused
  | help
  | version
deriving DecidableEq

/-- What was given in one part of a command line. -/
structure Given where
  /-- Options and their values in order; an option without a value has the empty text. -/
  values : List (Switch × String) := []
  /-- Arguments that are no options. -/
  words : List String := []

namespace Given

/-- The value of an option. -/
def value? (given : Given) (switch : Switch) : Option String := given.values.lookup switch

/-- All values of an option. -/
def allOf (given : Given) (switch : Switch) : List String :=
  given.values.filterMap fun (other, value) => if other = switch then some value else none

/-- Whether an option was given. -/
def has (given : Given) (switch : Switch) : Bool := (given.value? switch).isSome

/-- A further option with its value. -/
def add (given : Given) (scope : Scope) (switch : Switch) (value : String) : Except Stop Given :=
  match switch with
  | .help => .error .help
  | .version => .error .version
  | switch =>
    if (given.has switch && !scope.repeats switch) || !switch.accepts value then .error .refused
    else .ok { given with values := given.values ++ [(switch, value)] }

/-- A further argument that is no option. -/
def addWord (scope : Scope) (given : Given) (word : String) : Except Stop Given :=
  if given.words.length < scope.maxWords then .ok { given with words := given.words ++ [word] }
  else .error .refused

/-- The options of an argument of letters, and the one whose value is still to come. -/
def addLetters (scope : Scope) (given : Given) : List Char → Except Stop (Given × Option Switch)
  | [] => .ok (given, none)
  | letter :: rest =>
    match scope.lettered? letter with
    | none => .error .refused
    | some switch =>
      if switch.takesValue then
        match rest with
        | [] => .ok (given, some switch)
        | '=' :: value => (given.add scope switch (String.ofList value)).map (·, none)
        | value => (given.add scope switch (String.ofList value)).map (·, none)
      else do
        let given ← given.add scope switch ""
        addLetters scope given rest

/-- The option of an argument with a name, and the same option if its value is still to come. -/
def addNamed (scope : Scope) (given : Given) (text : List Char) :
    Except Stop (Given × Option Switch) :=
  let name := text.takeWhile (· != '=')
  match scope.named? name with
  | none => .error .refused
  | some switch =>
    match switch.takesValue, text.drop name.length with
    | true, [] => .ok (given, some switch)
    | true, _ :: value => (given.add scope switch (String.ofList value)).map (·, none)
    | false, [] => (given.add scope switch "").map (·, none)
    | false, _ => .error .refused

/-- One more argument. -/
def addArgument (scope : Scope) (given : Given) (arg : String) :
    Except Stop (Given × Option Switch) :=
  match arg.toList with
  | '-' :: '-' :: text => given.addNamed scope text
  | '-' :: letter :: letters => given.addLetters scope (letter :: letters)
  | _ => (given.addWord scope arg).map (·, none)

end Given

/-- Whether an argument is written as an option. A hyphen alone is not. -/
def isOption (arg : String) : Bool := arg.startsWith "-" && arg != "-"

/-- Takes the arguments of one part, and returns those from the name of the task on. -/
def collect (scope : Scope) : Given → List String → Except Stop (Given × List String)
  | given, [] => .ok (given, [])
  | given, arg :: rest =>
    if scope.endsAt arg then .ok (given, arg :: rest)
    else if arg = "--" then
      (rest.foldlM (Given.addWord scope) given).map (·, [])
    else
      match given.addArgument scope arg, rest with
      | .error stop, _ => .error stop
      | .ok (given, none), rest => collect scope given rest
      | .ok (_, some _), [] => .error .refused
      | .ok (given, some switch), value :: rest =>
        if isOption value then .error .refused
        else match given.add scope switch value with
          | .error stop => .error stop
          | .ok given => collect scope given rest

/-- The task of a query: either its parts or a file. -/
def queryTask? (given : Given) : Option Task :=
  match given.value? .json, given.value? .source with
  | some path, none =>
    if given.has .condition || given.has .selection then none else some (.query (.file path))
  | none, some source =>
    some (.query (.written source (given.allOf .condition) (given.value? .selection)))
  | _, _ => none

/-- The task of an index lookup: either a text or a file. -/
def indexTask? (given : Given) : Option Task :=
  let startKey := (given.value? .startKey).getD ""
  let limit := (given.value? .limit).bind limit?
  match given.value? .json, given.value? .condition with
  | some path, none => some (.index startKey limit (.file path))
  | none, some text => some (.index startKey limit (.written text))
  | _, _ => none

/-- The task of an explanation. -/
def explainTask? (given : Given) : Option Task := given.words.head?.map .explain

/-- The request of both parts. Options of the task come before those of the program, and both before
the format that is set outside. That format must be valid wherever it could count. -/
def request? (formatSetting : Option String) (outer inner : Given) (task : Option Task) :
    Option Request := do
  let task ← task
  let outside ← match formatSetting with
    | none => some none
    | some name =>
      match Format.ofName? name with
      | some format => some (some format)
      | none => if outer.has .format && inner.has .format then some none else none
  let format := ((inner.value? .format).or (outer.value? .format)).bind Format.ofName?
  some
    { format := format.or outside
      config := (inner.value? .config).or (outer.value? .config)
      verbose := inner.has .verbose || outer.has .verbose
      task }

/-- What the arguments after the options of the program ask for. -/
def readTask (formatSetting : Option String) (outer : Given) (args : List String) :
    Except Stop Request :=
  let finish (scope : Scope) (task? : Given → Option Task) (args : List String) :
      Except Stop Request := do
    let (inner, _) ← collect scope {} args
    match request? formatSetting outer inner (task? inner) with
    | some request => .ok request
    | none => .error .refused
  match args with
  | "query" :: args => finish .query queryTask? args
  | "index" :: args => finish .index indexTask? args
  | "explain" :: args => finish .explain explainTask? args
  | ["help"] => .error .help
  | ["help", name] => if Scope.program.endsAt name then .error .help else .error .refused
  | _ => .error .refused

/-- What a command line says. `formatSetting` is the format that is set outside of it. -/
def readArguments (formatSetting : Option String) (args : List String) : Invocation :=
  let read := do
    let (outer, args) ← collect .program {} args
    readTask formatSetting outer args
  match read with
  | .ok request => .run request
  | .error .help => .help
  | .error .version => .version
  | .error .refused => .refused

end ColumnQuery.Command
