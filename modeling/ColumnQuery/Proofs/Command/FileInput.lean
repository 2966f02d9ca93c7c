import ColumnQuery.Command.Run
import ColumnQuery.Proofs.Clause.Chain
import ColumnQuery.Proofs.Clause.Composition
import ColumnQuery.Proofs.Command.Lines
import ColumnQuery.Proofs.Json.Expr

/-!
# Inputs from files

A query gets its source, conditions and selection as texts, or its chain from a file of JSON; an
index lookup gets its predicate in either way. A file that holds the JSON of what the texts say
leads to the same outcome with all options (`sameOutcome_of_file`), since a task compiles the
expression of its input and does not ask where it comes from.
-/
namespace ColumnQuery.Command

open Json Grammar

variable {surroundings : Surroundings} {path : String} {expr : Expr}

/-- A file holds the JSON text of an expression. It is nested no deeper than the reader goes, and
its numbers are finite and read back from their own texts. -/
structure Surroundings.Holds (surroundings : Surroundings) (path : String) (expr : Expr) :
    Prop where
  held : surroundings.file path = .ok expr.node.compactText
  nested : expr.node.nesting ≤ maxNesting
  finite : ∀ x ∈ expr.floats, x.isFinite = true
  faithful : ∀ x ∈ expr.floats, x.ReadsBack

/-- Invocations with the same outcome: a user sees the same exit code, output and line about a
failure of both. -/
inductive SameOutcome (surroundings : Surroundings) : Invocation → Invocation → Prop where
  | same (invocation : Invocation) : SameOutcome surroundings invocation invocation
  | runs {request request' : Request}
      (exitCode : (run surroundings request).exitCode = (run surroundings request').exitCode)
      (output : (run surroundings request).output = (run surroundings request').output)
      (errorLine : (run surroundings request).errorLine surroundings.color =
        (run surroundings request').errorLine surroundings.color) :
      SameOutcome surroundings (.run request) (.run request')

/-- The inputs of a query in texts. -/
def queryTexts (source : String) (conditions : List String) (selection : Option String) :
    List Flag :=
  (.source, source) :: (conditions.map (.condition, ·) ++ selection.toList.map (.selection, ·))

/-- The steps of a chain with conditions and a selection behind them. -/
def stepsOf (predicates : List Expr) (projection : Option Expr) : List (Step × Expr) :=
  predicates.map (.filter, ·) ++ projection.toList.map (.project, ·)

/-! ## Expressions of inputs -/

/-- The expression that a file holds is read from it. -/
theorem Surroundings.Holds.exprOf_eq (holds : surroundings.Holds path expr) :
    surroundings.exprOf path = .ok expr := by
  have decodes := (Expr.decodes_node (fun x listed _ => holds.faithful x listed) maxNesting
    expr).mpr ⟨⟨holds.nested, holds.finite⟩, rfl⟩
  have read : Json.ofText? Expr.ofNode? expr.node.compactText = some expr :=
    (congrArg (Option.bind · (Expr.ofNode? maxNesting))
      expr.hasText_node.ofText?_compactText).trans decodes
  simp only [exprOf, holds.held, read]

/-- A condition that is read is added before those behind it. -/
theorem addConditions_cons {text : String} {predicate : Expr} (query : Query)
    (texts : List String) (read : readPredicate text = .ok predicate) :
    addConditions query (text :: texts) = addConditions (query.filter predicate) texts := by
  rw [addConditions.eq_def]
  simp only [read]

/-- Conditions that are read are added in order. -/
theorem addConditions_eq {conditions : List String} {predicates : List Expr} (query : Query)
    (read : conditions.mapM readPredicate = .ok predicates) :
    addConditions query conditions = .ok (predicates.foldl Query.filter query) := by
  induction conditions generalizing query predicates with
  | nil =>
    cases read
    rfl
  | cons text texts ih =>
    rw [List.mapM_cons, bind_eq_ok] at read
    obtain ⟨predicate, first, read⟩ := read
    obtain ⟨others, rest, made⟩ := bind_eq_ok.mp read
    cases made
    rw [addConditions_cons query texts first]
    exact ih (query.filter predicate) rest

/-- The chain of a query in texts has a step for each text. -/
theorem chain_written {conditions : List String} {predicates : List Expr}
    {selection : Option String} {projection : Option Expr} (surroundings : Surroundings)
    (source : String) (read : conditions.mapM readPredicate = .ok predicates)
    (selected : selection.mapM readProjection = .ok projection) :
    QueryInput.chain surroundings (.written source conditions selection) =
      .ok (Query.ofSteps source (stepsOf predicates projection)).chain := by
  have filtered : Query.ofSteps source (predicates.map (.filter, ·)) =
      predicates.foldl Query.filter (.source source) := List.foldl_map
  rw [QueryInput.chain, addConditions_eq _ read, ← filtered]
  cases selection with
  | none =>
    cases selected
    rw [stepsOf, Option.toList, List.map_nil, List.append_nil]
    rfl
  | some text =>
    cases found : readProjection text with
    | error error =>
      rw [Option.mapM_some, found] at selected
      contradiction
    | ok last =>
      rw [Option.mapM_some, found] at selected
      cases selected
      have whole : Query.ofSteps source (stepsOf predicates (some last)) =
          (Query.ofSteps source (predicates.map (.filter, ·))).select last := List.foldl_append
      simp only [found, whole]
      rfl

/-- The expression of a text that is read. -/
theorem expr_written {text : String} (surroundings : Surroundings)
    (read : readPredicate text = .ok expr) :
    PredicateInput.expr surroundings (.written text) = .ok expr := by
  simp only [PredicateInput.expr, read]
  rfl

/-! ## Reports -/

/-- A query is run for its chain. -/
theorem run_query_congr {format : Option Format} {config : Option String} {verbose : Bool}
    {input input' : QueryInput} (same : input.chain surroundings = input'.chain surroundings) :
    run surroundings ⟨format, config, verbose, .query input⟩ =
      run surroundings ⟨format, config, verbose, .query input'⟩ := by
  have settings : surroundings.settings ⟨format, config, verbose, .query input⟩ =
      surroundings.settings ⟨format, config, verbose, .query input'⟩ := rfl
  simp only [run, answer, answerQuery, settings, same]

/-- An index lookup is run for its predicate. -/
theorem run_index_congr {format : Option Format} {config : Option String} {verbose : Bool}
    {startKey : String} {limit : Option UInt32} {input input' : PredicateInput}
    (same : input.expr surroundings = input'.expr surroundings) :
    run surroundings ⟨format, config, verbose, .index startKey limit input⟩ =
      run surroundings ⟨format, config, verbose, .index startKey limit input'⟩ := by
  have settings : surroundings.settings ⟨format, config, verbose, .index startKey limit input⟩ =
      surroundings.settings ⟨format, config, verbose, .index startKey limit input'⟩ := rfl
  simp only [run, answer, answerIndex, settings, same]

/-- A session that has printed nothing of its own when it fails. -/
def Session.FailsSilently {α : Type} (session : Session α) : Prop :=
  ∀ printed failure after, session.run printed = .error failure after → after = printed

/-- Printing does not fail. -/
theorem failsSilently_say (lines : List String) : (say lines).FailsSilently := by
  intro printed failure after fails
  cases fails

/-- Nothing is printed by going on with a result, so what may fail silently behind it still does. -/
theorem Session.FailsSilently.attempt_bind {α β : Type} (result : Except Failure α)
    {next : α → Session β} (silent : ∀ value, (next value).FailsSilently) :
    Session.FailsSilently (attempt result >>= next) := by
  intro printed failure after fails
  cases result with
  | error cause =>
    cases fails
    rfl
  | ok value => exact silent value printed failure after fails

/-- A query fails before its statement is shown. -/
theorem failsSilently_answerQuery (surroundings : Surroundings) (settings : Settings)
    (input : QueryInput) : (answerQuery surroundings settings input).FailsSilently := by
  refine .attempt_bind _ fun chain => ?_
  refine .attempt_bind _ fun select => ?_
  exact failsSilently_say (showSelect settings select)

/-- An index lookup fails before it is shown. -/
theorem failsSilently_answerIndex (surroundings : Surroundings) (settings : Settings)
    (startKey : String) (limit : Option UInt32) (input : PredicateInput) :
    (answerIndex surroundings settings startKey limit input).FailsSilently := by
  refine .attempt_bind _ fun predicate => ?_
  refine .attempt_bind _ fun scan => ?_
  exact failsSilently_say (showScan surroundings.color settings scan)

/-- Unless a predicate is explained, a request fails before anything is shown. -/
theorem failsSilently_answer (surroundings : Surroundings) {request : Request}
    (compiles : ∀ text, request.task ≠ .explain text) :
    (answer surroundings request).FailsSilently := by
  refine .attempt_bind _ fun settings => ?_
  cases task : request.task with
  | query input => exact failsSilently_answerQuery surroundings settings input
  | index startKey limit input =>
    exact failsSilently_answerIndex surroundings settings startKey limit input
  | explain text => exact absurd task (compiles text)

/-- A session that fails silently prints nothing if it fails. -/
theorem Session.FailsSilently.output_report {session : Session Unit}
    (silent : session.FailsSilently) (failed : session.report.exitCode = 1) :
    session.report.output = "" := by
  cases outcome : session.run [] with
  | ok value lines =>
    rw [Session.report, outcome] at failed
    contradiction
  | error failure lines =>
    have nothing : lines = [] := silent [] failure lines outcome
    rw [Session.report, outcome, nothing]
    rfl

/-- **A run that fails prints nothing**, unless it explains a predicate. -/
theorem output_of_failed {request : Request} (compiles : ∀ text, request.task ≠ .explain text)
    (failed : (run surroundings request).exitCode = 1) :
    (run surroundings request).output = "" :=
  (failsSilently_answer surroundings compiles).output_report failed

/-! ## Command lines -/

/-- Requests with the same report have the same outcome. -/
theorem SameOutcome.of_run_eq {request request' : Request}
    (same : run surroundings request = run surroundings request') :
    SameOutcome surroundings (.run request) (.run request') := by
  refine .runs ?_ ?_ ?_ <;> rw [same]

/-- Command lines with the same options have the same outcome if their tasks have the same reports
in every format, with all settings, and with or without verbosity. -/
theorem Line.sameOutcome {name : String} {scope : Scope} {task? : Given → Option Task}
    {outer options inputs inputs' : List Flag} {args args' : List String} {task task' : Task}
    (formatSetting : Option String) (reads : Reads name scope task?)
    (line : Line name scope outer options inputs args)
    (line' : Line name scope outer options inputs' args')
    (admitted : (Given.ofFlags inputs).Admitted scope)
    (admitted' : (Given.ofFlags inputs').Admitted scope)
    (asks : task? (.ofFlags (options ++ inputs)) = some task)
    (asks' : task? (.ofFlags (options ++ inputs')) = some task')
    (alike : ∀ format config verbose, run surroundings ⟨format, config, verbose, task⟩ =
      run surroundings ⟨format, config, verbose, task'⟩) :
    SameOutcome surroundings (readArguments formatSetting args)
      (readArguments formatSetting args') := by
  rw [line.readArguments_eq formatSetting reads admitted,
    line'.readArguments_eq formatSetting reads admitted']
  cases Given.addAll .program {} outer with
  | error stop => exact .same _
  | ok given =>
    cases Given.addAll scope {} options with
    | error stop => exact .same _
    | ok _ =>
      have same (switch : Switch) (option : switch.isInput = false) :
          (Given.ofFlags (options ++ inputs')).allOf switch =
            (Given.ofFlags (options ++ inputs)).allOf switch := by
        rw [Given.allOf_append, Given.allOf_append, line.allOf_inputs option,
          line'.allOf_inputs option]
      show SameOutcome surroundings
        (.ofReading (requestOf formatSetting given (.ofFlags (options ++ inputs)) _))
        (.ofReading (requestOf formatSetting given (.ofFlags (options ++ inputs')) _))
      -- Both requests are the first one with its task put in.
      rw [asks, asks', requestOf, requestOf, request?_congr same,
        request?_task formatSetting given _ task task,
        request?_task formatSetting given _ task task']
      cases request? formatSetting given (.ofFlags (options ++ inputs)) (some task) with
      | none => exact .same _
      | some request => exact .of_run_eq (alike _ _ _)

/-- What the texts of a query give. -/
theorem allOf_queryTexts (source : String) (conditions : List String) (selection : Option String)
    (switch : Switch) : (Given.ofFlags (queryTexts source conditions selection)).allOf switch =
      match switch with
      | .source => [source]
      | .condition => conditions
      | .selection => selection.toList
      | _ => [] := by
  have parts : queryTexts source conditions selection = [source].map (.source, ·) ++
      (conditions.map (.condition, ·) ++ selection.toList.map (.selection, ·)) := rfl
  rw [parts, Given.allOf_append, Given.allOf_append, Given.allOf_map, Given.allOf_map,
    Given.allOf_map]
  cases switch <;> simp

/-- What one input gives. -/
theorem allOf_singleton (switch other : Switch) (value : String) :
    (Given.ofFlags [(other, value)]).allOf switch = if other = switch then [value] else [] :=
  Given.allOf_map switch other [value]

/-- The texts of a query are admitted. -/
theorem admitted_queryTexts (source : String) (conditions : List String)
    (selection : Option String) :
    (Given.ofFlags (queryTexts source conditions selection)).Admitted .query := by
  constructor
  · intro switch input value listed
    rw [allOf_queryTexts] at listed
    cases switch <;> first | rfl | simp at listed
  · intro switch input alone
    rw [allOf_queryTexts]
    cases switch <;> first | contradiction | simp

/-- One input is admitted if its value is possible. -/
theorem admitted_singleton {scope : Scope} {switch : Switch} {value : String}
    (accepted : switch.accepts value = true) :
    (Given.ofFlags [(switch, value)]).Admitted scope := by
  constructor
  · intro other input found listed
    obtain ⟨rfl, rfl⟩ := Prod.mk.inj (List.mem_singleton.mp (Given.mem_allOf.mp listed))
    exact accepted
  · intro other input alone
    rw [allOf_singleton]
    split <;> simp

section Tasks

variable {options : List Flag} (free : optionsOf options = options)
include free

/-- The texts of a query ask for it. -/
theorem queryTask?_queryTexts (source : String) (conditions : List String)
    (selection : Option String) :
    queryTask? (.ofFlags (options ++ queryTexts source conditions selection)) =
      some (.query (.written source conditions selection)) := by
  have input (switch : Switch) (input : switch.isInput = true) :=
    (Given.allOf_input free input).trans (allOf_queryTexts source conditions selection switch)
  simp only [queryTask?, Given.value?_eq_head?, input .json rfl, input .source rfl,
    input .condition rfl, input .selection rfl, List.head?_nil, List.head?_cons,
    Option.head?_toList]

/-- Behind options one input has its value, and the others have none. -/
theorem value?_input (other : Switch) (value : String) {switch : Switch}
    (input : switch.isInput = true) :
    (Given.ofFlags (options ++ [(other, value)])).value? switch =
      if other = switch then some value else none := by
  rw [Given.value?_eq_head?, Given.allOf_input free input, allOf_singleton]
  split <;> rfl

/-- A file of a query asks for it. -/
theorem queryTask?_file (path : String) :
    queryTask? (.ofFlags (options ++ [(.json, path)])) = some (.query (.file path)) := by
  have value (switch : Switch) (input : switch.isInput = true) :=
    value?_input free .json path input
  simp [queryTask?, Given.has, value .json rfl, value .source rfl, value .condition rfl,
    value .selection rfl]

/-- A text or a file of an index lookup asks for it with the start key and the limit of the options,
which inputs leave as they are. -/
theorem indexTask?_input (text path : String) :
    ∃ startKey limit,
      indexTask? (.ofFlags (options ++ [(.condition, text)])) =
        some (.index startKey limit (.written text)) ∧
      indexTask? (.ofFlags (options ++ [(.json, path)])) =
        some (.index startKey limit (.file path)) := by
  have kept {other switch : Switch} (value : String) (apart : other ≠ switch) :
      (Given.ofFlags (options ++ [(other, value)])).value? switch =
        (Given.ofFlags options).value? switch := by
    rw [Given.value?_eq_head?, Given.value?_eq_head?, Given.allOf_append, allOf_singleton,
      if_neg apart, List.append_nil]
  have file : Switch.json.isInput = true := rfl
  have condition : Switch.condition.isInput = true := rfl
  refine ⟨((Given.ofFlags options).value? .startKey).getD "",
    ((Given.ofFlags options).value? .limit).bind limit?, ?_, ?_⟩
  · simp [indexTask?, value?_input free .condition text file,
      value?_input free .condition text condition, kept]
  · simp [indexTask?, value?_input free .json path file, value?_input free .json path condition,
      kept]

end Tasks

/-- **A file of JSON and texts lead to the same outcome.** Of two command lines with the same
options, one gives a query in texts that are read, or an index lookup in such a text, and the other
names a file that holds the JSON of the chain or the predicate that these texts make. Both have the
same outcome, whatever the options, the settings and the format set outside. A query and an index
lookup that fail print nothing. -/
theorem sameOutcome_of_file (formatSetting : Option String) (surroundings : Surroundings) :
    (∀ outer options source conditions selection path predicates projection args args',
      Line "query" .query outer options (queryTexts source conditions selection) args →
      Line "query" .query outer options [(.json, path)] args' → path ≠ "" →
      conditions.mapM readPredicate = .ok predicates →
      selection.mapM readProjection = .ok projection →
      surroundings.Holds path (Query.ofSteps source (stepsOf predicates projection)).chain →
      SameOutcome surroundings (readArguments formatSetting args)
        (readArguments formatSetting args')) ∧
    (∀ outer options text path predicate args args',
      Line "index" .index outer options [(.condition, text)] args →
      Line "index" .index outer options [(.json, path)] args' → path ≠ "" →
      readPredicate text = .ok predicate → surroundings.Holds path predicate →
      SameOutcome surroundings (readArguments formatSetting args)
        (readArguments formatSetting args')) ∧
    ∀ args request, readArguments formatSetting args = .run request →
      (∀ text, request.task ≠ .explain text) → (run surroundings request).exitCode = 1 →
      (run surroundings request).output = "" := by
  refine ⟨?_, ?_, fun _ _ _ => output_of_failed⟩
  · intro outer options source conditions selection path predicates projection args args' line
      line' filled read selected holds
    have accepted : Switch.json.accepts path = true := bne_iff_ne.mpr filled
    have free := line.optionsOf_options
    refine line.sameOutcome formatSetting reads_query line' (admitted_queryTexts ..)
      (admitted_singleton accepted) (queryTask?_queryTexts free ..) (queryTask?_file free path) ?_
    intro format config verbose
    apply run_query_congr
    rw [chain_written surroundings source read selected]
    exact holds.exprOf_eq.symm
  · intro outer options text path predicate args args' line line' filled read holds
    have accepted : Switch.json.accepts path = true := bne_iff_ne.mpr filled
    obtain ⟨startKey, limit, asks, asks'⟩ := indexTask?_input line.optionsOf_options text path
    refine line.sameOutcome formatSetting reads_index line' (admitted_singleton rfl)
      (admitted_singleton accepted) asks asks' ?_
    intro format config verbose
    apply run_index_congr
    rw [expr_written surroundings read]
    exact holds.exprOf_eq.symm

/-- A query with an option between its texts and one with that option behind its file have the same
outcome. -/
theorem sameOutcome_of_file_users :
    ∃ surroundings : Surroundings,
      surroundings.Holds "q.json" (.call .filter (.source "Users")
        (.lambda (.compare .eq (.field "a") (.constant (.text "x"))))) ∧
      readArguments none ["-f", "json", "query", "--from", "Users", "-v", "-w(a = 'x')"] =
        .run ⟨some .json, none, true, .query (.written "Users" ["(a = 'x')"] none)⟩ ∧
      readArguments none ["-f", "json", "query", "--json=q.json", "-v"] =
        .run ⟨some .json, none, true, .query (.file "q.json")⟩ ∧
      SameOutcome surroundings
        (readArguments none ["-f", "json", "query", "--from", "Users", "-v", "-w(a = 'x')"])
        (readArguments none ["-f", "json", "query", "--json=q.json", "-v"]) := by
  let predicate : Expr := .compare .eq (.field "a") (.constant (.text "x"))
  let chain : Expr := .call .filter (.source "Users") (.lambda predicate)
  let surroundings : Surroundings :=
    ⟨fun path => if path = "q.json" then .ok chain.node.compactText else .error .missing, none,
      false, fun _ => "", fun _ => ""⟩
  have holds : surroundings.Holds "q.json" chain :=
    ⟨rfl, by decide, by decide, by intro x listed; cases listed⟩
  have format : Gives .program [(.format, "json")] ["-f", "json"] :=
    .cons (.letter (by decide) rfl rfl (by decide +kernel)) .nil
  have texts : Gives .query [(.source, "Users"), (.verbose, ""), (.condition, "(a = 'x')")]
      ["--from", "Users", "-v", "-w(a = 'x')"] :=
    .cons (.name (by decide) rfl (by decide +kernel))
      (.cons (.letterAlone (by decide) rfl rfl)
        (.cons (.letterJoined (by decide) rfl rfl (by decide)) .nil))
  have file : Gives .query [(.json, "q.json"), (.verbose, "")] ["--json=q.json", "-v"] :=
    .cons (.nameEquals "q.json" (by decide) rfl) (.cons (.letterAlone (by decide) rfl rfl) .nil)
  have line : Line "query" .query [(.format, "json")] [(.verbose, "")]
      (queryTexts "Users" ["(a = 'x')"] none)
      (["-f", "json"] ++ "query" :: ["--from", "Users", "-v", "-w(a = 'x')"]) :=
    .intro format texts (by decide) fun switch => by cases switch <;> decide
  have line' : Line "query" .query [(.format, "json")] [(.verbose, "")] [(.json, "q.json")]
      (["-f", "json"] ++ "query" :: ["--json=q.json", "-v"]) :=
    .intro format file (by decide) fun switch => by cases switch <;> decide
  have shown : predicate.display = "(a = 'x')" := by decide +kernel
  have whole : predicate.IsPredicate := .compare (.field rfl) (.constant (.text "x") rfl)
  have accepted := (accepted_display whole (by decide) (Nat.le_refl maxDepth)).reads
  have read : ["(a = 'x')"].mapM readPredicate = .ok [predicate] := by
    rw [List.mapM_cons, ← shown, accepted]
    rfl
  refine ⟨surroundings, holds, by decide +kernel, by decide +kernel, ?_⟩
  exact (sameOutcome_of_file none surroundings).1 _ _ _ _ _ _ _ none _ _ line line' (by decide)
    read rfl holds

end ColumnQuery.Command
