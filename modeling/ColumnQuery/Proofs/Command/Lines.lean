import ColumnQuery.Proofs.Command.Options

/-!
# Command lines of a task

A command line has options of the program, the name of a task, and behind it what the task gets:
inputs, which say what is compiled, and further options. The two stand in any order between them and
do not meet. The options alone decide whether the line is refused, and how the task is done; the
inputs decide what is compiled (`Line.readArguments_eq`).
-/
namespace ColumnQuery.Command

/-- Whether an option is an input, which says what a task compiles. -/
def Switch.isInput : Switch → Bool
  | source | condition | selection | json => true
  | _ => false

/-- The options that are no inputs. -/
def optionsOf (flags : List Flag) : List Flag := flags.filter fun flag => !flag.1.isInput

/-- What options give. -/
def Given.ofFlags (flags : List Flag) : Given := { values := flags }

/-- Each option has the same values in the same order. -/
def Given.Alike (given given' : Given) : Prop := ∀ switch, given.allOf switch = given'.allOf switch

/-- A command line of a task. What it gives behind the name has these options in order, and each
input has these values in order. -/
inductive Line (name : String) (scope : Scope) (outer options inputs : List Flag) :
    List String → Prop where
  | intro {flags : List Flag} {before behind : List String}
      (program : Gives .program outer before) (task : Gives scope flags behind)
      (shared : optionsOf flags = options)
      (said : (Given.ofFlags flags).Alike (.ofFlags (options ++ inputs))) :
      Line name scope outer options inputs (before ++ name :: behind)

variable {scope : Scope} {switch : Switch} {given shared : Given} {flags : List Flag}

/-! ## What was given -/

/-- There are no inputs among options. -/
theorem optionsOf_optionsOf (flags : List Flag) :
    optionsOf (optionsOf flags) = optionsOf flags := by
  simp only [optionsOf, List.filter_filter, Bool.and_self]

namespace Given

/-- The value of an option is the first one given. -/
theorem value?_eq_head? (given : Given) (switch : Switch) :
    given.value? switch = (given.allOf switch).head? := by
  rw [value?, List.lookup_eq_findSome?, allOf, List.head?_filterMap]
  refine congrArg (List.findSome? · given.values) (funext fun flag => ?_)
  simp only [beq_iff_eq, eq_comm (a := switch)]

/-- An option was given if it has a value. -/
theorem has_iff : given.has switch = true ↔ given.allOf switch ≠ [] := by
  rw [has, value?_eq_head?, List.isSome_head?]

/-- Values given one after another stand in that order. -/
theorem allOf_append (flags flags' : List Flag) (switch : Switch) :
    (ofFlags (flags ++ flags')).allOf switch =
      (ofFlags flags).allOf switch ++ (ofFlags flags').allOf switch :=
  List.filterMap_append

/-- The values that an option was given are those given with it. -/
theorem mem_allOf {value : String} :
    value ∈ (ofFlags flags).allOf switch ↔ (switch, value) ∈ flags := by
  simp [allOf, ofFlags]

/-- An option has the same values among the options as among all that is given. -/
theorem allOf_optionsOf (option : switch.isInput = false) :
    (ofFlags (optionsOf flags)).allOf switch = (ofFlags flags).allOf switch := by
  rw [allOf, allOf, ofFlags, ofFlags, optionsOf, List.filterMap_filter]
  refine congrArg (List.filterMap · flags) (funext fun flag => ?_)
  by_cases same : flag.1 = switch
  · simp [same, option]
  · simp [same]

/-- An input has no values among the options. -/
theorem allOf_optionsOf_input (input : switch.isInput = true) :
    (ofFlags (optionsOf flags)).allOf switch = [] := by
  refine List.eq_nil_iff_forall_not_mem.mpr fun value listed => ?_
  have found := (List.mem_filter.mp (mem_allOf.mp listed)).2
  simp [input] at found

/-- Values given with one option are the values of this option. -/
theorem allOf_map (switch other : Switch) (values : List String) :
    (ofFlags (values.map (other, ·))).allOf switch = if other = switch then values else [] := by
  rw [allOf, ofFlags, List.filterMap_map]
  show values.filterMap (fun value => if other = switch then some value else none) = _
  by_cases same : other = switch
  · simp only [same, if_true]
    exact List.filterMap_some
  · simp only [same, if_false]
    exact List.filterMap_eq_nil_iff.mpr fun _ _ => rfl

/-- An input has the values that are given behind options. -/
theorem allOf_input {options inputs : List Flag} (free : optionsOf options = options)
    (input : switch.isInput = true) :
    (ofFlags (options ++ inputs)).allOf switch = (ofFlags inputs).allOf switch := by
  rw [allOf_append, ← free, allOf_optionsOf_input input, List.nil_append]

end Given

/-! ## Adding options -/

/-- Inputs that a part takes: each value is possible, and only some may be given more than once. -/
structure Given.Admitted (given : Given) (scope : Scope) : Prop where
  accepted : ∀ switch, switch.isInput = true → ∀ value ∈ given.allOf switch,
    switch.accepts value = true
  single : ∀ switch, switch.isInput = true → scope.repeats switch = false →
    (given.allOf switch).length ≤ 1

/-- An option that asks for no help is added unless its value is impossible or it was given before
and may be given only once. -/
theorem Given.add_eq (value : String) (help : switch ≠ .help) (version : switch ≠ .version) :
    given.add scope switch value =
      if (given.has switch && !scope.repeats switch) || !switch.accepts value then .error .refused
      else .ok { given with values := given.values ++ [(switch, value)] } := by
  cases switch <;> first | rfl | contradiction

/-- Whether an option can be added depends on what was given before only if it was given. -/
theorem Given.add_cases (value : String) (same : shared.has switch = given.has switch) :
    (∃ stop, given.add scope switch value = .error stop ∧
      shared.add scope switch value = .error stop) ∨
    given.add scope switch value =
        .ok { given with values := given.values ++ [(switch, value)] } ∧
      shared.add scope switch value =
        .ok { shared with values := shared.values ++ [(switch, value)] } := by
  by_cases help : switch = .help
  · subst help
    exact .inl ⟨.help, rfl, rfl⟩
  by_cases version : switch = .version
  · subst version
    exact .inl ⟨.version, rfl, rfl⟩
  rw [add_eq value help version, add_eq value help version, same]
  split
  · exact .inl ⟨.refused, rfl, rfl⟩
  · exact .inr ⟨rfl, rfl⟩

/-- An input that is admitted is added. -/
theorem Given.add_input {value : String} (input : switch.isInput = true)
    (admitted : (ofFlags (given.values ++ (switch, value) :: flags)).Admitted scope) :
    given.add scope switch value =
      .ok { given with values := given.values ++ [(switch, value)] } := by
  have listed : value ∈ (ofFlags ((switch, value) :: flags)).allOf switch :=
    mem_allOf.mpr (List.mem_cons_self ..)
  have accepted := admitted.accepted switch input value
    (mem_allOf.mpr (List.mem_append_right _ (List.mem_cons_self ..)))
  have once : (given.has switch && !scope.repeats switch) = false := by
    cases alone : scope.repeats switch with
    | true => exact Bool.and_false _
    | false =>
      refine (Bool.and_true _).trans (Bool.eq_false_iff.mpr fun before => ?_)
      have filled : 0 < ((ofFlags given.values).allOf switch).length :=
        List.length_pos_iff.mpr (has_iff.mp before)
      have further := List.length_pos_of_mem listed
      have short := admitted.single switch input alone
      rw [allOf_append, List.length_append] at short
      omega
  rw [add_eq value (by rintro rfl; contradiction) (by rintro rfl; contradiction), once, accepted]
  rfl

/-- A further option adds to what was given. -/
theorem Given.has_append (given : Given) (flag : Flag) (switch : Switch) :
    ({ given with values := given.values ++ [flag] } : Given).has switch =
      (given.has switch || switch == flag.1) := by
  rw [has, has, value?, value?, List.lookup_append, Option.isSome_or, List.lookup_cons]
  cases switch == flag.1 <;> rfl

/-- **Inputs and options are added apart.** Inputs that are admitted change nothing of whether the
options can be added one after another, and of the first that cannot. -/
theorem Given.addAll_eq (admitted : (ofFlags (given.values ++ flags)).Admitted scope)
    (same : ∀ switch, switch.isInput = false → shared.has switch = given.has switch) :
    given.addAll scope flags = (shared.addAll scope (optionsOf flags)).map fun _ =>
      { given with values := given.values ++ flags } := by
  induction flags generalizing given shared with
  | nil =>
    rw [List.append_nil]
    rfl
  | cons flag flags ih =>
    obtain ⟨switch, value⟩ := flag
    have whole : given.values ++ (switch, value) :: flags =
        given.values ++ [(switch, value)] ++ flags := by
      rw [List.append_assoc, List.singleton_append]
    -- What was given before grows with each step as what is to come gets shorter. Both together
    -- stay the same, so that the admission of all carries over.
    cases input : switch.isInput with
    | true =>
      have others : optionsOf ((switch, value) :: flags) = optionsOf flags :=
        List.filter_cons_of_neg (by simp [input])
      rw [addAll, List.foldlM_cons, add_input input admitted, others, whole]
      refine ih (whole ▸ admitted) fun other option => ?_
      have apart : (other == switch) = false := by
        rw [beq_eq_false_iff_ne]
        rintro rfl
        rw [input] at option
        contradiction
      rw [same other option, has_append, apart, Bool.or_false]
    | false =>
      have others : optionsOf ((switch, value) :: flags) = (switch, value) :: optionsOf flags :=
        List.filter_cons_of_pos (by simp [input])
      rw [addAll, addAll, List.foldlM_cons, others, List.foldlM_cons]
      obtain ⟨stop, refused, refused'⟩ | ⟨added, added'⟩ := add_cases value (same switch input)
      · rw [refused, refused']
        rfl
      · rw [added, added', whole]
        refine ih (whole ▸ admitted) fun other option => ?_
        rw [has_append, has_append, same other option]

/-! ## Requests -/

/-- What the reading of a command line says. -/
def Invocation.ofReading : Except Stop Request → Invocation
  | .ok request => .run request
  | .error .help => .help
  | .error .version => .version
  | .error .refused => .refused

/-- The request of both parts, or a refusal. -/
def requestOf (formatSetting : Option String) (outer inner : Given) (task : Option Task) :
    Except Stop Request :=
  match request? formatSetting outer inner task with
  | some request => .ok request
  | none => .error .refused

/-- A task of the program: what stands behind its name is read as options of a part, and the values
of these options tell the task. -/
structure Reads (name : String) (scope : Scope) (task? : Given → Option Task) : Prop where
  ends : Scope.program.endsAt name = true
  reading : ∀ formatSetting outer args, readTask formatSetting outer (name :: args) = (do
    let (inner, _) ← collect scope {} args
    requestOf formatSetting outer inner (task? inner))
  alike : ∀ given given' : Given, given.Alike given' → task? given = task? given'

/-- Queries are such a task. -/
theorem reads_query : Reads "query" .query queryTask? where
  ends := by decide
  reading _ _ _ := rfl
  alike given given' alike := by
    simp only [queryTask?, Given.has, Given.value?_eq_head?, alike _]

/-- Index lookups are such a task. -/
theorem reads_index : Reads "index" .index indexTask? where
  ends := by decide
  reading _ _ _ := rfl
  alike given given' alike := by
    simp only [indexTask?, Given.value?_eq_head?, alike _]

/-- Requests for different tasks do not differ in anything else. -/
theorem request?_task (formatSetting : Option String) (outer inner : Given) (task task' : Task) :
    request? formatSetting outer inner (some task') =
      (request? formatSetting outer inner (some task)).map ({ · with task := task' }) := by
  cases formatSetting with
  | none => rfl
  | some name =>
    simp only [request?, Option.bind_eq_bind, Option.bind_some]
    cases Format.ofName? name with
    | some format => rfl
    | none => cases outer.has .format && inner.has .format <;> rfl

/-- A request has the format, the settings and the verbosity of the options. -/
theorem request?_congr {formatSetting : Option String} {outer inner inner' : Given}
    {task : Option Task} (same : ∀ switch, switch.isInput = false →
      inner.allOf switch = inner'.allOf switch) :
    request? formatSetting outer inner task = request? formatSetting outer inner' task := by
  simp only [request?, Given.has, Given.value?_eq_head?, same .format rfl, same .config rfl,
    same .verbose rfl]

/-- The name of a task ends the options of the program. -/
theorem collect_task {name : String} (ends : Scope.program.endsAt name = true)
    (rest : List String) : collect .program given (name :: rest) = .ok (given, name :: rest) := by
  rw [collect.eq_def]
  exact if_pos ends

/-- Arguments that give nothing but options are collected as these options. -/
theorem Gives.collect_all {args : List String} (gives : Gives scope flags args) :
    Command.collect scope {} args = (Given.addAll scope {} flags).map (·, []) := by
  have whole := gives.collect {} []
  rw [List.append_nil] at whole
  rw [whole]
  cases Given.addAll scope {} flags <;> rfl

/-- What is given is admitted if its inputs are. -/
theorem Given.Alike.admitted {options inputs : List Flag}
    (said : (ofFlags flags).Alike (ofFlags (options ++ inputs)))
    (shared : optionsOf flags = options)
    (admitted : (ofFlags inputs).Admitted scope) : (ofFlags flags).Admitted scope := by
  have inputsOnly (switch : Switch) (input : switch.isInput = true) :
      (ofFlags flags).allOf switch = (ofFlags inputs).allOf switch := by
    rw [said, allOf_input (shared ▸ optionsOf_optionsOf flags) input]
  constructor
  · intro switch input value listed
    rw [inputsOnly switch input] at listed
    exact admitted.accepted switch input value listed
  · intro switch input alone
    rw [inputsOnly switch input]
    exact admitted.single switch input alone

section Line

variable {name : String} {outer options inputs : List Flag} {args : List String}

/-- Inputs can be given whatever their values are. -/
theorem exists_line (name : String)
    (known : ∀ flag ∈ inputs, flag.1 ∈ scope.switches ∧ flag.1.isInput = true) :
    ∃ args, Line name scope [] [] inputs args := by
  have valued (switch : Switch) (input : switch.isInput = true) : switch.takesValue = true := by
    cases switch <;> first | rfl | contradiction
  obtain ⟨args, gives⟩ := exists_gives fun flag listed =>
    ⟨(known flag listed).1, valued flag.1 (known flag listed).2⟩
  have none : optionsOf inputs = [] := by
    refine List.filter_eq_nil_iff.mpr fun flag listed => ?_
    simp [(known flag listed).2]
  exact ⟨_, .intro .nil gives none fun _ => rfl⟩

/-- There are no inputs among the options of a command line. -/
theorem Line.optionsOf_options (line : Line name scope outer options inputs args) :
    optionsOf options = options := by
  obtain ⟨_, _, rfl, _⟩ := line
  exact optionsOf_optionsOf _

/-- There are no options among the inputs of a command line. -/
theorem Line.allOf_inputs (line : Line name scope outer options inputs args)
    (option : switch.isInput = false) : (Given.ofFlags inputs).allOf switch = [] := by
  obtain ⟨_, _, rfl, said⟩ := line
  have same := said switch
  rw [Given.allOf_append, Given.allOf_optionsOf option] at same
  exact List.self_eq_append_right.mp same

/-- **A command line is read as its options followed by its inputs**, and only its options can make
it refused. -/
theorem Line.readArguments_eq {task? : Given → Option Task} (formatSetting : Option String)
    (reads : Reads name scope task?) (line : Line name scope outer options inputs args)
    (admitted : (Given.ofFlags inputs).Admitted scope) :
    readArguments formatSetting args = .ofReading (do
      let given ← Given.addAll .program {} outer
      let _ ← Given.addAll scope {} options
      let inner := Given.ofFlags (options ++ inputs)
      requestOf formatSetting given inner (task? inner)) := by
  obtain ⟨program, task, shared, said⟩ := line
  rename_i flags before behind
  have added : Given.addAll scope {} flags =
      (Given.addAll scope {} options).map fun _ => Given.ofFlags flags := by
    rw [← shared]
    exact Given.addAll_eq (said.admitted shared admitted) fun _ _ => rfl
  have requested (given : Given) :
      requestOf formatSetting given (.ofFlags flags) (task? (.ofFlags flags)) =
        requestOf formatSetting given (.ofFlags (options ++ inputs))
          (task? (.ofFlags (options ++ inputs))) := by
    rw [reads.alike _ _ said, requestOf, requestOf, request?_congr fun switch _ => said switch]
  have reading : readArguments formatSetting (before ++ name :: behind) = .ofReading (do
      let (given, args) ← collect .program {} (before ++ name :: behind)
      readTask formatSetting given args) := rfl
  rw [reading, program.collect]
  cases Given.addAll .program {} outer with
  | error stop => rfl
  | ok given =>
    show Invocation.ofReading (do
      let (given, args) ← collect .program given (name :: behind)
      readTask formatSetting given args) = _
    rw [collect_task reads.ends]
    show Invocation.ofReading (readTask formatSetting given (name :: behind)) = _
    rw [reads.reading, task.collect_all, added]
    cases Given.addAll scope {} options with
    | error stop => rfl
    | ok _ => exact congrArg Invocation.ofReading (requested given)

end Line

end ColumnQuery.Command
