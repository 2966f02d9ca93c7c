import ColumnQuery.Command.Arguments

/-!
# Options of a command line

An option and its value are written in one of several ways (`Spells`). Arguments that give options
in a row (`Gives`) are collected as these options in the same order, each added to what was given
before it, and the first one that cannot be added ends the reading (`Gives.collect`).
-/
namespace ColumnQuery.Command

/-- An option with its value. -/
abbrev Flag := Switch × String

/-- The arguments that an option of a part is written as. A value in an argument of its own must not
look like an option. -/
inductive Spells (scope : Scope) : Flag → List String → Prop where
  | name {switch : Switch} {value : String} (known : switch ∈ scope.switches)
      (valued : switch.takesValue = true) (solid : isOption value = false) :
      Spells scope (switch, value) ["--" ++ switch.name, value]
  | nameEquals {switch : Switch} (value : String) (known : switch ∈ scope.switches)
      (valued : switch.takesValue = true) :
      Spells scope (switch, value) ["--" ++ switch.name ++ "=" ++ value]
  | nameAlone {switch : Switch} (known : switch ∈ scope.switches)
      (bare : switch.takesValue = false) : Spells scope (switch, "") ["--" ++ switch.name]
  | letter {switch : Switch} {letter : Char} {value : String} (known : switch ∈ scope.switches)
      (lettered : switch.letter? = some letter) (valued : switch.takesValue = true)
      (solid : isOption value = false) :
      Spells scope (switch, value) [String.ofList ['-', letter], value]
  | letterEquals {switch : Switch} {letter : Char} (value : String)
      (known : switch ∈ scope.switches) (lettered : switch.letter? = some letter)
      (valued : switch.takesValue = true) :
      Spells scope (switch, value) [String.ofList ('-' :: letter :: '=' :: value.toList)]
  | letterJoined {switch : Switch} {letter c : Char} {value : List Char}
      (known : switch ∈ scope.switches) (lettered : switch.letter? = some letter)
      (valued : switch.takesValue = true) (apart : c ≠ '=') :
      Spells scope (switch, String.ofList (c :: value))
        [String.ofList ('-' :: letter :: c :: value)]
  | letterAlone {switch : Switch} {letter : Char} (known : switch ∈ scope.switches)
      (lettered : switch.letter? = some letter) (bare : switch.takesValue = false) :
      Spells scope (switch, "") [String.ofList ['-', letter]]

/-- Arguments give options in a row. -/
inductive Gives (scope : Scope) : List Flag → List String → Prop where
  | nil : Gives scope [] []
  | cons {flag : Flag} {flags : List Flag} {args rest : List String}
      (first : Spells scope flag args) (others : Gives scope flags rest) :
      Gives scope (flag :: flags) (args ++ rest)

/-- What was given with further options, added one after another. -/
def Given.addAll (scope : Scope) (given : Given) (flags : List Flag) : Except Stop Given :=
  flags.foldlM (fun given flag => given.add scope flag.1 flag.2) given

/-- Options with values can be given whatever the values are. -/
theorem exists_gives {scope : Scope} {flags : List Flag}
    (known : ∀ flag ∈ flags, flag.1 ∈ scope.switches ∧ flag.1.takesValue = true) :
    ∃ args, Gives scope flags args := by
  induction flags with
  | nil => exact ⟨[], .nil⟩
  | cons flag flags ih =>
    obtain ⟨found, others⟩ := List.forall_mem_cons.mp known
    obtain ⟨args, gives⟩ := ih others
    exact ⟨_, .cons (.nameEquals flag.2 found.1 found.2) gives⟩

/-! ## Names and letters -/

variable {scope : Scope} {switch : Switch} {given : Given}

/-- An option is found by its name. -/
theorem Scope.named?_name (known : switch ∈ scope.switches) :
    scope.named? switch.name.toList = some switch := by
  revert known
  cases scope <;> cases switch <;> decide

/-- An option is found by its letter. -/
theorem Scope.lettered?_letter {letter : Char} (known : switch ∈ scope.switches)
    (lettered : switch.letter? = some letter) : scope.lettered? letter = some switch := by
  revert known
  cases switch <;> cases lettered <;> cases scope <;> decide

/-- A name holds no equals sign. -/
theorem Switch.name_ne_equals (switch : Switch) :
    ∀ c ∈ switch.name.toList, (c != '=') = true := by
  have everywhere : switch.name.toList.all (· != '=') = true := by
    cases switch <;> rfl
  exact List.all_eq_true.mp everywhere

/-- An argument of a name is more than two hyphens. -/
theorem Switch.hyphen_name_ne (switch : Switch) : '-' :: switch.name.toList ≠ ['-'] := by
  cases switch <;> decide

/-- The letter of an option is no hyphen. -/
theorem Switch.letter_ne_hyphen {letter : Char} (lettered : switch.letter? = some letter) :
    letter ≠ '-' := by
  cases switch <;> cases lettered <;> decide

/-- A name alone tells its option. -/
theorem Given.addNamed_name (known : switch ∈ scope.switches) :
    given.addNamed scope switch.name.toList =
      if switch.takesValue then .ok (given, some switch)
      else (given.add scope switch "").map (·, none) := by
  have whole : switch.name.toList.takeWhile (· != '=') = switch.name.toList := by
    rw [← List.append_nil switch.name.toList, List.takeWhile_append_of_pos switch.name_ne_equals]
    rfl
  simp only [addNamed, whole, Scope.named?_name known, List.drop_length]
  cases switch.takesValue <;> rfl

/-- A name with a value after an equals sign gives both. -/
theorem Given.addNamed_equals (value : String) (known : switch ∈ scope.switches)
    (valued : switch.takesValue = true) :
    given.addNamed scope (switch.name.toList ++ '=' :: value.toList) =
      (given.add scope switch value).map (·, none) := by
  have whole : (switch.name.toList ++ '=' :: value.toList).takeWhile (· != '=') =
      switch.name.toList := by
    rw [List.takeWhile_append_of_pos switch.name_ne_equals]
    exact List.append_nil _
  simp only [addNamed, whole, Scope.named?_name known, valued, List.drop_left,
    String.ofList_toList]

/-- A letter alone tells its option. -/
theorem Given.addLetters_letter {letter : Char} (known : switch ∈ scope.switches)
    (lettered : switch.letter? = some letter) :
    given.addLetters scope [letter] =
      if switch.takesValue then .ok (given, some switch)
      else (given.add scope switch "").map (·, none) := by
  simp only [addLetters, Scope.lettered?_letter known lettered]
  cases switch.takesValue
  · cases given.add scope switch "" <;> rfl
  · rfl

/-- A letter with a value after an equals sign gives both. -/
theorem Given.addLetters_equals {letter : Char} (value : String) (known : switch ∈ scope.switches)
    (lettered : switch.letter? = some letter) (valued : switch.takesValue = true) :
    given.addLetters scope (letter :: '=' :: value.toList) =
      (given.add scope switch value).map (·, none) := by
  simp only [addLetters, Scope.lettered?_letter known lettered, valued, if_true,
    String.ofList_toList]

/-- A letter with a value right after it gives both. -/
theorem Given.addLetters_joined {letter c : Char} {value : List Char}
    (known : switch ∈ scope.switches) (lettered : switch.letter? = some letter)
    (valued : switch.takesValue = true) (apart : c ≠ '=') :
    given.addLetters scope (letter :: c :: value) =
      (given.add scope switch (String.ofList (c :: value))).map (·, none) := by
  simp only [addLetters, Scope.lettered?_letter known lettered, valued, if_true]
  split
  · contradiction
  · rename_i equals
    exact absurd (List.cons.inj equals).1 apart
  · rfl

/-! ## One argument -/

/-- The name of a task does not look like an option. -/
theorem Scope.endsAt_of_hyphen {arg : String} {text : List Char}
    (written : arg.toList = '-' :: text) : scope.endsAt arg = false := by
  have apart : arg ∉ ["query", "index", "explain", "help"] := by
    intro listed
    have first (name : String) (listed : name ∈ ["query", "index", "explain", "help"]) :
        name.toList.head? ≠ some '-' := by
      revert name
      decide
    exact first arg listed (by rw [written]; rfl)
  rw [endsAt, List.contains_eq_mem, decide_eq_false apart, Bool.and_false]

/-- An argument with two hyphens has a name. -/
theorem Given.addArgument_named {arg : String} {text : List Char}
    (written : arg.toList = '-' :: '-' :: text) :
    Given.addArgument scope given arg = given.addNamed scope text := by
  simp only [addArgument, written]

/-- An argument with one hyphen has letters. -/
theorem Given.addArgument_lettered {arg : String} {letter : Char} {letters : List Char}
    (written : arg.toList = '-' :: letter :: letters) (apart : letter ≠ '-') :
    Given.addArgument scope given arg = given.addLetters scope (letter :: letters) := by
  rw [addArgument, written]
  split
  · rename_i hyphen
    exact absurd (List.cons.inj (List.cons.inj hyphen).2).1 apart
  · rename_i same
    rw [← (List.cons.inj same).2]
  · rename_i none
    exact absurd rfl (none letter letters)

/-- An argument that gives an option with its value is taken alone. -/
theorem collect_of_whole {arg : String} {text : List Char} {value : String} (rest : List String)
    (written : arg.toList = '-' :: text) (further : text ≠ ['-'])
    (taken : given.addArgument scope arg = (given.add scope switch value).map (·, none)) :
    collect scope given (arg :: rest) =
      given.add scope switch value >>= fun given => collect scope given rest := by
  have apart : arg ≠ "--" := by
    rintro rfl
    exact further (List.cons.inj written).2.symm
  rw [collect.eq_def]
  simp only [Scope.endsAt_of_hyphen written, Bool.false_eq_true, if_false, apart, taken]
  cases given.add scope switch value <;> rfl

/-- An argument that waits for a value is taken with the next one. -/
theorem collect_of_pending {arg : String} {text : List Char} {value : String} (rest : List String)
    (written : arg.toList = '-' :: text) (further : text ≠ ['-'])
    (taken : given.addArgument scope arg = .ok (given, some switch))
    (solid : isOption value = false) :
    collect scope given (arg :: value :: rest) =
      given.add scope switch value >>= fun given => collect scope given rest := by
  have apart : arg ≠ "--" := by
    rintro rfl
    exact further (List.cons.inj written).2.symm
  rw [collect.eq_def]
  simp only [Scope.endsAt_of_hyphen written, Bool.false_eq_true, if_false, apart, taken, solid]
  cases given.add scope switch value <;> rfl

/-- **However an option is written, it is collected with its value.** -/
theorem Spells.collect {flag : Flag} {args : List String} (spelled : Spells scope flag args)
    (given : Given) (rest : List String) :
    collect scope given (args ++ rest) =
      given.add scope flag.1 flag.2 >>= fun given => collect scope given rest := by
  cases spelled with
  | @name switch value known valued solid =>
    have written : ("--" ++ switch.name).toList = '-' :: '-' :: switch.name.toList :=
      String.toList_append
    refine collect_of_pending rest written switch.hyphen_name_ne ?_ solid
    rw [Given.addArgument_named written, Given.addNamed_name known, if_pos valued]
  | @nameEquals switch value known valued =>
    have written : ("--" ++ switch.name ++ "=" ++ value).toList =
        '-' :: '-' :: (switch.name.toList ++ '=' :: value.toList) := by
      simp only [String.toList_append, List.append_assoc]
      rfl
    refine collect_of_whole rest written (by simp) ?_
    rw [Given.addArgument_named written, Given.addNamed_equals value known valued]
  | @nameAlone switch known bare =>
    have written : ("--" ++ switch.name).toList = '-' :: '-' :: switch.name.toList :=
      String.toList_append
    refine collect_of_whole rest written switch.hyphen_name_ne ?_
    rw [Given.addArgument_named written, Given.addNamed_name known, if_neg (by simp [bare])]
  | letter known lettered valued solid =>
    have apart := Switch.letter_ne_hyphen lettered
    refine collect_of_pending rest String.toList_ofList (by simp [apart]) ?_ solid
    rw [Given.addArgument_lettered String.toList_ofList apart,
      Given.addLetters_letter known lettered, if_pos valued]
  | letterEquals value known lettered valued =>
    have apart := Switch.letter_ne_hyphen lettered
    refine collect_of_whole rest String.toList_ofList (by simp) ?_
    rw [Given.addArgument_lettered String.toList_ofList apart,
      Given.addLetters_equals value known lettered valued]
  | letterJoined known lettered valued further =>
    have apart := Switch.letter_ne_hyphen lettered
    refine collect_of_whole rest String.toList_ofList (by simp) ?_
    rw [Given.addArgument_lettered String.toList_ofList apart,
      Given.addLetters_joined known lettered valued further]
  | letterAlone known lettered bare =>
    have apart := Switch.letter_ne_hyphen lettered
    refine collect_of_whole rest String.toList_ofList (by simp [apart]) ?_
    rw [Given.addArgument_lettered String.toList_ofList apart,
      Given.addLetters_letter known lettered, if_neg (by simp [bare])]

/-- **Arguments that give options are collected as these options in order.** -/
theorem Gives.collect {flags : List Flag} {args : List String} (gives : Gives scope flags args)
    (given : Given) (rest : List String) :
    collect scope given (args ++ rest) =
      given.addAll scope flags >>= fun given => collect scope given rest := by
  induction gives generalizing given with
  | nil => rfl
  | @cons flag flags args after first others ih =>
    rw [List.append_assoc, first.collect, Given.addAll, List.foldlM_cons, bind_assoc]
    exact congrArg _ (funext fun given => ih given)

end ColumnQuery.Command
