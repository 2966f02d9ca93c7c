import Mathlib.Data.List.Induction
import ColumnQuery.Proofs.Clause.Fault
import ColumnQuery.Proofs.Clause.Indistinct
import ColumnQuery.Query

/-!
# A statement is what its chain says

A chain is a source with steps around it. Whatever wrappers stand between, the statement of a chain
has the fields of its selections in order and the clause of the conjunction of its conditions
(`Select.Tells`), and its fault is that of the first step whose argument does not compile.
Conditions and selections do not meet, so a statement does not depend on the order between them.
-/
namespace ColumnQuery

/-- The steps around the source of a chain, innermost first, each with what stands inside the
wrappers of its argument. Wrappers may stand at any place of the chain. -/
inductive Expr.Chain (name : String) : List (Step × Expr) → Expr → Prop where
  | source : Chain name [] (.source name)
  | call {steps : List (Step × Expr)} {target argument inner : Expr} {step : Step}
      (before : Chain name steps target) (same : argument.bare = inner.bare) :
      Chain name (steps ++ [(step, inner)]) (.call step target argument)
  | convert {steps : List (Step × Expr)} {inner : Expr} (inside : Chain name steps inner) :
      Chain name steps (.convert inner)
  | quote {steps : List (Step × Expr)} {inner : Expr} (inside : Chain name steps inner) :
      Chain name steps (.quote inner)
  | lambda {steps : List (Step × Expr)} {inner : Expr} (inside : Chain name steps inner) :
      Chain name steps (.lambda inner)

/-- The arguments of the steps of a kind in order. -/
def argumentsOf (kind : Step) (steps : List (Step × Expr)) : List Expr :=
  (steps.filter fun step => step.1 = kind).map (·.2)

/-- The conjunction of conditions from the left; of none there is none. -/
def conjunction : List Expr → Option Expr
  | [] => none
  | first :: others => some (others.foldl .and first)

/-- A statement is what a source and steps say: it has the fields of all selections in order, and
the clause of the conjunction of all conditions in order. -/
structure Select.Tells (name : String) (steps : List (Step × Expr)) (select : Select) : Prop where
  source : select.source = name
  fields : ∃ lists, (argumentsOf .project steps).mapM Expr.projectedFields = .ok lists ∧
    lists.flatten = select.fields
  predicate : (conjunction (argumentsOf .filter steps)).mapM Expr.predicate = .ok select.predicate

/-- The fault of a computation that fails. -/
def faultOf? {ε α : Type} : Except ε α → Option ε
  | .ok _ => none
  | .error fault => some fault

/-- The fault of an argument compiled on its own for a step. -/
def Step.fault? (step : Step) (argument : Expr) : Option Unsupported :=
  match step with
  | .filter => faultOf? argument.predicate
  | .project => faultOf? argument.projectedFields

/-- The fault of the first step that has one. -/
def firstFault? (steps : List (Step × Expr)) : Option Unsupported :=
  steps.findSome? fun step => step.1.fault? step.2

namespace Query

/-- The query with one more step. -/
def addStep (query : Query) : Step × Expr → Query
  | (.filter, predicate) => query.filter predicate
  | (.project, projection) => query.select projection

/-- The query of a source with steps in order. -/
def ofSteps (name : String) (steps : List (Step × Expr)) : Query :=
  steps.foldl addStep (source name)

/-- A query of steps is a chain of them. -/
theorem chain_ofSteps (name : String) (steps : List (Step × Expr)) :
    (ofSteps name steps).chain.Chain name steps := by
  induction steps using List.reverseRecOn with
  | nil => exact .source
  | append_singleton steps step ih =>
    have last : ofSteps name (steps ++ [step]) = (ofSteps name steps).addStep step := by
      simp only [ofSteps, List.foldl_append, List.foldl_cons, List.foldl_nil]
    rw [last]
    obtain ⟨kind, argument⟩ := step
    cases kind with
    | filter => exact .call ih rfl
    | project => exact .call ih rfl

end Query

/-! ## Faults -/

/-- A computation has a fault exactly if it fails with it. -/
theorem faultOf?_eq_some {ε α : Type} {result : Except ε α} {fault : ε} :
    faultOf? result = some fault ↔ result = .error fault := by
  cases result <;> simp [faultOf?]

/-- A computation has no fault exactly if it has a result. -/
theorem faultOf?_eq_none {ε α : Type} {result : Except ε α} :
    faultOf? result = none ↔ ∃ value, result = .ok value := by
  cases result <;> simp [faultOf?]

/-- Compilers do not ask for the wrappers around an expression. -/
theorem Expr.indistinct_bare (expr : Expr) : expr.bare.Indistinct expr := by
  induction expr with
  | convert inner ih => exact ih.trans (.symm (.convert inner))
  | quote inner ih => exact ih.trans (.symm (.quote inner))
  | lambda inner ih => exact ih.trans (.symm (.lambda inner))
  | _ => exact .refl _

/-- A step does not depend on the wrappers around its argument. -/
theorem Assembly.add_of_bare {built : Assembly} {step : Step} {argument inner : Expr}
    (same : argument.bare = inner.bare) : built.add step argument = built.add step inner := by
  have bare := argument.indistinct_bare
  rw [same] at bare
  have alike : argument.Indistinct inner := bare.symm.trans inner.indistinct_bare
  unfold add
  rw [alike.predicate, alike.projectedFields]

/-- A step fails exactly as its argument does on its own. -/
theorem Assembly.add_eq_error {built : Assembly} {step : Step} {argument : Expr}
    {fault : Unsupported} :
    built.add step argument = .error fault ↔ step.fault? argument = some fault := by
  cases step with
  | filter => simp [add, Step.fault?, bind_eq_error, faultOf?_eq_some]
  | project => simp [add, Step.fault?, bind_eq_error, faultOf?_eq_some]

/-- A chain fails exactly with the fault of the first step that has one. -/
theorem Expr.Chain.assemble_eq_error {name : String} {steps : List (Step × Expr)} {expr : Expr}
    (chain : expr.Chain name steps) {fault : Unsupported} :
    assemble {} expr = .error fault ↔ firstFault? steps = some fault := by
  induction chain generalizing fault with
  | source => simp [assemble, firstFault?]
  | @call steps target argument inner step before same ih =>
    -- The argument of a step is looked at only if no step before it has a fault.
    have reached : (∃ built, assemble {} target = .ok built) ↔ firstFault? steps = none := by
      rw [Option.eq_none_iff_forall_ne_some, ← faultOf?_eq_none, Option.eq_none_iff_forall_ne_some]
      simp only [ne_eq, faultOf?_eq_some, ih]
    have last : firstFault? (steps ++ [(step, inner)]) =
        (firstFault? steps).or (step.fault? inner) := by
      simp [firstFault?, List.findSome?_append]
    rw [assemble, bind_eq_error, ih, last, Option.or_eq_some_iff, ← reached]
    simp only [Assembly.add_of_bare same, Assembly.add_eq_error, exists_and_right]
  | convert inside ih | quote inside ih | lambda inside ih => exact ih

/-! ## Results -/

/-- A text is not empty if something fixed stands at its end. -/
theorem append_ne_empty {after : String} (fixed : after ≠ "") (before : String) :
    before ++ after ≠ "" := by
  intro same
  exact fixed (String.append_eq_empty_iff.mp same).2

/-- The clause of a comparison is not empty. -/
theorem Comparison.clause_ne_empty (op : Comparison) (field : String) (value : Value) :
    op.clause field value ≠ "" := by
  unfold clause
  split
  · exact append_ne_empty (by decide) _
  · exact append_ne_empty (by decide) _
  · intro same
    exact append_ne_empty (by decide) _ (String.append_eq_empty_iff.mp same).1

/-- The clause of a predicate is not empty. -/
theorem Expr.predicate_ne_empty {expr : Expr} {text : String}
    (compiled : expr.predicate = .ok text) : text ≠ "" := by
  induction expr with
  | compare op left right =>
    obtain ⟨field, value, _, _, rfl⟩ := predicate_compare_eq_ok.mp compiled
    exact op.clause_ne_empty field value
  | logical op left right =>
    obtain ⟨_, _, _, _, rfl⟩ := predicate_logical_eq_ok.mp compiled
    exact append_ne_empty (by decide) _
  | not operand =>
    obtain ⟨_, _, rfl⟩ := predicate_not_eq_ok.mp compiled
    exact append_ne_empty (by decide) _
  | membership column values =>
    obtain ⟨_, _, _, _, rfl⟩ := predicate_membership_eq_ok.mp compiled
    exact append_ne_empty (by decide) _
  | convert inner ih | quote inner ih | lambda inner ih => exact ih compiled
  | _ => cases compiled

/-- A single item is compiled by compiling it. -/
theorem mapM_singleton_eq_ok {ε α β : Type} {f : α → Except ε β} {item : α} {found : List β} :
    [item].mapM f = .ok found ↔ ∃ value, f item = .ok value ∧ [value] = found := by
  simp only [List.mapM_cons, List.mapM_nil, bind_eq_ok, pure, Except.pure, Except.ok.injEq,
    exists_eq_left']

/-- Two lists of items are compiled by compiling one after the other. -/
theorem mapM_append_eq_ok {ε α β : Type} {f : α → Except ε β} {items others : List α}
    {found : List β} :
    (items ++ others).mapM f = .ok found ↔
      ∃ before behind, items.mapM f = .ok before ∧ others.mapM f = .ok behind ∧
        before ++ behind = found := by
  simp only [List.mapM_append, bind_eq_ok, pure, Except.pure, Except.ok.injEq, exists_and_left]

/-- A list with one more item at its end is compiled by compiling both. -/
theorem mapM_concat_eq_ok {ε α β : Type} {f : α → Except ε β} {items : List α} {item : α}
    {found : List β} :
    (items ++ [item]).mapM f = .ok found ↔
      ∃ before last, items.mapM f = .ok before ∧ f item = .ok last ∧ before ++ [last] = found := by
  rw [mapM_append_eq_ok]
  constructor
  · rintro ⟨before, _, mapped, single, rfl⟩
    obtain ⟨last, made, rfl⟩ := mapM_singleton_eq_ok.mp single
    exact ⟨before, last, mapped, made, rfl⟩
  · rintro ⟨before, last, mapped, made, rfl⟩
    exact ⟨before, [last], mapped, mapM_singleton_eq_ok.mpr ⟨last, made, rfl⟩, rfl⟩

/-- One more condition is conjoined with those before. -/
theorem conjunction_concat (conditions : List Expr) (last : Expr) :
    conjunction (conditions ++ [last]) =
      some ((conjunction conditions).elim last fun before => before.and last) := by
  cases conditions with
  | nil => rfl
  | cons first others =>
    simp only [List.cons_append, conjunction, List.foldl_append, List.foldl_cons, List.foldl_nil,
      Option.elim]

/-- An expression that is there compiles to a clause that is there. -/
theorem mapM_some_eq_ok {expr : Expr} {found : Option String} :
    (some expr).mapM Expr.predicate = .ok found ↔
      ∃ clause, expr.predicate = .ok clause ∧ some clause = found := by
  rw [Option.mapM_some]
  cases expr.predicate with
  | ok clause => simp [Functor.map, Except.map]
  | error fault => simp [Functor.map, Except.map]

/-- A clause is never passed over where another is added to it, since it is not empty. -/
theorem conjoin_predicate {expr : Expr} {clause : String} (compiled : expr.predicate = .ok clause)
    (added : String) :
    conjoin (some clause) added =
      "(" ++ clause ++ " " ++ Connective.and.keyword ++ " " ++ added ++ ")" := by
  have word : " AND " = " " ++ (Connective.and.keyword ++ " ") := by decide
  rw [conjoin, if_neg (Expr.predicate_ne_empty compiled), word]
  simp only [String.append_assoc]

/-- The clause with one more condition is that of the others with its own added. -/
theorem mapM_conjunction_concat {conditions : List Expr} {last : Expr} {found : Option String} :
    (conjunction (conditions ++ [last])).mapM Expr.predicate = .ok found ↔
      ∃ before clause, (conjunction conditions).mapM Expr.predicate = .ok before ∧
        last.predicate = .ok clause ∧ some (conjoin before clause) = found := by
  rw [conjunction_concat, mapM_some_eq_ok]
  cases conjunction conditions with
  | none =>
    simp only [Option.elim, Option.mapM_none, pure, Except.pure, Except.ok.injEq]
    constructor
    · rintro ⟨clause, compiled, rfl⟩
      exact ⟨none, clause, rfl, compiled, rfl⟩
    · rintro ⟨_, clause, rfl, compiled, rfl⟩
      exact ⟨clause, compiled, rfl⟩
  | some joined =>
    simp only [Option.elim, mapM_some_eq_ok, Expr.and, Expr.predicate_logical_eq_ok]
    constructor
    · rintro ⟨_, ⟨first, second, compiled, compiled', rfl⟩, rfl⟩
      have conjoined := conjoin_predicate compiled second
      exact ⟨some first, second, ⟨first, compiled, rfl⟩, compiled', by rw [conjoined]⟩
    · rintro ⟨_, second, ⟨first, compiled, rfl⟩, compiled', rfl⟩
      exact ⟨_, ⟨first, second, compiled, compiled', rfl⟩, by rw [conjoin_predicate compiled]⟩

/-- A finished statement as it was assembled. -/
def Select.assembled (select : Select) : Assembly :=
  ⟨some select.source, select.fields, select.predicate⟩

/-- What is assembled is finished as a statement exactly if it was assembled for it. -/
theorem Assembly.finish_eq_ok {built : Assembly} {select : Select} :
    built.finish = .ok select ↔ built = select.assembled := by
  obtain ⟨source, fields, predicate⟩ := built
  obtain ⟨name, names, clause⟩ := select
  cases source <;> simp [finish, Select.assembled]

/-- A further step adds its argument to those of its kind. -/
theorem argumentsOf_concat (kind step : Step) (steps : List (Step × Expr)) (argument : Expr) :
    argumentsOf kind (steps ++ [(step, argument)]) =
      argumentsOf kind steps ++ if step = kind then [argument] else [] := by
  by_cases same : step = kind <;> simp [argumentsOf, List.filter_append, same]

/-- The arguments of a kind are those of its steps. -/
theorem mem_argumentsOf {kind : Step} {steps : List (Step × Expr)} {argument : Expr} :
    argument ∈ argumentsOf kind steps ↔ (kind, argument) ∈ steps := by
  simp only [argumentsOf, List.mem_map, List.mem_filter, decide_eq_true_eq]
  constructor
  · rintro ⟨⟨_, _⟩, ⟨mem, rfl⟩, rfl⟩
    exact mem
  · intro mem
    exact ⟨_, ⟨mem, rfl⟩, rfl⟩

/-- The fields with one more selection are those of the others with its own added. -/
theorem flatten_projectedFields_concat {selections : List Expr} {last : Expr}
    {fields : List String} :
    (∃ lists, (selections ++ [last]).mapM Expr.projectedFields = .ok lists ∧
        lists.flatten = fields) ↔
      ∃ before names, (∃ lists, selections.mapM Expr.projectedFields = .ok lists ∧
        lists.flatten = before) ∧ last.projectedFields = .ok names ∧ before ++ names = fields := by
  simp only [mapM_concat_eq_ok]
  constructor
  · rintro ⟨_, ⟨lists, names, compiled, compiled', rfl⟩, rfl⟩
    exact ⟨lists.flatten, names, ⟨lists, compiled, rfl⟩, compiled', by simp⟩
  · rintro ⟨_, names, ⟨lists, compiled, rfl⟩, compiled', rfl⟩
    exact ⟨lists ++ [names], ⟨lists, names, compiled, compiled', rfl⟩, by simp⟩

/-- One more step makes a statement that tells it too, and nothing else makes one. -/
theorem Select.tells_concat {name : String} {steps : List (Step × Expr)} {step : Step}
    {argument : Expr} {next : Select} :
    next.Tells name (steps ++ [(step, argument)]) ↔
      ∃ select : Select, select.Tells name steps ∧
        select.assembled.add step argument = .ok next.assembled := by
  obtain ⟨source, fields, predicate⟩ := next
  cases step with
  | filter =>
    simp only [Assembly.add, bind_eq_ok, Except.ok.injEq]
    constructor
    · rintro ⟨rfl, selected, conditions⟩
      rw [argumentsOf_concat, if_neg (by decide), List.append_nil] at selected
      rw [argumentsOf_concat, if_pos rfl] at conditions
      obtain ⟨before, clause, earlier, compiled, rfl⟩ := mapM_conjunction_concat.mp conditions
      exact ⟨⟨source, fields, before⟩, ⟨rfl, selected, earlier⟩, clause, compiled, rfl⟩
    · rintro ⟨⟨_, _, before⟩, ⟨rfl, selected, conditions⟩, clause, compiled, same⟩
      cases same
      refine ⟨rfl, ?_, ?_⟩
      · rw [argumentsOf_concat, if_neg (by decide), List.append_nil]
        exact selected
      · rw [argumentsOf_concat, if_pos rfl]
        exact mapM_conjunction_concat.mpr ⟨before, clause, conditions, compiled, rfl⟩
  | project =>
    simp only [Assembly.add, bind_eq_ok, Except.ok.injEq]
    constructor
    · rintro ⟨rfl, selected, conditions⟩
      rw [argumentsOf_concat, if_pos rfl] at selected
      rw [argumentsOf_concat, if_neg (by decide), List.append_nil] at conditions
      obtain ⟨before, names, earlier, compiled, rfl⟩ := flatten_projectedFields_concat.mp selected
      exact ⟨⟨source, before, predicate⟩, ⟨rfl, earlier, conditions⟩, names, compiled, rfl⟩
    · rintro ⟨⟨_, before, _⟩, ⟨rfl, selected, conditions⟩, names, compiled, same⟩
      cases same
      refine ⟨rfl, ?_, ?_⟩
      · rw [argumentsOf_concat, if_pos rfl]
        exact flatten_projectedFields_concat.mpr ⟨before, names, selected, compiled, rfl⟩
      · rw [argumentsOf_concat, if_neg (by decide), List.append_nil]
        exact conditions

/-- Whatever is assembled with a source is assembled for a statement. -/
theorem Assembly.exists_assembled {built : Assembly} {name : String}
    (found : built.source = some name) : ∃ select : Select, select.assembled = built := by
  obtain ⟨source, fields, predicate⟩ := built
  cases found
  exact ⟨⟨name, fields, predicate⟩, rfl⟩

/-- A chain assembles exactly what its steps tell. -/
theorem Expr.Chain.assemble_eq_ok {name : String} {steps : List (Step × Expr)} {expr : Expr}
    (chain : expr.Chain name steps) {select : Select} :
    assemble {} expr = .ok select.assembled ↔ select.Tells name steps := by
  induction chain generalizing select with
  | source =>
    obtain ⟨source, fields, predicate⟩ := select
    constructor
    · intro assembled
      cases assembled
      exact ⟨rfl, ⟨[], rfl, rfl⟩, rfl⟩
    · rintro ⟨rfl, ⟨_, none, rfl⟩, none'⟩
      cases none
      cases none'
      rfl
  | @call steps target argument inner step before same ih =>
    rw [assemble, bind_eq_ok, Select.tells_concat]
    constructor
    · rintro ⟨built, assembled, added⟩
      obtain ⟨_, found⟩ := source_of_assemble assembled
      obtain ⟨previous, rfl⟩ := Assembly.exists_assembled found
      exact ⟨previous, ih.mp assembled, (Assembly.add_of_bare same).symm.trans added⟩
    · rintro ⟨previous, tells, added⟩
      exact ⟨previous.assembled, ih.mpr tells, (Assembly.add_of_bare same).trans added⟩
  | convert inside ih | quote inside ih | lambda inside ih => exact ih

/-- A statement is compiled exactly if it is assembled. -/
theorem Expr.select_eq_ok {expr : Expr} {select : Select} :
    expr.select = .ok select ↔ assemble {} expr = .ok select.assembled := by
  unfold Expr.select
  simp only [bind_eq_ok, Assembly.finish_eq_ok, exists_eq_right]

/-- A chain is compiled exactly to what its steps tell. -/
theorem Expr.Chain.select_eq_ok {name : String} {steps : List (Step × Expr)} {expr : Expr}
    (chain : expr.Chain name steps) {select : Select} :
    expr.select = .ok select ↔ select.Tells name steps :=
  Expr.select_eq_ok.trans chain.assemble_eq_ok

/-- A chain fails exactly with the fault of the first step that has one. -/
theorem Expr.Chain.select_eq_error {name : String} {steps : List (Step × Expr)} {expr : Expr}
    (chain : expr.Chain name steps) {fault : Unsupported} :
    expr.select = .error fault ↔ firstFault? steps = some fault := by
  rw [← chain.assemble_eq_error, Expr.select, bind_eq_error]
  constructor
  · rintro (fails | ⟨built, assembled, fails⟩)
    · exact fails
    · obtain ⟨_, found⟩ := source_of_assemble assembled
      rw [Assembly.finish, found] at fails
      cases fails
  · exact .inl

/-- No step has a fault exactly if every condition and every selection compiles. -/
theorem firstFault?_eq_none {steps : List (Step × Expr)} :
    firstFault? steps = none ↔
      (∀ condition ∈ argumentsOf .filter steps, ∃ clause, condition.predicate = .ok clause) ∧
        ∀ selection ∈ argumentsOf .project steps,
          ∃ names, selection.projectedFields = .ok names := by
  simp only [firstFault?, List.findSome?_eq_none_iff, ← faultOf?_eq_none, mem_argumentsOf]
  constructor
  · intro faultless
    exact ⟨fun _ mem => faultless _ mem, fun _ mem => faultless _ mem⟩
  · rintro ⟨conditions, selections⟩ ⟨kind, argument⟩ mem
    cases kind with
    | filter => exact conditions argument mem
    | project => exact selections argument mem

/-- Statements with the same conditions and the same selections tell the same, whatever stands
between them. -/
theorem Select.Tells.interleaved {name : String} {steps others : List (Step × Expr)}
    {select : Select} (tells : select.Tells name steps)
    (same : ∀ kind, argumentsOf kind others = argumentsOf kind steps) :
    select.Tells name others where
  source := tells.source
  fields := by
    rw [same]
    exact tells.fields
  predicate := by
    rw [same]
    exact tells.predicate

/-- A chain is compiled exactly if all its conditions and selections are. -/
theorem Expr.Chain.exists_select_iff {name : String} {steps : List (Step × Expr)} {expr : Expr}
    (chain : expr.Chain name steps) :
    (∃ select, expr.select = .ok select) ↔
      (∀ condition ∈ argumentsOf .filter steps, ∃ clause, condition.predicate = .ok clause) ∧
        ∀ selection ∈ argumentsOf .project steps,
          ∃ names, selection.projectedFields = .ok names := by
  rw [← firstFault?_eq_none, ← faultOf?_eq_none, Option.eq_none_iff_forall_ne_some,
    Option.eq_none_iff_forall_ne_some]
  simp only [ne_eq, faultOf?_eq_some, chain.select_eq_error]

/-- **A query means what its chain says.** A query of steps is a chain of them, and a chain is
compiled exactly if all its conditions and selections are. Then the statement tells the steps and
nothing else; otherwise the fault is that of the first step that has one. The order between
conditions and selections does not matter, and no expression is ever told to lack a source. -/
theorem Query.compile_chain (name : String) (steps : List (Step × Expr)) :
    (ofSteps name steps).chain.Chain name steps ∧
    (∀ query : Query, query.chain.Chain name steps →
      ((∃ select, query.compile = .ok select) ↔
        (∀ condition ∈ argumentsOf .filter steps, ∃ clause, condition.predicate = .ok clause) ∧
          ∀ selection ∈ argumentsOf .project steps,
            ∃ names, selection.projectedFields = .ok names) ∧
      (∀ select, query.compile = .ok select ↔ select.Tells name steps) ∧
      (∀ fault, query.compile = .error fault ↔ firstFault? steps = some fault) ∧
      ∀ (others : List (Step × Expr)) (other : Query), other.chain.Chain name others →
        (∀ kind, argumentsOf kind others = argumentsOf kind steps) →
          ∀ select, other.compile = .ok select ↔ query.compile = .ok select) ∧
    ∀ (expr : Expr) (fault : Unsupported), expr.select = .error fault →
      fault ≠ .noSource ∧ fault.detail ≠ Unsupported.noSource.detail := by
  refine ⟨chain_ofSteps name steps, fun query chain => ⟨?_, ?_, ?_, ?_⟩, ?_⟩
  · exact chain.exists_select_iff
  · exact fun select => chain.select_eq_ok
  · exact fun fault => chain.select_eq_error
  · intro others other chain' same select
    calc other.compile = .ok select
      _ ↔ select.Tells name others := chain'.select_eq_ok
      _ ↔ select.Tells name steps :=
        ⟨fun tells => tells.interleaved fun kind => (same kind).symm, fun tells =>
          tells.interleaved same⟩
      _ ↔ query.compile = .ok select := chain.select_eq_ok.symm
  · intro expr fault fails
    have about : fault.isAboutPart = true := expr.failsInPart_select fault fails
    refine ⟨?_, Unsupported.detail_ne_noSource about⟩
    rintro rfl
    cases about

/-- Two conditions on either side of a selection are conjoined in order, with wrappers around the
source, an argument and the whole chain. -/
theorem Query.compile_chain_wrapped :
    Query.compile ⟨.quote <| .call .filter (.call .project (.call .filter
      (.convert (.source "Users")) (.lambda (.compareField "Id" .eq (.text "a"))))
      (.convert (.quote (.fields ["Age"])))) (.compareField "Open" .ne (.bool true))⟩ =
      .ok ⟨"Users", ["Age"], some "(Id = 'a' AND Open != true)"⟩ := by
  have chain : (Expr.quote <| .call .filter (.call .project (.call .filter
      (.convert (.source "Users")) (.lambda (.compareField "Id" .eq (.text "a"))))
      (.convert (.quote (.fields ["Age"])))) (.compareField "Open" .ne (.bool true))).Chain "Users"
      ([] ++ [(.filter, .compareField "Id" .eq (.text "a"))] ++ [(.project, .fields ["Age"])] ++
        [(.filter, .compareField "Open" .ne (.bool true))]) :=
    .quote (.call (.call (.call (.convert .source) rfl) rfl) rfl)
  refine (((compile_chain "Users" _).2.1 _ chain).2.1 _).mpr ?_
  exact ⟨rfl, ⟨[["Age"]], rfl, rfl⟩, by decide +kernel⟩

end ColumnQuery
