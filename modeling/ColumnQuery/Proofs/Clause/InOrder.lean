import ColumnQuery.Proofs.Clause.Chain

/-!
# Parts compiled in order

Some compilers go through the parts of an expression from the left and stop at the first that fails.
Then the fault of the whole is the fault of that part compiled on its own, and which parts there are
matters, not how they are put together.
-/
namespace ColumnQuery

variable {ε α β γ : Type}

/-- Some part fails with this fault, and all parts before it compile. -/
def FailsFirst (compile : α → Except ε β) (parts : List α) (fault : ε) : Prop :=
  ∃ before part behind, parts = before ++ part :: behind ∧ compile part = .error fault ∧
    ∀ earlier ∈ before, ∃ result, compile earlier = .ok result

/-- The fault of the first part that does not compile. -/
def faultAmong? (compile : α → Except ε β) (parts : List α) : Option ε :=
  parts.findSome? fun part => faultOf? (compile part)

/-- A single part has the fault that it has on its own. -/
theorem faultAmong?_singleton (compile : α → Except ε β) (part : α) :
    faultAmong? compile [part] = faultOf? (compile part) := by
  simp only [faultAmong?, List.findSome?_singleton]

/-- Further parts have a say only where the parts before them compile. -/
theorem faultAmong?_append (compile : α → Except ε β) (parts others : List α) :
    faultAmong? compile (parts ++ others) =
      (faultAmong? compile parts).or (faultAmong? compile others) :=
  List.findSome?_append

/-- No part has a fault exactly if each compiles. -/
theorem faultAmong?_eq_none {compile : α → Except ε β} {parts : List α} :
    faultAmong? compile parts = none ↔ ∀ part ∈ parts, ∃ result, compile part = .ok result := by
  simp only [faultAmong?, List.findSome?_eq_none_iff, faultOf?_eq_none]

/-- The fault among parts is that of the first that fails. -/
theorem faultAmong?_eq_some {compile : α → Except ε β} {parts : List α} {fault : ε} :
    faultAmong? compile parts = some fault ↔ FailsFirst compile parts fault := by
  simp only [faultAmong?, FailsFirst, List.findSome?_eq_some_iff, faultOf?_eq_some,
    faultOf?_eq_none]

/-- What is made of a result has the fault of the computation of it. -/
theorem faultOf?_make (first : Except ε α) (make : α → β) :
    faultOf? (do let value ← first; .ok (make value)) = faultOf? first := by
  cases first <;> rfl

/-- What is made of two results has the fault of the first computation, or of the second. -/
theorem faultOf?_combine (first : Except ε α) (second : Except ε β) (combine : α → β → γ) :
    faultOf? (do let value ← first; let value' ← second; .ok (combine value value')) =
      (faultOf? first).or (faultOf? second) := by
  cases first with
  | ok value => exact faultOf?_make second (combine value)
  | error fault => rfl

end ColumnQuery
