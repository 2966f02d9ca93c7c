import ColumnQuery.Proofs.Record.LifeCycle

/-!
# What a removal leaves

Stored columns may share a name. The columns of one name are then a pile: a row answers the value
on top, setting replaces it and removing takes it away, and no call reaches what lies below. A
removed column is gone exactly if nothing lay below it. Calls never pile columns up
(`length_held_after`), so this can only fail for a name that was stored more than once.
-/
namespace ColumnQuery

namespace Column

/-- The values of the columns of a name in order, the first of them on top. -/
def held (name : String) (columns : List Column) : List Value :=
  (columns.filter fun column => column.name = name).map (·.value)

variable {name : String} {columns before after : List Column} {value : Value}

/-- The values held by columns in a row. -/
theorem held_append (name : String) (before after : List Column) :
    held name (before ++ after) = held name before ++ held name after := by
  unfold held
  rw [List.filter_append, List.map_append]

/-- A column holds a value of its own name. -/
theorem held_cons_self (name : String) (value : Value) (columns : List Column) :
    held name (⟨name, value⟩ :: columns) = value :: held name columns := by
  simp [held]

/-- A column holds no value of another name. -/
theorem held_cons_of_ne {own : String} (apart : own ≠ name) (value : Value)
    (columns : List Column) : held name (⟨own, value⟩ :: columns) = held name columns := by
  simp [held, apart]

/-- A name that no column has holds nothing. -/
theorem Absent.held (absent : Absent name columns) : held name columns = [] := by
  unfold Column.held
  rw [List.map_eq_nil_iff, List.filter_eq_nil_iff]
  intro column member
  simpa using absent column member

/-- The first column of a name lies on top. -/
theorem First.held (first : First name columns before value after) :
    held name columns = value :: held name after := by
  rw [first.whole, held_append, first.absent.held, held_cons_self, List.nil_append]

end Column

namespace Record

open Column

/-- What a call makes of the values of a name. -/
def Call.onHeld (name : String) : Call → List Value → List Value
  | .set own value, values => if own = name then value :: values.tail else values
  | .remove own, values => if own = name then values.tail else values

/-- A call changes the top of its own pile and no other pile. -/
theorem Turn.held {record next : Record} {call : Call} {answer : Except Error Mutation}
    (turn : record.Turn call answer next) (name : String) :
    held name next.columns = call.onHeld name (held name record.columns) := by
  cases turn with
  | @added own value absent =>
    show Column.held name (record.columns ++ [⟨own, value⟩]) = _
    rw [held_append, Call.onHeld]
    by_cases same : own = name
    · subst same
      rw [if_pos rfl, absent.held, held_cons_self]
      rfl
    · rw [if_neg same, held_cons_of_ne same]
      exact List.append_nil _
  | @changed own old value before after first =>
    show Column.held name (before ++ ⟨own, value⟩ :: after) = _
    rw [Call.onHeld, first.whole, held_append, held_append]
    by_cases same : own = name
    · subst same
      rw [if_pos rfl, first.absent.held, held_cons_self, held_cons_self]
      rfl
    · rw [if_neg same, held_cons_of_ne same, held_cons_of_ne same]
  | @removed own value before after first =>
    show Column.held name (before ++ after) = _
    rw [Call.onHeld, first.whole, held_append, held_append]
    by_cases same : own = name
    · subst same
      rw [if_pos rfl, first.absent.held, held_cons_self]
      rfl
    · rw [if_neg same, held_cons_of_ne same]
  | @missing own absent =>
    rw [Call.onHeld]
    by_cases same : own = name
    · subst same
      rw [if_pos rfl, absent.held]
      rfl
    · rw [if_neg same]

/-- A run changes a pile call by call. -/
theorem held_after (record : Record) (calls : List Call) (name : String) :
    held name (record.after calls).columns =
      calls.foldl (fun values call => call.onHeld name values) (held name record.columns) := by
  induction calls generalizing record with
  | nil => rfl
  | cons call calls ih =>
    have first := (record.turn_perform call).held name
    have others := ih (record.perform call).2
    rw [after, others, first, List.foldl_cons]

/-- A call puts a column on an empty place only. -/
theorem Call.length_onHeld (call : Call) (name : String) (values : List Value) :
    (call.onHeld name values).length ≤ max 1 values.length := by
  have shorter : values.tail.length = values.length - 1 := List.length_tail
  cases call with
  | set own value =>
    by_cases same : own = name
    · rw [onHeld, if_pos same, List.length_cons]
      omega
    · rw [onHeld, if_neg same]
      exact Nat.le_max_right 1 values.length
  | remove own =>
    by_cases same : own = name
    · rw [onHeld, if_pos same]
      omega
    · rw [onHeld, if_neg same]
      exact Nat.le_max_right 1 values.length

/-- No pile gets higher than it was stored, if something was stored. -/
theorem length_held_after (record : Record) (calls : List Call) (name : String) :
    (held name (record.after calls).columns).length ≤ max 1 (held name record.columns).length := by
  rw [held_after]
  generalize held name record.columns = values
  induction calls generalizing values with
  | nil => exact Nat.le_max_right 1 values.length
  | cons call calls ih =>
    have step := call.length_onHeld name values
    have others := ih (call.onHeld name values)
    rw [List.foldl_cons]
    omega

/-- A removal that succeeds tells the value on top and takes it away. -/
theorem held_of_remove {record next : Record} {name : String} {mutation : Mutation}
    (removes : record.remove name = (.ok mutation, next)) :
    held name record.columns = mutation.value :: held name next.columns ∧
      next.family = record.family := by
  have performed : record.perform (.remove name) = (.ok mutation, next) := removes
  have turn := record.turn_perform (.remove name)
  rw [performed] at turn
  have left := turn.held name
  have frame := turn.frame
  refine ⟨?_, frame.2.1⟩
  cases turn with
  | @removed name value before after first =>
    rw [Call.onHeld, if_pos rfl, first.held, List.tail_cons] at left
    rw [first.held, left]

/-- A name that holds nothing is not found, cannot be removed and is added when it is set; any other
name is found, can be removed and is changed when it is set. -/
theorem gone_iff (record : Record) (name : String) :
    (record.get name = .error (.columnNotFound record.family name) ↔
      held name record.columns = []) ∧
    ((record.remove name).1 = .error (.columnNotFound record.family name) ↔
      held name record.columns = []) ∧
    ∀ value, (record.set name value).1 = ⟨.added, name, value⟩ ↔
      held name record.columns = [] := by
  cases absent_or_first name record.columns with
  | inl absent =>
    have nothing := absent.held
    have missed : record.get name = .error (.columnNotFound record.family name) := by
      rw [get_eq, absent.find?, Option.elim_none]
    have refused : (record.remove name).1 = .error (.columnNotFound record.family name) := by
      rw [remove_absent absent]
    refine ⟨iff_of_true missed nothing, iff_of_true refused nothing, fun value => ?_⟩
    have added : (record.set name value).1 = ⟨.added, name, value⟩ := by
      rw [set, absent.replace? value]
      rfl
    exact iff_of_true added nothing
  | inr present =>
    obtain ⟨before, old, after, first⟩ := present
    have something : held name record.columns ≠ [] := by
      rw [first.held]
      exact List.cons_ne_nil _ _
    have found : record.get name ≠ .error (.columnNotFound record.family name) := by
      rw [get_eq, first.find?, Option.elim_some]
      intro impossible
      contradiction
    have taken : (record.remove name).1 ≠ .error (.columnNotFound record.family name) := by
      rw [remove_first first]
      intro impossible
      contradiction
    refine ⟨iff_of_false found something, iff_of_false taken something, fun value => ?_⟩
    have changed : (record.set name value).1 ≠ ⟨.added, name, value⟩ := by
      rw [set, first.replace? value]
      intro impossible
      have kinds := congrArg Mutation.kind impossible
      contradiction
    exact iff_of_false changed something

/-- **A removal uncovers the next column of its name.** Whatever columns were stored, none as in an
empty row or several of one name, and whatever was called since: a removal that succeeds takes the
first value of its name and leaves the others. The name is then not found, not removed again and
added when it is set, each exactly if no other value is left; and none is left of a name that was
stored at most once. -/
theorem remove_uncovers (key : Value) (family : String) (columns : List Column)
    (calls : List Call) (name : String) {mutation : Mutation} {next : Record}
    (removes : ((stored key family columns).after calls).remove name = (.ok mutation, next)) :
    held name ((stored key family columns).after calls).columns =
      mutation.value :: held name next.columns ∧
    (next.get name = .error (.columnNotFound family name) ↔ held name next.columns = []) ∧
    ((next.remove name).1 = .error (.columnNotFound family name) ↔ held name next.columns = []) ∧
    (∀ value, (next.set name value).1 = ⟨.added, name, value⟩ ↔ held name next.columns = []) ∧
    ((held name columns).length ≤ 1 → held name next.columns = []) := by
  have taken := held_of_remove removes
  have kept : next.family = family :=
    taken.2.trans ((stored key family columns).frame_after calls).2.1
  have gone := next.gone_iff name
  rw [kept] at gone
  refine ⟨taken.1, gone.1, gone.2.1, gone.2.2, fun once => ?_⟩
  have height : (held name ((stored key family columns).after calls).columns).length ≤
      max 1 (held name columns).length := (stored key family columns).length_held_after calls name
  rw [taken.1, List.length_cons] at height
  apply List.eq_nil_of_length_eq_zero
  omega

/-- A row with two stored columns of one name, one of another between them. -/
def twiceStored : Record :=
  .stored (.text "k") "Users" [⟨"Age", .bool true⟩, ⟨"Name", .null⟩, ⟨"Age", .bool false⟩]

/-- A name that was set is gone after one removal, although another one was stored twice. -/
theorem remove_uncovers_none :
    let calls := [Call.set "City" .null, .remove "Age", .set "City" (.text "Caprica")]
    ∃ next, (twiceStored.after calls).remove "City" =
        (.ok ⟨.removed, "City", .text "Caprica"⟩, next) ∧
      next.get "City" = .error (.columnNotFound "Users" "City") ∧
        ∀ value, (next.set "City" value).1 = ⟨.added, "City", value⟩ := by
  intro calls
  have removes : (twiceStored.after calls).remove "City" = (.ok _, _) := rfl
  have laws := remove_uncovers _ _ _ calls "City" removes
  have none := laws.2.2.2.2 (by decide)
  exact ⟨_, removes, laws.2.1.mpr none, fun value => (laws.2.2.2.1 value).mpr none⟩

/-- A name stored twice is still found after a removal, can be removed again, and is changed and not
added when it is set. -/
theorem found_after_removal :
    ∃ next, twiceStored.remove "Age" = (.ok ⟨.removed, "Age", .bool true⟩, next) ∧
      next.get "Age" = .ok (.bool false) ∧
        (∃ last, next.remove "Age" = (.ok ⟨.removed, "Age", .bool false⟩, last)) ∧
          (next.set "Age" .null).1 = ⟨.changed, "Age", .null⟩ := by
  exact ⟨_, rfl, rfl, ⟨_, rfl⟩, rfl⟩

end Record

end ColumnQuery
