import ColumnQuery.Proofs.Clause.ReadBack

/-!
# Shown predicates read back

A predicate is shown fully bracketed, so what is shown is a phrase of the grammar with the same
tree: each bracket is a group, and no two operators stand side by side. `Expr.IsOperand` and
`Expr.IsPredicate` say which trees are shown in the words of the grammar. Every node with an
operator costs one level of depth, a bracket or a sign; sets and their items cost none.
-/
namespace ColumnQuery.Expr

open Grammar Phrase

/-- The operands that are shown as operands of the grammar: values whose literals are read back
without a sign, fields named by identifiers, and what is computed from them. -/
inductive IsOperand : Expr → Prop where
  | constant {value : Value} (plain : value.Plain) (unsigned : value.minusSigns = 0) :
      IsOperand (constant value)
  | field {name : String} (whole : identifier name.toList = .done name []) :
      IsOperand (field name)
  | negate {operand : Expr} (inside : IsOperand operand) : IsOperand (negate operand)
  | arithmetic {op : Arithmetic} {left right : Expr} (first : IsOperand left)
      (second : IsOperand right) : IsOperand (arithmetic op left right)

/-- The predicates that are shown as predicates of the grammar: operands compared, fields that are
members of sets of operands, and what is combined from them. -/
inductive IsPredicate : Expr → Prop where
  | compare {op : Comparison} {left right : Expr} (first : IsOperand left)
      (second : IsOperand right) : IsPredicate (compare op left right)
  | logical {op : Connective} {left right : Expr} (first : IsPredicate left)
      (second : IsPredicate right) : IsPredicate (logical op left right)
  | not {operand : Expr} (inside : IsPredicate operand) : IsPredicate (not operand)
  | membership {name : String} {items : List Expr}
      (whole : identifier name.toList = .done name []) (all : ∀ item ∈ items, IsOperand item) :
      IsPredicate (membership (field name) (list items))

mutual

/-- The greatest number of comparisons, connectives, operations, denials and signs on a way into an
expression. -/
def levels : Expr → Nat
  | compare _ left right => max (levels left) (levels right) + 1
  | logical _ left right => max (levels left) (levels right) + 1
  | arithmetic _ left right => max (levels left) (levels right) + 1
  | not operand => levels operand + 1
  | negate operand => levels operand + 1
  | membership column values => max (levels column) (levels values)
  | list items => levelsIn items
  | call _ target argument => max (levels target) (levels argument)
  | convert inner => levels inner
  | quote inner => levels inner
  | lambda inner => levels inner
  | _ => 0

/-- The greatest number of levels of some items. -/
def levelsIn : List Expr → Nat
  | [] => 0
  | item :: items => max (levels item) (levelsIn items)

end

/-! ## Operands -/

/-- Two operands with an operation between them in brackets are an operand of the grammar. -/
theorem operand_of_arithmetic {op : Arithmetic} {depth depth' : Nat} {first second : String}
    {left right : Expr} {rest : List Char}
    (found : ∀ tail, Ended isIdentChar tail →
      Operand .factor depth (first.toList ++ tail) left tail)
    (found' : Operand .factor depth' (second.toList ++ ')' :: rest) right (')' :: rest)) :
    Operand .factor (max depth depth' + 1)
      (("(" ++ first ++ " " ++ op.symbol ++ " " ++ second ++ ")").toList ++ rest)
      (.arithmetic op left right) rest := by
  have before := found (' ' :: (op.symbol.toList ++ ' ' :: (second.toList ++ ')' :: rest)))
    (ended_cons.mpr (by decide))
  have after := found'.afterGap (gap_space _)
  have computed : Operand .sum (max depth depth') (first.toList ++ ' ' ::
      (op.symbol.toList ++ ' ' :: (second.toList ++ ')' :: rest))) (.arithmetic op left right)
        (')' :: rest) := by
    -- A sum takes a product after its sign, a product takes a factor.
    cases op with
    | add | sub =>
      exact .plus (.ofProduct (.ofFactor before)) (gap_space _) ⟨by decide, rfl⟩ (.ofFactor after)
    | mul | div | rem =>
      exact .ofProduct (.times (.ofFactor before) (gap_space _) ⟨by decide, rfl⟩ after)
  have written : ("(" ++ first ++ " " ++ op.symbol ++ " " ++ second ++ ")").toList ++ rest =
      '(' :: (first.toList ++ ' ' :: (op.symbol.toList ++ ' ' ::
        (second.toList ++ ')' :: rest))) := by
    simp
  rw [written]
  exact .group (Gap.refl _) computed (Gap.refl _)

/-- A shown operand is an operand of the grammar, as deep as it has levels. -/
theorem IsOperand.phrase {expr : Expr} (operand : expr.IsOperand) (rest : List Char)
    (ended : Ended isIdentChar rest) :
    Operand .factor expr.levels (expr.display.toList ++ rest) expr rest := by
  induction operand generalizing rest with
  | constant plain unsigned =>
    rw [display, Value.literal, String.toList_ofList]
    exact .literal (Gap.refl _) (plain.literal unsigned ended)
  | field whole =>
    exact .field (Gap.refl _) (field_of_identifier whole ended)
  | @negate operand inside ih =>
    have written : (Expr.negate operand).display.toList ++ rest =
        '-' :: (operand.display.toList ++ rest) := by
      simp [display]
    rw [written]
    exact .opposite (Gap.refl _) (ih rest ended)
  | arithmetic first second ihFirst ihSecond =>
    exact operand_of_arithmetic ihFirst (ihSecond _ (ended_cons.mpr (by decide)))

/-- Shown items are items of the grammar. -/
theorem items_of_operands {first : Expr} {others : List Expr}
    (all : ∀ item ∈ first :: others, item.IsOperand) (rest : List Char) :
    Items (levelsIn (first :: others))
      ((displayItems (first :: others)).toList ++ ')' :: rest) (first :: others)
        (')' :: rest) := by
  induction others generalizing first with
  | nil =>
    have last := (all first List.mem_cons_self).phrase (')' :: rest) (ended_cons.mpr (by decide))
    rw [levelsIn, levelsIn, Nat.max_zero]
    exact .one (.ofProduct (.ofFactor last))
  | cons second others ih =>
    have item := (all first List.mem_cons_self).phrase
      (',' :: ' ' :: ((displayItems (second :: others)).toList ++ ')' :: rest))
      (ended_cons.mpr (by decide))
    have listed := ih fun item member => all item (List.mem_cons_of_mem _ member)
    have written : (displayItems (first :: second :: others)).toList ++ ')' :: rest =
        first.display.toList ++ ',' :: ' ' ::
          ((displayItems (second :: others)).toList ++ ')' :: rest) := by
      simp [displayItems]
    rw [written, levelsIn]
    exact .more (.ofProduct (.ofFactor item)) (Gap.refl _) (listed.afterGap (gap_space _))

/-! ## Predicates -/

/-- Two operands with a comparison between them in brackets are a predicate of the grammar. -/
theorem predicate_of_compare {op : Comparison} {left right : Expr} (first : left.IsOperand)
    (second : right.IsOperand) (rest : List Char) :
    Predicate .unary (max left.levels right.levels + 1)
      (("(" ++ left.display ++ " " ++ op.symbol ++ " " ++ right.display ++ ")").toList ++ rest)
      (.compare op left right) rest := by
  have before := first.phrase
    (' ' :: (op.symbol.toList ++ ' ' :: (right.display.toList ++ ')' :: rest)))
    (ended_cons.mpr (by decide))
  have after := second.phrase (')' :: rest) (ended_cons.mpr (by decide))
  have sign : ComparisonSign op (op.symbol.toList ++ ' ' :: (right.display.toList ++ ')' :: rest))
      (' ' :: (right.display.toList ++ ')' :: rest)) := ⟨op.symbol, by cases op <;> decide, rfl⟩
  have compared := Predicate.comparison (.ofProduct (.ofFactor before)) (gap_space _) sign
    (.ofProduct (.ofFactor (after.afterGap (gap_space _))))
  have written :
      ("(" ++ left.display ++ " " ++ op.symbol ++ " " ++ right.display ++ ")").toList ++ rest =
        '(' :: (left.display.toList ++ ' ' :: (op.symbol.toList ++ ' ' ::
          (right.display.toList ++ ')' :: rest))) := by
    simp
  rw [written]
  exact .group (Gap.refl _) (.ofConjunction (.ofUnary compared)) (Gap.refl _)

/-- A field and a set of shown operands are a predicate of the grammar. -/
theorem predicate_of_membership {name : String} {items : List Expr}
    (whole : identifier name.toList = .done name []) (all : ∀ item ∈ items, item.IsOperand)
    (rest : List Char) :
    Predicate .unary (levelsIn items) ((name ++ " IN " ++ ("(" ++ displayItems items ++ ")")).toList
      ++ rest) (.membership (.field name) (.list items)) rest := by
  have set : ItemSet (levelsIn items)
      (' ' :: '(' :: ((displayItems items).toList ++ ')' :: rest)) items rest := by
    cases items with
    | nil => exact .empty (gap_space _) (Gap.refl _)
    | cons first others => exact .items (gap_space _) (items_of_operands all rest) (Gap.refl _)
  have word : Keyword "in" ("IN".toList ++ ' ' :: '(' :: ((displayItems items).toList ++
      ')' :: rest)) (' ' :: '(' :: ((displayItems items).toList ++ ')' :: rest)) :=
    keyword_of_word _ (by decide) (ended_cons.mpr (by decide))
  have column (tail : List Char) : Field (name.toList ++ ' ' :: tail) name (' ' :: tail) :=
    field_of_identifier whole (ended_cons.mpr (by decide))
  have written : (name ++ " IN " ++ ("(" ++ displayItems items ++ ")")).toList ++ rest =
      name.toList ++ ' ' :: ("IN".toList ++ ' ' :: '(' :: ((displayItems items).toList ++
        ')' :: rest)) := by
    simp
  rw [written]
  exact .membership (Gap.refl _) (column _) (gap_space _) word set

/-- A shown predicate is a predicate of the grammar, as deep as it has levels. -/
theorem IsPredicate.phrase {expr : Expr} (predicate : expr.IsPredicate) {rest : List Char}
    (ended : Ended isIdentChar rest) :
    Predicate .unary expr.levels (expr.display.toList ++ rest) expr rest := by
  induction predicate generalizing rest with
  | compare first second => exact predicate_of_compare first second rest
  | logical first second ihFirst ihSecond =>
    exact connective_of_clause (fun tail => ihFirst) (ihSecond (ended_cons.mpr (by decide)))
  | @not operand inside ih =>
    have sign : DenialSign ("NOT".toList ++ ' ' :: (operand.display.toList ++ rest))
        (' ' :: (operand.display.toList ++ rest)) :=
      .inr (keyword_of_word _ (by decide) (ended_cons.mpr (by decide)))
    have written : (Expr.not operand).display.toList ++ rest =
        "NOT".toList ++ ' ' :: (operand.display.toList ++ rest) := by
      simp [display]
    rw [written]
    exact .denial (Gap.refl _) sign ((ih ended).afterGap (gap_space _))
  | @membership name items whole all =>
    have deep : (Expr.membership (.field name) (.list items)).levels = levelsIn items :=
      Nat.zero_max _
    rw [deep]
    exact predicate_of_membership whole all rest

/-- What is shown of a predicate neither begins nor ends with white space. -/
theorem IsPredicate.solid {expr : Expr} (predicate : expr.IsPredicate) :
    Text.BeginsSolid expr.display.toList ∧ Text.EndsSolid expr.display.toList := by
  have closed (before : String) : Text.EndsSolid (before ++ ")").toList :=
    ⟨before.toList, ')', String.toList_append .., by decide⟩
  induction predicate with
  | compare | logical =>
    refine ⟨?_, closed _⟩
    simp only [display, String.toList_append, List.append_assoc]
    exact ⟨'(', _, rfl, by decide⟩
  | not inside ih =>
    rw [display, String.toList_append]
    exact ⟨⟨'N', _, rfl, by decide⟩, ih.2.append _⟩
  | membership whole all =>
    simp only [display, String.toList_append, List.append_assoc]
    refine ⟨(beginsSolid_of_identifier whole).append _, ?_⟩
    simp only [← List.append_assoc]
    exact ⟨_, ')', rfl, by decide⟩

/-- **A shown predicate reads back as itself.** Whatever is shown of comparisons and memberships of
operands, combined and denied in any way, is read as the very same tree, unless it has more levels
than the reader goes into. -/
theorem readPredicate_display {expr : Expr} (predicate : expr.IsPredicate)
    (within : expr.levels ≤ maxDepth) : readPredicate expr.display = .ok expr := by
  have whole := predicate.phrase (ended_nil _)
  rw [List.append_nil] at whole
  obtain ⟨begins, ends⟩ := predicate.solid
  refine readPredicate_of_predicate ?_ within
  rw [Text.trim_eq_self begins ends]
  exact .ofConjunction (.ofUnary whole)

/-- A denied membership under a denial beside a difference with signs. -/
def signs : Expr :=
  .logical .or (.not (.not (.membership (.field "Id") (.list [.negate (.negate (.field "Age"))]))))
    (.compare .lt (.arithmetic .sub (.constant (.text "it's")) (.negate (.constant (.bool true))))
      (.constant .null))

/-- Denials and signs without brackets are read back one by one. -/
theorem readPredicate_display_signs :
    signs.display = "(NOT NOT Id IN (--Age) OR (('it''s' - -true) < NULL))" ∧
      readPredicate signs.display = .ok signs := by
  have predicate : signs.IsPredicate := by
    refine .logical (.not (.not (.membership rfl ?_))) (.compare (.arithmetic ?_ ?_) ?_)
    · intro item member
      rw [List.mem_singleton.mp member]
      exact .negate (.negate (.field rfl))
    · exact .constant (.text _) rfl
    · exact .negate (.constant (.bool true) rfl)
    · exact .constant .null rfl
  exact ⟨by decide +kernel, readPredicate_display predicate (by decide)⟩

end ColumnQuery.Expr
