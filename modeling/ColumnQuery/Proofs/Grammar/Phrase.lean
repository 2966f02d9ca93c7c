import ColumnQuery.Grammar.Predicate

/-!
# The grammar of predicate texts

A phrase relates two places of a text to the tree of what stands between them. Each place is given
by what follows it, so a phrase says from which text to which rest it leads. The rules name no order
among alternatives and never say that one applies only where another does not; identifiers, digit
runs and keywords alone look at the character after them.

Separators may stand before every token and belong to the phrase that the token begins. Operators
combine from the left because a repetition is a rule that mentions itself on its left. The depth of
a phrase is the greatest number of groups, denials and minus signs around any place in it; the
brackets of a set add nothing to it, and a group adds no node to the tree.
-/
namespace ColumnQuery.Phrase

open Grammar

/-- Only separators stand between two places of a text. -/
def Gap (text rest : List Char) : Prop :=
  ∃ gap, (∀ c ∈ gap, Text.isSeparator c = true) ∧ text = gap ++ rest

/-- A text does not begin with a character of a kind, so a run of that kind has ended before it. -/
def Ended (kind : Char → Bool) (text : List Char) : Prop :=
  ∀ c tail, text = c :: tail → kind c = false

/-- Whether a character is a decimal digit. -/
def isDigit (c : Char) : Bool := (Digit.ofChar? c).isSome

/-- A keyword in any case, with no identifier character after it. -/
def Keyword (keyword : String) (text rest : List Char) : Prop :=
  ∃ word, lowered word = keyword.toList ∧ text = word ++ rest ∧ Ended isIdentChar rest

/-- A word that is an identifier as a whole and not reserved. -/
def Identifier (word : List Char) : Prop :=
  ∃ c tail, word = c :: tail ∧ isIdentStart c = true ∧ (∀ x ∈ tail, isIdentChar x = true) ∧
    isReserved word = false

/-- The name of a field: an identifier taken as far as possible, or any name without double quotes
between double quotes. -/
inductive Field : List Char → String → List Char → Prop where
  | bare {text word rest : List Char} (identifier : Identifier word) (written : text = word ++ rest)
      (ended : Ended isIdentChar rest) : Field text (String.ofList word) rest
  | quoted {text name rest : List Char} (named : name ≠ []) (plain : '"' ∉ name)
      (written : text = '"' :: (name ++ '"' :: rest)) : Field text (String.ofList name) rest

/-- A literal value. Digit runs are taken as far as possible, and an integer must fit the word. -/
inductive Literal : List Char → Value → List Char → Prop where
  | nullWord {text rest : List Char} (word : Keyword "null" text rest) : Literal text .null rest
  | trueWord {text rest : List Char} (word : Keyword "true" text rest) :
      Literal text (.bool true) rest
  | falseWord {text rest : List Char} (word : Keyword "false" text rest) :
      Literal text (.bool false) rest
  | integer {text rest : List Char} {digits : List Digit} {n : Bigint} (filled : digits ≠ [])
      (written : text = Digits.chars digits ++ rest) (ended : Ended isDigit rest)
      (value : n.value = Digits.value digits) : Literal text (.int n) rest
  | decimal {text rest : List Char} {whole fraction : List Digit} (filled : whole ≠ [])
      (further : fraction ≠ [])
      (written : text = Digits.chars whole ++ '.' :: (Digits.chars fraction ++ rest))
      (ended : Ended isDigit rest) :
      Literal text (.float (Numeral.double { negative := false, whole, fraction })) rest
  | text {text content rest : List Char} (written : text = Text.Quoted.encode content ++ rest) :
      Literal text (.text (String.ofList content)) rest

/-- The sign of a multiplication, division or remainder. -/
def ProductSign (op : Arithmetic) (text rest : List Char) : Prop :=
  op ∈ [Arithmetic.mul, .div, .rem] ∧ text = op.symbol.toList ++ rest

/-- The sign of an addition or subtraction. -/
def SumSign (op : Arithmetic) (text rest : List Char) : Prop :=
  op ∈ [Arithmetic.add, .sub] ∧ text = op.symbol.toList ++ rest

/-- The ranks of operands, from the tightest. -/
inductive OperandRank where
  | factor
  | product
  | sum

/-- An operand of a comparison or an item of a set. -/
inductive Operand : OperandRank → Nat → List Char → Expr → List Char → Prop where
  | literal {text start rest : List Char} {value : Value} (gap : Gap text start)
      (literal : Literal start value rest) : Operand .factor 0 text (.constant value) rest
  | field {text start rest : List Char} {name : String} (gap : Gap text start)
      (field : Field start name rest) : Operand .factor 0 text (.field name) rest
  | opposite {depth : Nat} {text inner rest : List Char} {operand : Expr}
      (sign : Gap text ('-' :: inner)) (factor : Operand .factor depth inner operand rest) :
      Operand .factor (depth + 1) text (.negate operand) rest
  | group {depth : Nat} {text inner close rest : List Char} {operand : Expr}
      (opening : Gap text ('(' :: inner)) (sum : Operand .sum depth inner operand close)
      (closing : Gap close (')' :: rest)) : Operand .factor (depth + 1) text operand rest
  | ofFactor {depth : Nat} {text rest : List Char} {operand : Expr}
      (factor : Operand .factor depth text operand rest) : Operand .product depth text operand rest
  | times {depth depth' : Nat} {text mid sign next rest : List Char} {left right : Expr}
      {op : Arithmetic} (before : Operand .product depth text left mid) (gap : Gap mid sign)
      (signed : ProductSign op sign next) (after : Operand .factor depth' next right rest) :
      Operand .product (max depth depth') text (.arithmetic op left right) rest
  | ofProduct {depth : Nat} {text rest : List Char} {operand : Expr}
      (product : Operand .product depth text operand rest) : Operand .sum depth text operand rest
  | plus {depth depth' : Nat} {text mid sign next rest : List Char} {left right : Expr}
      {op : Arithmetic} (before : Operand .sum depth text left mid) (gap : Gap mid sign)
      (signed : SumSign op sign next) (after : Operand .product depth' next right rest) :
      Operand .sum (max depth depth') text (.arithmetic op left right) rest

/-- At least one operand, with commas between. -/
inductive Items : Nat → List Char → List Expr → List Char → Prop where
  | one {depth : Nat} {text rest : List Char} {item : Expr}
      (last : Operand .sum depth text item rest) : Items depth text [item] rest
  | more {depth depth' : Nat} {text mid next rest : List Char} {item : Expr} {items : List Expr}
      (first : Operand .sum depth text item mid) (comma : Gap mid (',' :: next))
      (others : Items depth' next items rest) : Items (max depth depth') text (item :: items) rest

/-- A set in brackets, which may be empty. -/
inductive ItemSet : Nat → List Char → List Expr → List Char → Prop where
  | empty {text close rest : List Char} (opening : Gap text ('(' :: close))
      (closing : Gap close (')' :: rest)) : ItemSet 0 text [] rest
  | items {depth : Nat} {text inner close rest : List Char} {items : List Expr}
      (opening : Gap text ('(' :: inner)) (listed : Items depth inner items close)
      (closing : Gap close (')' :: rest)) : ItemSet depth text items rest

/-- The ways to write a comparison. -/
def spellings : Comparison → List String
  | .eq => ["==", "="]
  | .ne => ["!=", "<>"]
  | .ge => [">="]
  | .le => ["<="]
  | .gt => [">"]
  | .lt => ["<"]

/-- The sign of a comparison. -/
def ComparisonSign (op : Comparison) (text rest : List Char) : Prop :=
  ∃ spelling ∈ spellings op, text = spelling.toList ++ rest

/-- The sign of a denial. -/
def DenialSign (text rest : List Char) : Prop := text = '!' :: rest ∨ Keyword "not" text rest

/-- The sign of a conjunction or a disjunction. -/
def ConnectiveSign : Connective → List Char → List Char → Prop
  | .and, text, rest => text = '&' :: '&' :: rest ∨ Keyword "and" text rest
  | .or, text, rest => text = '|' :: '|' :: rest ∨ Keyword "or" text rest

/-- The ranks of predicates, from the tightest. -/
inductive PredicateRank where
  | unary
  | conjunction
  | disjunction

/-- A predicate. -/
inductive Predicate : PredicateRank → Nat → List Char → Expr → List Char → Prop where
  | denial {depth : Nat} {text start inner rest : List Char} {operand : Expr} (gap : Gap text start)
      (sign : DenialSign start inner) (unary : Predicate .unary depth inner operand rest) :
      Predicate .unary (depth + 1) text (.not operand) rest
  | group {depth : Nat} {text inner close rest : List Char} {operand : Expr}
      (opening : Gap text ('(' :: inner))
      (disjunction : Predicate .disjunction depth inner operand close)
      (closing : Gap close (')' :: rest)) : Predicate .unary (depth + 1) text operand rest
  | membership {depth : Nat} {text start mid word set rest : List Char} {name : String}
      {items : List Expr} (gap : Gap text start) (field : Field start name mid)
      (between : Gap mid word)
      (keyword : Keyword "in" word set) (listed : ItemSet depth set items rest) :
      Predicate .unary depth text (.membership (.field name) (.list items)) rest
  | comparison {depth depth' : Nat} {text mid sign next rest : List Char} {left right : Expr}
      {op : Comparison} (before : Operand .sum depth text left mid) (gap : Gap mid sign)
      (signed : ComparisonSign op sign next) (after : Operand .sum depth' next right rest) :
      Predicate .unary (max depth depth') text (.compare op left right) rest
  | ofUnary {depth : Nat} {text rest : List Char} {operand : Expr}
      (unary : Predicate .unary depth text operand rest) :
      Predicate .conjunction depth text operand rest
  | and {depth depth' : Nat} {text mid sign next rest : List Char} {left right : Expr}
      (before : Predicate .conjunction depth text left mid) (gap : Gap mid sign)
      (signed : ConnectiveSign .and sign next) (after : Predicate .unary depth' next right rest) :
      Predicate .conjunction (max depth depth') text (.logical .and left right) rest
  | ofConjunction {depth : Nat} {text rest : List Char} {operand : Expr}
      (conjunction : Predicate .conjunction depth text operand rest) :
      Predicate .disjunction depth text operand rest
  | or {depth depth' : Nat} {text mid sign next rest : List Char} {left right : Expr}
      (before : Predicate .disjunction depth text left mid) (gap : Gap mid sign)
      (signed : ConnectiveSign .or sign next)
      (after : Predicate .conjunction depth' next right rest) :
      Predicate .disjunction (max depth depth') text (.logical .or left right) rest

end ColumnQuery.Phrase
