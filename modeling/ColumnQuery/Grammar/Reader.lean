import ColumnQuery.Error
import ColumnQuery.Text.Classes

/-!
# Readers

A reader takes something from the front of a text. It may miss, which lets another reader try the
same text, or halt, which ends the whole reading; both tell where and why. Of several readers tried
in turn the last one tells why all missed.
-/
namespace ColumnQuery.Grammar

/-- Why a reading ended for good. -/
inductive Halt where
  /-- Nesting went past the limit. -/
  | tooDeep
  /-- A text literal has no closing quote. -/
  | unclosed
deriving DecidableEq

/-- What a reader makes of a text. -/
inductive Outcome (α : Type) where
  /-- Something was read, and this follows it. -/
  | done (value : α) (rest : List Char)
  /-- Nothing was read; the expectation failed at this text. -/
  | miss (rest : List Char) (expected : Expected)
  /-- The whole reading ended at this text. -/
  | halt (rest : List Char) (cause : Halt)

/-- A reader of something at the front of a text. -/
abbrev Reader (α : Type) := List Char → Outcome α

namespace Outcome

variable {α β : Type}

/-- Goes on with what follows. -/
def bind (outcome : Outcome α) (next : α → Reader β) : Outcome β :=
  match outcome with
  | done value rest => next value rest
  | miss rest expected => miss rest expected
  | halt rest cause => halt rest cause

/-- Makes something else of what was read. -/
def map (f : α → β) (outcome : Outcome α) : Outcome β :=
  outcome.bind fun value rest => done (f value) rest

/-- Tries something else after a miss. -/
def orElse (outcome : Outcome α) (other : Unit → Outcome α) : Outcome α :=
  match outcome with
  | miss _ _ => other ()
  | outcome => outcome

end Outcome

variable {α β : Type}

/-- One certain character. -/
def char (expected : Char) : Reader Unit
  | [] => .miss [] .char
  | c :: rest => if c = expected then .done () rest else .miss (c :: rest) .char

/-- What follows certain characters, if the text starts with them. -/
def dropWord : List Char → List Char → Option (List Char)
  | [], text => some text
  | _ :: _, [] => none
  | w :: word, c :: text => if c = w then dropWord word text else none

/-- A certain symbol. -/
def symbol (expected : String) : Reader Unit := fun text =>
  match dropWord expected.toList text with
  | some rest => .done () rest
  | none => .miss text .tag

/-- Skips separators on both sides. -/
def spaced (read : Reader α) : Reader α := fun text =>
  (read (Text.skipSeparators text)).bind fun value rest => .done value (Text.skipSeparators rest)

/-- Reads one thing after another and keeps the second. -/
def preceded (first : Reader α) (second : Reader β) : Reader β := fun text =>
  (first text).bind fun _ rest => second rest

/-- Something between a pair of round brackets. -/
def bracketed (read : Reader α) : Reader α := fun text =>
  (char '(' text).bind fun _ rest =>
    (read rest).bind fun value rest =>
      (char ')' rest).map fun _ => value

/-- Reads as often as possible. A repetition that takes nothing from the text does not count. -/
def many (read : Reader α) (text : List Char) : Outcome (List α) :=
  match read text with
  | .miss _ _ => .done [] text
  | .halt rest cause => .halt rest cause
  | .done value rest =>
    if _shorter : rest.length < text.length then (many read rest).map (value :: ·)
    else .done [] text
termination_by text.length

/-- At least one thing, with commas between. -/
def separated (read : Reader α) : Reader (List α) := fun text =>
  (read text).bind fun first rest => (many (preceded (char ',') read) rest).map (first :: ·)

/-- Any number of things, with commas between. -/
def separatedOrNone (read : Reader α) : Reader (List α) := fun text =>
  match read text with
  | .miss _ _ => .done [] text
  | .halt rest cause => .halt rest cause
  | .done first rest => (many (preceded (char ',') read) rest).map (first :: ·)

/-- Operands with operators between, combined from the left. -/
def chain (operator : Reader β) (operand : Reader α) (combine : β → α → α → α) : Reader α :=
  fun text =>
    (operand text).bind fun first rest =>
      (many (fun text => (operator text).bind fun op rest => (operand rest).map (op, ·)) rest).map
        (·.foldl (fun left step => combine step.1 left step.2) first)

/-- The number of bytes that a text takes. -/
def byteLength (text : List Char) : Nat := text.foldr (fun c bytes => c.utf8Size + bytes) 0

/-- The answer of a reader that has to read a whole text. -/
def finish (text : List Char) (outcome : Outcome α) : Except ParseError α :=
  let fail (rest : List Char) (cause : Misreading) : Except ParseError α :=
    .error ⟨byteLength text - byteLength rest, cause⟩
  match outcome with
  | .done value [] => .ok value
  | .done _ rest => fail rest (.trailing rest)
  | .miss rest expected => fail rest (.unexpected rest expected)
  | .halt rest .tooDeep => fail rest .tooDeep
  | .halt rest .unclosed => fail rest (.unexpected rest .char)

end ColumnQuery.Grammar
