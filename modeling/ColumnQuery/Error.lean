import ColumnQuery.Expr

/-!
# Errors

Each way to fail is a cause with what the cause is about; the wording is in the `message` functions.
Compiling only fails with `Unsupported`: an expression outside the supported language. The other
causes belong to reading text, to records, to settings and to files.
-/
namespace ColumnQuery

/-- Why an expression cannot be compiled. -/
inductive Unsupported where
  /-- An expression of this kind is no predicate, or has no value. -/
  | expression (kind : Expr.Kind)
  /-- An expression of this kind names no field. -/
  | notField (kind : Expr.Kind)
  /-- An expression of this kind selects no fields. -/
  | notProjection (kind : Expr.Kind)
  /-- An expression of this kind is no query. -/
  | notQuery (kind : Expr.Kind)
  /-- A query reads from nowhere. -/
  | noSource
  /-- An expression of this kind cannot stand in an index clause. -/
  | notIndexable (kind : Expr.Kind)
  /-- Alternatives cannot stand in an index clause. -/
  | alternative
  /-- An index has no operator for inequality. -/
  | inequality
  /-- An index compares a field with a value that is there. -/
  | nullIndexValue (field : String)
  /-- A field has no value outside a row. -/
  | fieldValue (name : String)
  /-- The set of a membership is a value of this kind. -/
  | notList (kind : Value.Kind)
  /-- A value of this kind has no opposite. -/
  | negation (kind : Value.Kind)
  /-- The opposite of this integer is no word. -/
  | negationOverflow (n : Bigint)
  /-- Values of these kinds have no such arithmetic. -/
  | operands (op : Arithmetic) (left right : Value.Kind)
  /-- The divisor is zero. -/
  | divisionByZero
  /-- The result for these integers is no word. -/
  | overflow (op : Arithmetic) (left right : Bigint)
  /-- The result for these numbers is not finite. -/
  | notFinite (op : Arithmetic) (left right : Double)
  /-- A cause given by the caller. -/
  | other (detail : String)
deriving DecidableEq

/-- What is said about the cause. -/
def Unsupported.detail : Unsupported → String
  | expression kind => kind.name ++ " is not supported."
  | notField kind => kind.name ++ " is not supported where a field is expected."
  | notProjection kind => kind.name ++ " is not supported as a projection."
  | notQuery kind => kind.name ++ " is not supported as a query."
  | noSource => "Query has no source."
  | notIndexable kind => kind.name ++ " is not supported in an index clause."
  | alternative => "OR is not supported in an index clause."
  | inequality => "NE is not a supported index operator."
  | nullIndexValue field => "Null is not a valid index value for '" ++ field ++ "'."
  | fieldValue name => "Field '" ++ name ++ "' cannot be evaluated to a constant."
  | notList kind => "Membership requires a list of values, found " ++ kind.name ++ "."
  | negation kind => "Negate is not supported on " ++ kind.name ++ "."
  | negationOverflow n => "Negating " ++ String.ofList (decimalText n.value) ++ " overflows."
  | operands op left right =>
    "Operator '" ++ op.symbol ++ "' is not supported between " ++ left.name ++ " and " ++
      right.name ++ "."
  | divisionByZero => "Attempted to divide by zero."
  | overflow op left right =>
    "Arithmetic overflow evaluating " ++ String.ofList (decimalText left.value) ++ " " ++
      op.symbol ++ " " ++ String.ofList (decimalText right.value) ++ "."
  | notFinite op left right =>
    "Arithmetic evaluating " ++ left.plainText ++ " " ++ op.symbol ++ " " ++ right.plainText ++
      " is not finite."
  | other detail => detail

/-- What was expected where reading a text stopped. -/
inductive Expected where
  /-- One certain character. -/
  | char
  /-- One certain word or symbol. -/
  | tag
  /-- A character of a certain class. -/
  | satisfy
  /-- A number in range, or its first digit. -/
  | digit
  /-- At least one character of a certain class. -/
  | takeWhile1
  /-- Something else than what stands there. -/
  | not
deriving DecidableEq

/-- The name of an expectation. -/
def Expected.name : Expected → String
  | char => "Char"
  | tag => "Tag"
  | satisfy => "Satisfy"
  | digit => "Digit"
  | takeWhile1 => "TakeWhile1"
  | not => "Not"

/-- Why a text is no predicate or projection. -/
inductive Misreading where
  /-- A whole expression is followed by more text. -/
  | trailing (rest : List Char)
  /-- The text that follows does not meet an expectation. -/
  | unexpected (rest : List Char) (expected : Expected)
  /-- Groups and signs are nested too deeply. -/
  | tooDeep
  /-- A cause given by the caller. -/
  | other (detail : String)
deriving DecidableEq

/-- The greatest nesting of groups, denials and minus signs in a text. -/
def maxDepth : Nat := 64

/-- What is said about the cause. At most sixteen characters of the text are shown where an
expectation failed. -/
def Misreading.detail : Misreading → String
  | trailing rest => "Unexpected trailing content: '" ++ String.ofList rest ++ "'"
  | unexpected rest expected =>
    "Unexpected input near '" ++ String.ofList (rest.take 16) ++ "' (" ++ expected.name ++ ")"
  | tooDeep =>
    "Nesting exceeds " ++ String.ofList (decimalText maxDepth) ++ " levels"
  | other detail => detail

/-- A text that cannot be read, and the byte at which reading stopped. -/
structure ParseError where
  /-- Bytes of the trimmed text before the place. -/
  position : Nat
  /-- What is wrong there. -/
  cause : Misreading
deriving DecidableEq

/-- Why a file could not be read. -/
inductive FileFault where
  /-- There is no such file. -/
  | missing
  /-- The path leads to a directory. -/
  | directory
  /-- The path leads through a file. -/
  | notDirectory
  /-- The file may not be read. -/
  | denied
  /-- The path or one of its names is too long for any file. -/
  | tooLong
  /-- The file does not hold a text. -/
  | notText
deriving DecidableEq

/-- What is said about the fault. -/
def FileFault.text : FileFault → String
  | missing => "No such file or directory (os error 2)"
  | directory => "Is a directory (os error 21)"
  | notDirectory => "Not a directory (os error 20)"
  | denied => "Permission denied (os error 13)"
  | tooLong => "File name too long (os error 36)"
  | notText => "stream did not contain valid UTF-8"

/-- Every error of the library. -/
inductive Error where
  /-- An expression cannot be compiled. -/
  | unsupported (cause : Unsupported)
  /-- A record has no such column. -/
  | columnNotFound (family column : String)
  /-- A text cannot be read. -/
  | parse (error : ParseError)
  /-- Settings cannot be read. -/
  | config (detail : String)
  /-- A file cannot be read. -/
  | file (fault : FileFault)
deriving DecidableEq

/-- The message of an error. -/
def Error.message : Error → String
  | unsupported cause => "Unsupported expression: " ++ cause.detail
  | columnNotFound family column =>
    "Column, " ++ column ++ ", could not be found in '" ++ family ++ "'"
  | parse ⟨position, cause⟩ =>
    "Parse error at position " ++ String.ofList (decimalText position) ++ ": " ++ cause.detail
  | config detail => "Configuration error: " ++ detail
  | file fault => "IO error: " ++ fault.text

/-- Whether the error comes from compiling and not from the caller. -/
def Error.isUnsupported : Error → Bool
  | unsupported _ => true
  | _ => false

end ColumnQuery
