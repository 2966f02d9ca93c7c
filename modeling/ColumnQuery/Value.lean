import ColumnQuery.Number.Layout
import ColumnQuery.Text.Literal
import ColumnQuery.Time.Timestamp
import ColumnQuery.Uuid

/-!
# Values

A value is what a constant holds and what a literal evaluates to: null, a boolean, a number, a text,
an identifier, a timestamp, bytes, or a list of values. `Value.literal` is how a value is written
in a clause.
-/
namespace ColumnQuery

/-- A concrete value. -/
inductive Value where
  | null
  | bool (b : Bool)
  | int (n : Bigint)
  | float (x : Double)
  | text (s : String)
  | uuid (u : Uuid)
  | timestamp (t : Timestamp)
  | blob (bytes : List UInt8)
  | list (items : List Value)

namespace Value

/-- The kinds of values, one for each constructor. -/
inductive Kind where
  | null
  | bool
  | int
  | float
  | text
  | uuid
  | timestamp
  | blob
  | list
deriving DecidableEq

/-- The name of a kind. -/
def Kind.name : Kind → String
  | null => "Null"
  | bool => "Bool"
  | int => "Int"
  | float => "Float"
  | text => "Text"
  | uuid => "Uuid"
  | timestamp => "Timestamp"
  | blob => "Blob"
  | list => "List"

/-- The kind of a name. -/
def Kind.ofName? (name : String) : Option Kind :=
  [null, bool, int, float, text, uuid, timestamp, blob, list].find? (·.name == name)

/-- A kind is found by its name. -/
theorem Kind.ofName?_name (kind : Kind) : ofName? kind.name = some kind := by
  cases kind <;> decide

/-- The kind of a value. -/
def kind : Value → Kind
  | null => .null
  | bool _ => .bool
  | int _ => .int
  | float _ => .float
  | text _ => .text
  | uuid _ => .uuid
  | timestamp _ => .timestamp
  | blob _ => .blob
  | list _ => .list

/-- Whether a value is null. -/
def isNull : Value → Bool
  | null => true
  | _ => false

/-- Whether a value is written between quotes. -/
def isTextLike : Value → Bool
  | text _ | timestamp _ => true
  | _ => false

/-- Floating point numbers in a clause: plain notation, with infinity spelled out. -/
def doubleLayout : Layout := { Double.plainLayout with infinityText := "Infinity" }

mutual

/-- The literal of a value. -/
def literalChars : Value → List Char
  | null => "NULL".toList
  | bool b => if b then "true".toList else "false".toList
  | int n => decimalText n.value
  | float x => (doubleLayout.text x).toList
  | text s => Text.Quoted.encode s.toList
  | uuid u => u.chars
  | timestamp t => '\'' :: (t.chars ++ ['\''])
  | blob bytes => '0' :: 'x' :: Text.Hex.chars bytes
  | list items => '[' :: (literalsChars items ++ [']'])

/-- The literals of values with commas between them. -/
def literalsChars : List Value → List Char
  | [] => []
  | [item] => literalChars item
  | item :: items => literalChars item ++ ',' :: literalsChars items

end

/-- The literal of a value as a text. -/
def literal (value : Value) : String := String.ofList value.literalChars

mutual

/-- Equality of values: by kind and content, and numerically for floating point numbers, so that a
value that holds no number differs even from itself. -/
def same : Value → Value → Bool
  | null, null => true
  | bool a, bool b => a == b
  | int a, int b => a == b
  | float a, float b => a.numEq b
  | text a, text b => a == b
  | uuid a, uuid b => a == b
  | timestamp a, timestamp b => a == b
  | blob a, blob b => a == b
  | list a, list b => sameList a b
  | _, _ => false

/-- Equality of lists of values, item by item. -/
def sameList : List Value → List Value → Bool
  | [], [] => true
  | a :: as, b :: bs => same a b && sameList as bs
  | _, _ => false

end

end Value

end ColumnQuery
