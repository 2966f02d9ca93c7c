import ColumnQuery.Json.Quoted
import ColumnQuery.Number.Numeral

/-!
# JSON trees

A tree of what is written: numbers are kept as numerals, entries keep their order and may repeat a
key, and a string without a text is still a string. `Node.compact` writes a tree without blanks and
`Node.pretty` with line breaks.
-/
namespace ColumnQuery.Json

mutual

/-- A JSON value as it is written. -/
inductive Node where
  | null
  | bool (b : Bool)
  | number (numeral : Numeral)
  /-- A string, which has no text if it holds half of a surrogate pair on its own. -/
  | string (text : Option String)
  | array (items : List Node)
  | object (entries : List Entry)

/-- One entry of an object. -/
structure Entry where
  /-- The key, a string as any other. -/
  key : Option String
  /-- What the key stands for. -/
  node : Node

end

namespace Node

/-- The string of a text. -/
def text (s : String) : Node := string (some s)

/-- The number of an integer. -/
def int (n : Int) : Node := number (.ofInt n)

/-- The object of keys and what they stand for. -/
def record (fields : List (String × Node)) : Node :=
  object (fields.map fun (name, node) => ⟨some name, node⟩)

/-- A named case with its content: an object of one entry. -/
def variant (name : String) (content : Node) : Node := object [⟨some name, content⟩]

/-- A string as it is written. -/
def stringChars (text : Option String) : List Char := Quoted.encode (text.getD "").toList

/-- The words for the truth values. -/
def boolChars (b : Bool) : List Char := if b then "true".toList else "false".toList

mutual

/-- A tree written without blanks. -/
def compact : Node → List Char
  | null => "null".toList
  | bool b => boolChars b
  | number numeral => numeral.chars
  | string text => stringChars text
  | array items => '[' :: (compactItems items ++ [']'])
  | object entries => '\x7b' :: (compactEntries entries ++ ['\x7d'])

/-- Items with commas between them. -/
def compactItems : List Node → List Char
  | [] => []
  | [item] => compact item
  | item :: items => compact item ++ ',' :: compactItems items

/-- Entries with commas between them. -/
def compactEntries : List Entry → List Char
  | [] => []
  | [⟨key, node⟩] => stringChars key ++ ':' :: compact node
  | ⟨key, node⟩ :: entries =>
    stringChars key ++ ':' :: (compact node ++ ',' :: compactEntries entries)

end

/-- A line break and the indentation of a level. -/
def lineBreak (level : Nat) : List Char := '\n' :: List.replicate (2 * level) ' '

mutual

/-- A tree written at a level of indentation, each item and entry on a line of its own. -/
def prettyAt (level : Nat) : Node → List Char
  | null => "null".toList
  | bool b => boolChars b
  | number numeral => numeral.chars
  | string text => stringChars text
  | array [] => ['[', ']']
  | array items => '[' :: (prettyItems (level + 1) items ++ lineBreak level ++ [']'])
  | object [] => ['\x7b', '\x7d']
  | object entries => '\x7b' :: (prettyEntries (level + 1) entries ++ lineBreak level ++ ['\x7d'])

/-- Items on lines of their own with commas between them. -/
def prettyItems (level : Nat) : List Node → List Char
  | [] => []
  | [item] => lineBreak level ++ prettyAt level item
  | item :: items => lineBreak level ++ prettyAt level item ++ ',' :: prettyItems level items

/-- Entries on lines of their own with commas between them. -/
def prettyEntries (level : Nat) : List Entry → List Char
  | [] => []
  | [⟨key, node⟩] => lineBreak level ++ stringChars key ++ ':' :: ' ' :: prettyAt level node
  | ⟨key, node⟩ :: entries =>
    lineBreak level ++ stringChars key ++ ':' :: ' ' :: prettyAt level node ++
      ',' :: prettyEntries level entries

end

/-- A tree written with line breaks and two blanks for each level. -/
def pretty (node : Node) : List Char := prettyAt 0 node

/-- A tree as text without blanks. -/
def compactText (node : Node) : String := String.ofList node.compact

/-- A tree as text with line breaks. -/
def prettyText (node : Node) : String := String.ofList node.pretty

end Node

end ColumnQuery.Json
