/-!
# Colours

Parts of the output are painted when colours are wanted. A style starts with an escape sequence and
ends with the one that resets; where a painted text resets by itself, its style starts again.
-/
namespace ColumnQuery.Command

/-- How a part of the output looks. -/
inductive Style where
  | dimmed
  | yellow
  | cyan
  | white
  /-- Bold green. -/
  | heading
  /-- Bold red. -/
  | alarm
deriving DecidableEq

/-- The codes of a style. -/
def Style.codes : Style → String
  | dimmed => "2"
  | yellow => "33"
  | cyan => "36"
  | white => "37"
  | heading => "1;32"
  | alarm => "1;31"

/-- The sequence that starts a style. -/
def Style.start (style : Style) : String := "\x1b[" ++ style.codes ++ "m"

/-- A text with something put in after each reset. -/
def afterResets (added : List Char) : List Char → List Char
  | [] => []
  | '\x1b' :: '[' :: '0' :: 'm' :: rest =>
    '\x1b' :: '[' :: '0' :: 'm' :: (added ++ afterResets added rest)
  | c :: rest => c :: afterResets added rest

/-- A text in a style, if colours are wanted. -/
def paint (color : Bool) (style : Style) (text : String) : String :=
  if color then
    style.start ++ String.ofList (afterResets style.start.toList text.toList) ++ "\x1b[0m"
  else text

end ColumnQuery.Command
