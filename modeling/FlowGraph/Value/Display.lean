/-
# Display of values

The text of a value where a text is asked for. A text stands for itself; inside a list or a
mapping it is quoted.
-/

import FlowGraph.Decimal.Notation
import FlowGraph.Text.Blank
import FlowGraph.Text.Quoted
import FlowGraph.Value.Basic

namespace FlowGraph.Value

mutual

/-- The text of a value inside a list or a mapping. -/
def nested : Value → String
  | null => "None"
  | bool b => if b then "True" else "False"
  | int n => Decimal.intText n
  | float x => Decimal.floatText x
  | text s => Text.quoted s
  | list items => "[" ++ nestedItems items ++ "]"
  | object fields => "\x7b" ++ nestedFields fields ++ "\x7d"

/-- The items of a list, with commas between them. -/
def nestedItems : List Value → String
  | [] => ""
  | [item] => nested item
  | item :: rest => nested item ++ ", " ++ nestedItems rest

/-- The members of an object, with commas between them. -/
def nestedFields : List (String × Value) → String
  | [] => ""
  | [(key, held)] => Text.quoted key ++ ": " ++ nested held
  | (key, held) :: rest => Text.quoted key ++ ": " ++ nested held ++ ", " ++ nestedFields rest

end

/-- The text of a value. -/
def display : Value → String
  | text s => s
  | value => nested value

/-- The text of a value, or no text for a value that counts as nothing. -/
def filledText (value : Value) : String := if value.isTruthy then value.display else ""

/-- The trimmed text of a value, or no text for a value that counts as nothing. -/
def trimmedText (value : Value) : String := Text.trim value.filledText

/-- The trimmed text of a value; null has none. -/
def plainText : Value → String
  | null => ""
  | value => Text.trim value.display

end FlowGraph.Value
