/-
# Writing JSON

Values as JSON texts in ASCII. Doubles get the fewest digits that identify them; a double that is
not finite is written as its name, in quotes.
-/

import FlowGraph.Decimal.Notation
import FlowGraph.Text.Quoted
import FlowGraph.Value.Basic

namespace FlowGraph.Json

/-- The escape of one 16-bit unit. -/
def unitText (unit : Nat) : List Char := '\\' :: 'u' :: Text.hex 4 unit

/-- One character of a text. -/
def charText (c : Char) : List Char :=
  if c = '"' ∨ c = '\\' then ['\\', c]
  else if 0x20 ≤ c.toNat ∧ c.toNat < 0x7F then [c]
  else if c.toNat < 0x10000 then unitText c.toNat
  else
    let offset := c.toNat - 0x10000
    unitText (0xD800 + offset / 0x400) ++ unitText (0xDC00 + offset % 0x400)

/-- A text in quotes. -/
def textText (s : String) : String := String.ofList ('"' :: s.toList.flatMap charText ++ ['"'])

/-- A double, or its name in quotes if it is not finite. -/
def floatText (x : Float) : String :=
  if x.isNaN then "\"NaN\""
  else if x.isInf then if x > 0 then "\"Infinity\"" else "\"-Infinity\""
  else Decimal.floatText x

mutual

/-- The JSON text of a value. -/
def write : Value → String
  | .null => "null"
  | .bool b => if b then "true" else "false"
  | .int n => Decimal.intText n
  | .float x => floatText x
  | .text s => textText s
  | .list items => "[" ++ writeItems items ++ "]"
  | .object fields => "\x7b" ++ writeFields fields ++ "\x7d"

/-- Writes the items of a list, with commas between them. -/
def writeItems : List Value → String
  | [] => ""
  | [item] => write item
  | item :: rest => write item ++ "," ++ writeItems rest

/-- Writes the members of an object, with commas between them. -/
def writeFields : List (String × Value) → String
  | [] => ""
  | [(key, held)] => textText key ++ ":" ++ write held
  | (key, held) :: rest => textText key ++ ":" ++ write held ++ "," ++ writeFields rest

end

end FlowGraph.Json
