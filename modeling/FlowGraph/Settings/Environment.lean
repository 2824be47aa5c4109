/-
# Settings from the environment

A setting can be given as the text of an environment variable. The text is read as the kind of
value that the setting's default is; a text that cannot be read that way is ignored, and so is an
empty one.
-/

import FlowGraph.Decimal.Reading
import FlowGraph.Text.Case
import FlowGraph.Value.Basic

namespace FlowGraph.Settings

/-- The texts that turn a switch on, in any case. -/
def onWords : List String := ["1", "true", "yes", "on"]

/-- Reads a text as the kind of value that the default is. -/
def readLike (fallback : Value) (raw : String) : Option Value :=
  match fallback with
  | .bool _ => some (.bool (onWords.contains (Text.lower (Text.trim raw))))
  | .int _ => (Decimal.readInt? raw).map .int
  | .float _ => (Decimal.readFloat? raw).map .float
  | _ => some (.text raw)

/-- The value of one setting in the environment. -/
def fromVariable? (environment : Fields String) (source : String) (fallback : Value) :
    Option Value :=
  match Fields.get? environment source with
  | none => none
  | some raw => if raw = "" then none else readLike fallback raw

/-- The settings that the environment gives, each with the variable that holds it. A setting
without a default is a text. -/
def readEnvironment (defaults : Fields Value) (sources : Fields String)
    (environment : Fields String) : Fields Value :=
  sources.filterMap fun (name, source) =>
    let fallback := (Fields.get? defaults name).getD .null
    (fromVariable? environment source fallback).map fun value => (name, value)

end FlowGraph.Settings
