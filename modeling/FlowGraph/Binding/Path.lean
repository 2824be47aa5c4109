/-
# Reference paths

The path syntax in which a step names where a value comes from. `$.input.<path>` (or the shorthand
`input.<path>`) names a run input; `$.steps.<id>.output.<path>` names the output of a step. This
module supplies the two recognisers, the writer of step references, and the reduction of a path
to the key of its first segment.
-/

import FlowGraph.Text.Blank
import FlowGraph.Text.Digit

namespace FlowGraph.Path

open FlowGraph.Text

/-- The reference to the whole run input. -/
def inputRoot : List Char := ['$', '.', 'i', 'n', 'p', 'u', 't']

/-- What stands in front of a run-input path. -/
def inputMark : List Char := inputRoot ++ ['.']

/-- What stands in front of a run-input path in shorthand. -/
def shortInputMark : List Char := ['i', 'n', 'p', 'u', 't', '.']

/-- What stands in front of a step id. -/
def stepsMark : List Char := ['$', '.', 's', 't', 'e', 'p', 's', '.']

/-- The member of a step that holds its output. -/
def outputName : List Char := ['o', 'u', 't', 'p', 'u', 't']

/-- A character that a step id inside a reference may contain. -/
def isIdChar (c : Char) : Bool := c ≠ '.' && c ≠ '[' && c ≠ ']'

/-- Drops a leading `output.`, or `output` alone, in any case. -/
def dropOutput (cs : List Char) : List Char :=
  if (cs.take outputName.length).map Char.toLower = outputName then
    match cs.drop outputName.length with
    | [] => []
    | '.' :: rest => rest
    | _ => cs
  else cs

/-- The reference to `path` inside the output of a step. -/
def stepReference (stepId path : String) : String :=
  let inner := dropOutput (trimChars path.toList)
  let whole := stepsMark ++ stepId.toList ++ '.' :: outputName
  String.ofList (if inner = [] then whole else whole ++ '.' :: inner)

/-- What follows a step id in a reference: the output, and a path without line breaks. -/
def outputPath? (cs : List Char) : Option (List Char) :=
  match ('.' :: outputName).isPrefixOf? cs with
  | some [] => some []
  | some ('.' :: path) => if path ≠ [] ∧ '\n' ∉ path then some path else none
  | _ => none

/-- The step id and the path of a reference to a step's output, both trimmed. -/
def readStepReference? (s : String) : Option (String × String) :=
  match stepsMark.isPrefixOf? (trimChars s.toList) with
  | none => none
  | some rest =>
    let stepId := rest.takeWhile isIdChar
    if stepId = [] then none
    else
      (outputPath? (rest.dropWhile isIdChar)).map fun path =>
        (String.ofList (trimChars stepId), String.ofList (trimChars path))

/-- The path of a reference to a run input; the whole input has the empty path. -/
def readInputReference? (cs : List Char) : Option (List Char) :=
  if cs = inputRoot then some []
  else (inputMark.isPrefixOf? cs).orElse fun _ => shortInputMark.isPrefixOf? cs

/-- Removes an index `[n]` at the very end. -/
def dropIndexAtEnd (cs : List Char) : List Char :=
  match cs.reverse with
  | ']' :: rest =>
    match rest.takeWhile isDigit, rest.dropWhile isDigit with
    | _ :: _, '[' :: front => front.reverse
    | _, _ => cs
  | _ => cs

/-- Removes an index at the end of a segment, where one line break may follow it. -/
def dropIndex (cs : List Char) : List Char :=
  if cs.getLast? = some '\n' then dropIndexAtEnd cs.dropLast ++ ['\n'] else dropIndexAtEnd cs

/-- The characters up to the first dot. -/
def headSegment (cs : List Char) : List Char := cs.takeWhile (· ≠ '.')

/-- The first segment of a path, without an index, trimmed. -/
def firstKey (s : String) : String :=
  String.ofList (trimChars (dropIndex (headSegment (trimChars s.toList))))

/-- The first key of a path, if it has one. -/
def firstKey? (s : String) : Option String :=
  let key := firstKey s
  if key = "" then none else some key

/-- The key of the run input that a reference text reads; the whole input has none. -/
def inputKey? (s : String) : Option String :=
  let cs := trimChars s.toList
  ((inputMark.isPrefixOf? cs).orElse fun _ => shortInputMark.isPrefixOf? cs).bind fun path =>
    firstKey? (String.ofList path)

end FlowGraph.Path
