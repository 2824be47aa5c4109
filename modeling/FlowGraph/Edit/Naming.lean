/-
# Fresh names

New nodes and edges get ids that are not in use, and labels that continue a numbered series. An id
is the first free one of its candidate sequence.
-/

import FlowGraph.Value.Key

namespace FlowGraph.Naming

/-- The text of a natural number. -/
def numeral (n : Nat) : String := String.ofList (Nat.toDigits 10 n)

/-- The first of `fuel + 1` candidates, from number `start` on, that is not used. -/
def firstFree (candidate : Nat → String) (used : List String) : Nat → Nat → String
  | 0, start => candidate start
  | fuel + 1, start =>
    if used.contains (candidate start) then firstFree candidate used fuel (start + 1)
    else candidate start

/-- The sequence `base`, `base_2`, `base_3`, …, numbered from one. -/
def suffixed (base : String) (n : Nat) : String :=
  if n ≤ 1 then base else base ++ "_" ++ numeral n

/-- The first of `base`, `base_2`, `base_3`, … that is not used. One candidate more than there are
used texts is always enough. -/
def unique (base : String) (used : List String) : String :=
  firstFree (suffixed base) used used.length 1

/-- The first of `type_1`, `type_2`, … that is not used. -/
def nextNodeId (type : String) (used : List String) : String :=
  firstFree (fun n => type ++ "_" ++ numeral n) used used.length 1

/-- A fresh id for an edge, named for its ends and its handle. -/
def nextEdgeId (source target : String) (handle : Option String) (used : List String) : String :=
  let branch := handle.getD ""
  unique ("edge_" ++ source ++ "_" ++ target ++ (if branch = "" then "" else "_" ++ branch)) used

/-- The number of a label in the series of `base`: one for the base itself, what is written after
it otherwise, and zero for a label of another series. -/
def seriesNumber (base label : List Char) : Except Failure Nat :=
  match base.isPrefixOf? label with
  | some [] => .ok 1
  | some (' ' :: digits) =>
    if digits ≠ [] ∧ digits.all Text.isDigit then
      if digits.length ≤ Decimal.maxDigits then .ok (Text.digitsValue digits)
      else .error (.tooManyDigits (some digits.length))
    else .ok 0
  | _ => .ok 0

/-- The base of a series, which is not blank. -/
def seriesBase (base : String) : String :=
  let trimmed := Text.trim base
  if trimmed = "" then "Step" else trimmed

/-- A label for a new node: the base if the series is empty, and otherwise one past its greatest
number. -/
def nextLabel (base : String) (labels : List String) : Except Failure String := do
  let base := seriesBase base
  let numbers ← labels.mapM fun label => seriesNumber base.toList (Text.trim label).toList
  match numbers.foldr max 0 with
  | 0 => return base
  | highest =>
    let next := numeral (highest + 1)
    if next.length ≤ Decimal.maxDigits then return base ++ " " ++ next
    else .error (.tooManyDigits none)

/-- The same for values: the base has to be a text, and a label that counts as nothing belongs to
no series. -/
def nextLabelOf (base : Value) (labels : List Value) : Except Failure String :=
  match base with
  | .text base => do nextLabel base (← labels.mapM Value.onlyText)
  | _ => .error .notMapping

end FlowGraph.Naming
