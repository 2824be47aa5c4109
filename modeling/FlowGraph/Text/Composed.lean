/-
# Composed texts

A letter with marks can be written in several ways: the marks apart or drawn into the letter, and
marks that do not touch each other in any order. A text is composed if it is written in the one
preferred way: marks that follow a letter are in the order of their classes, and every mark that
can be drawn into the letter is.
-/

import FlowGraph.Text.CombiningTable

namespace FlowGraph.Text

/-- The combining class of a character, zero unless it is a mark. -/
def combiningClass (c : Char) : Nat :=
  ((combiningRuns.find? fun (first, last, _) =>
    first ≤ c.toNat && c.toNat ≤ last).map fun run => run.2.2).getD 0

/-- The letter that a mark makes together with the letter before it. -/
def composePair? (letter mark : Char) : Option Char := do
  let (_, pairs) ← compositions.find? fun row => row.1 = mark.toNat
  let (_, made) ← pairs.find? fun pair => pair.1 = letter.toNat
  return Char.ofNat made

/-- The letter and the mark that a letter is made of. -/
def decomposePair? (c : Char) : Option (Char × Char) :=
  compositions.findSome? fun (mark, pairs) =>
    (pairs.find? fun pair => pair.2 = c.toNat).map fun pair =>
      (Char.ofNat pair.1, Char.ofNat mark)

/-- A character with its marks apart. No letter has more marks than `fuel` allows. -/
def decomposeChar : Nat → Char → List Char
  | 0, c => [c]
  | fuel + 1, c =>
    match decomposePair? c with
    | some (letter, mark) => decomposeChar fuel letter ++ [mark]
    | none => [c]

/-- Puts a mark behind those of its class or a lower one; `read` holds what was read, nearest
first, and no mark passes a letter. -/
def insertMark (mark : Char) : List Char → List Char
  | [] => [mark]
  | c :: read =>
    if combiningClass mark < combiningClass c then c :: insertMark mark read else mark :: c :: read

/-- The characters with the marks in the order of their classes. -/
def orderMarks (cs : List Char) : List Char :=
  (cs.foldl (fun read c =>
    if combiningClass c = 0 then c :: read else insertMark c read) []).reverse

/-- Draws marks into the last letter. `kept` are the marks between it and the rest that could not
be drawn in, nearest first; a mark of the same class or a higher one is in the way. -/
def composeFrom (letter : Char) (kept : List Char) : List Char → List Char
  | [] => letter :: kept.reverse
  | c :: cs =>
    let free := match kept with
      | [] => true
      | nearest :: _ => combiningClass nearest < combiningClass c
    match if free then composePair? letter c else none with
    | some made => composeFrom made kept cs
    | none =>
      if combiningClass c = 0 then letter :: kept.reverse ++ composeFrom c [] cs
      else composeFrom letter (c :: kept) cs

/-- The characters with the marks drawn into the letters before them. -/
def compose : List Char → List Char
  | [] => []
  | c :: cs => composeFrom c [] cs

/-- The text is written in the preferred way. -/
def isComposed (cs : List Char) : Bool :=
  compose (orderMarks (cs.flatMap (decomposeChar 4))) = cs

end FlowGraph.Text
