/-
# Lower case

Lower-casing of whole texts. Almost every character is lowered by itself; the two exceptions are
a capital I with a dot above, which becomes two characters, and a capital sigma, whose form
depends on whether it ends a word.
-/

import FlowGraph.Text.CaseTable
import FlowGraph.Text.Ranges

namespace FlowGraph.Text

/-- The lower-case partner of a character that has exactly one, else the character itself. -/
def lowerChar (c : Char) : Char :=
  if c.toNat < 0x80 then c.toLower
  else
    match caseRuns.find? fun run =>
        run.first ≤ c.toNat && c.toNat ≤ run.last && (c.toNat - run.first) % run.step == 0 with
    | some run => Char.ofNat (c.toNat + run.shift).toNat
    | none => c

/-- The next letter that is not passed over has case; `cs` runs away from the sigma. -/
def facesCased : List Char → Bool
  | [] => false
  | c :: cs =>
    if inRanges caseIgnorableRanges c.toNat then facesCased cs else inRanges casedRanges c.toNat

/-- Lower-cases `cs`, which follows the characters `before` (nearest first). -/
def lowerFrom (before : List Char) : List Char → List Char
  | [] => []
  | c :: cs =>
    let lowered :=
      if c = 'Σ' then
        if facesCased before && !facesCased cs then ['ς'] else ['σ']
      else if c = 'İ' then ['i', '\u0307']
      else [lowerChar c]
    lowered ++ lowerFrom (c :: before) cs

/-- The text in lower case. -/
def lower (s : String) : String := String.ofList (lowerFrom [] s.toList)

end FlowGraph.Text
