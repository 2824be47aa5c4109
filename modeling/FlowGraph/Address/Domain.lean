/-
# Domains

The name of a host in any script, and how it is written with ASCII characters. A domain consists of
labels between dots. Each label has to be composed, must not begin with a mark, and may hold only
characters of the repertoire, some of them only in the neighbourhood of others; and in a label that
is written from right to left no letter may run the other way.
-/

import FlowGraph.Address.Punycode
import FlowGraph.Address.Repertoire
import FlowGraph.Text.Composed
import FlowGraph.Text.ScriptTable

namespace FlowGraph.Domain

open FlowGraph.Text

/-- How a character is written. -/
inductive Direction where
  | leftToRight
  | rightToLeft
  | arabic
  | arabicDigit
  | asciiDigit
  | mark
  | neutral
  deriving DecidableEq, Repr

/-- What a label makes of a character: it has a direction, and if it is a spacing mark it cannot
begin a label. -/
structure Entry where
  direction : Direction
  isMark : Bool := false

/-- Every second character of one of the runs. -/
def inAlternateRuns (runs : List (Nat × Nat)) (code : Nat) : Bool :=
  runs.any fun (first, last) => first ≤ code && code ≤ last && (code - first) % 2 == 0

/-- The entry of a character of the repertoire, or of a character that may stand in some
neighbourhoods only. -/
def entry? (c : Char) : Option Entry :=
  let code := c.toNat
  let lies := fun ranges => inRanges ranges code
  if lies Repertoire.letterRanges || inAlternateRuns Repertoire.alternateLetterRuns code then
    some { direction := .leftToRight }
  else if lies Repertoire.asciiDigitRanges || lies [(0x6F0, 0x6F9)] then
    some { direction := .asciiDigit }
  else if lies Repertoire.hyphenRanges || lies Repertoire.neutralRanges
      || [0xB7, 0x375, 0x200C, 0x200D, 0x30FB].contains code then
    some { direction := .neutral }
  else if lies Repertoire.markRanges then some { direction := .mark, isMark := true }
  else if lies Repertoire.spacingMarkRanges then
    some { direction := .leftToRight, isMark := true }
  else if lies Repertoire.rightToLeftRanges || lies [(0x5F3, 0x5F4)] then
    some { direction := .rightToLeft }
  else if lies Repertoire.arabicRanges then some { direction := .arabic }
  else if lies Repertoire.arabicDigitRanges || lies [(0x660, 0x669)] then
    some { direction := .arabicDigit }
  else none

/-- Marks that letters pass over when they join, although they take up room or are letters
themselves. -/
def joinedOver : List Nat := [0xCBF, 0xCC6, 0x11A07, 0x11A08, 0x11C3F, 0x1E94B]

/-- Letters pass over the character when they join. -/
def isJoinedOver (c : Char) : Bool :=
  (inRanges Repertoire.markRanges c.toNat && c.toNat ≠ 0x1171E) || joinedOver.contains c.toNat

/-- The next character that letters do not pass over when they join lies in the ranges. -/
def nextJoins (ranges : List (Nat × Nat)) (cs : List Char) : Bool :=
  match cs.dropWhile isJoinedOver with
  | [] => false
  | c :: _ => inRanges ranges c.toNat

/-- The nearest character lies in the ranges. -/
def nearestIn (ranges : List (Nat × Nat)) (cs : List Char) : Bool :=
  (cs.head?.map fun c => inRanges ranges c.toNat).getD false

/-- The nearest character silences the vowel of a consonant. -/
def nearestSilences (cs : List Char) : Bool :=
  (cs.head?.map fun c => combiningClass c == 9).getD false

/-- A character that may stand only in some neighbourhoods stands in one of them. `before` are the
characters before it, nearest first, and `after` those after it. -/
def fits (before : List Char) (c : Char) (after : List Char) : Bool :=
  match c.toNat with
  | 0xB7 => before.head? = some 'l' && after.head? = some 'l'
  | 0x375 => nearestIn greekRanges after
  | 0x5F3 => nearestIn hebrewRanges before
  | 0x5F4 => nearestIn hebrewRanges before
  | 0x30FB => (before ++ after).any fun other => inRanges japaneseRanges other.toNat
  | 0x200C =>
    nearestSilences before
      || (nextJoins (leftJoiningRanges ++ bothJoiningRanges) before
        && nextJoins (rightJoiningRanges ++ bothJoiningRanges) after)
  | 0x200D => nearestSilences before
  | code =>
    let meets := fun ranges => (before ++ after).any fun other => inRanges ranges other.toNat
    if inRanges [(0x660, 0x669)] code then !meets [(0x6F0, 0x6F9)]
    else if inRanges [(0x6F0, 0x6F9)] code then !meets [(0x660, 0x669)]
    else true

/-- Every character of a label fits; `before` are those that were looked at, nearest first. -/
def allFit (before : List Char) : List Char → Bool
  | [] => true
  | c :: cs => fits before c cs && allFit (c :: before) cs

/-- Hyphens stand neither at an end of a label nor at both its third and its fourth place. -/
def hyphensFit (label : List Char) : Bool :=
  label.head? ≠ some '-' && label.getLast? ≠ some '-' && (label.drop 2).take 2 ≠ ['-', '-']

/-- Characters of these directions may stand together. Without a character that is written from
right to left all of them may. -/
def directionsFit (directions : List Direction) : Bool :=
  let holds := fun direction => directions.contains direction
  if holds .rightToLeft || holds .arabic || holds .arabicDigit then
    (directions.head? = some .rightToLeft || directions.head? = some .arabic)
      && !holds .leftToRight
      && !(holds .arabicDigit && holds .asciiDigit)
      && (match directions.reverse.dropWhile (· = .mark) with
        | [] => false
        | last :: _ => last ≠ .neutral)
  else true

/-- The text may be a label. -/
def isLabel (label : List Char) : Bool :=
  match label.mapM entry? with
  | none => false
  | some [] => false
  | some (first :: rest) =>
    label.length ≤ 254 && isComposed label && hyphensFit label && !first.isMark && allFit [] label
      && directionsFit ((first :: rest).map Entry.direction)

/-- The start of a label that is written with ASCII characters. -/
def mark : List Char := "xn--".toList

/-- A label with ASCII characters. One that was written so before has to be a label as well. -/
def asciiLabel? (label : List Char) : Option (List Char) :=
  let written :=
    if label.all Punycode.isAscii then
      match mark.isPrefixOf? label with
      | none => if isLabel label then some label else none
      | some rest =>
        if rest = [] ∨ rest.getLast? = some '-' then none
        else
          match Punycode.decode? rest with
          | some read => if isLabel read then some label else none
          | none => none
    else if isLabel label then some (mark ++ Punycode.encode label)
    else none
  written.bind fun label => if label.length ≤ 63 then some label else none

/-- The characters that divide a domain into labels. -/
def dots : List Char := ['.', '\u3002', '\uFF0E', '\uFF61']

/-- The labels between the dots. -/
def labels : List Char → List (List Char)
  | [] => [[]]
  | c :: cs =>
    match labels cs with
    | [] => [[c]]
    | first :: rest => if dots.contains c then [] :: first :: rest else (c :: first) :: rest

/-- A domain with ASCII characters; a dot at its end is kept. -/
def ascii? (domain : List Char) : Option (List Char) :=
  let all := labels domain
  let isRooted := all.getLast? = some []
  if domain.length > 254 then none
  else
    ((if isRooted then all.dropLast else all).mapM asciiLabel?).bind fun written =>
      let text := ['.'].intercalate (if isRooted then written ++ [[]] else written)
      if text.length ≤ (if isRooted then 254 else 253) then some text else none

end FlowGraph.Domain
