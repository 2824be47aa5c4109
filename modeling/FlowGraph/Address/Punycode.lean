/-
# Punycode

Writes a text of any script with letters, digits and hyphens of ASCII, and reads it back. The ASCII
characters come first; each of the others follows as the distance, in a fixed order of all places
and code points, from the one before it. Distances are written with digits of a varying base whose
thresholds adapt to the distances written so far.
-/

namespace FlowGraph.Punycode

/-- The number of digits. -/
def base : Nat := 36

/-- The digit of a value below the base. -/
def digitChar (value : Nat) : Char :=
  if value < 26 then Char.ofNat (0x61 + value) else Char.ofNat (0x30 + (value - 26))

/-- The value of a digit; capitals count as small letters. -/
def digitValue? (c : Char) : Option Nat :=
  if 'a' ≤ c ∧ c ≤ 'z' then some (c.toNat - 0x61)
  else if 'A' ≤ c ∧ c ≤ 'Z' then some (c.toNat - 0x41)
  else if '0' ≤ c ∧ c ≤ '9' then some (c.toNat - 0x30 + 26)
  else none

/-- The threshold at a place of a distance: a digit below it is the last one. Places are counted
in steps of the base, starting from the base itself. -/
def threshold (bias place : Nat) : Nat := max 1 (min 26 (place - bias))

theorem threshold_pos (bias place : Nat) : 0 < threshold bias place := by
  unfold threshold
  omega

/-- Halves a distance again and again by 35 until it is small, and counts the steps. -/
def settle (distance place : Nat) : Nat × Nat :=
  if 455 < distance then settle (distance / 35) (place + base) else (distance, place)
termination_by distance
decreasing_by exact Nat.div_lt_self (by omega) (by decide)

/-- The bias after a distance, the first one or a later one, with which a text reached a length. -/
def adapt (distance length : Nat) (isFirst : Bool) : Nat :=
  let damped := if isFirst then distance / 700 else distance / 2
  let (rest, place) := settle (damped + damped / length) 0
  place + base * rest / (rest + 38)

/-- The digits of a distance, from a place on. -/
def digits (bias place distance : Nat) : List Char :=
  let least := threshold bias place
  if distance < least then [digitChar distance]
  else
    digitChar (least + (distance - least) % (base - least))
      :: digits bias (place + base) ((distance - least) / (base - least))
termination_by distance
decreasing_by
  have := threshold_pos bias place
  exact Nat.lt_of_le_of_lt (Nat.div_le_self _ _) (by omega)

/-- A text that is being written: the digits so far, the distance since the last character that was
written, how many characters are written, and the bias. -/
structure Writing where
  out : List Char := []
  distance : Nat := 0
  written : Nat
  bias : Nat := 72

/-- Passes a character while those of one code point are written; `plain` of the characters are
ASCII. -/
def Writing.pass (plain code : Nat) (state : Writing) (c : Char) : Writing :=
  if c.toNat < code then { state with distance := state.distance + 1 }
  else if c.toNat = code then
    { out := state.out ++ digits state.bias base state.distance
      distance := 0
      written := state.written + 1
      bias := adapt state.distance (state.written + 1) (state.written == plain) }
  else state

/-- Writes the characters of the given code points, which ascend; all below `next` are written. -/
def writeCodes (cs : List Char) (plain : Nat) : Nat → Writing → List Nat → Writing
  | _, state, [] => state
  | next, state, code :: codes =>
    let start :=
      { state with distance := state.distance + (code - next) * (state.written + 1) }
    let passed := cs.foldl (Writing.pass plain code) start
    writeCodes cs plain (code + 1) { passed with distance := passed.distance + 1 } codes

/-- Puts a number into an ascending list without repeats. -/
def insertCode (code : Nat) : List Nat → List Nat
  | [] => [code]
  | other :: rest =>
    if code < other then code :: other :: rest
    else if code = other then other :: rest
    else other :: insertCode code rest

/-- The character is one of ASCII. -/
def isAscii (c : Char) : Bool := c.toNat < 0x80

/-- Writes a text with ASCII characters. -/
def encode (cs : List Char) : List Char :=
  let plain := cs.filter isAscii
  let codes := ((cs.filter fun c => !isAscii c).map Char.toNat).foldr insertCode []
  let written := (writeCodes cs plain.length 0x80 { written := plain.length } codes).out
  if plain.isEmpty then written else plain ++ '-' :: written

/-- Reads one distance from a place on: what it adds up to, and the digits after it. Each digit
counts `weight` times its value. -/
def readDistance? (bias : Nat) : Nat → Nat → Nat → List Char → Option (Nat × List Char)
  | _, _, _, [] => none
  | place, weight, sum, c :: cs =>
    match digitValue? c with
    | none => none
    | some value =>
      let least := threshold bias place
      if value < least then some (sum + value * weight, cs)
      else
        readDistance? bias (place + base) (weight * (base - least)) (sum + value * weight) cs

/-- The code point belongs to a character. -/
def isCode (code : Nat) : Bool := code < 0xD800 || (0xDFFF < code && code < 0x110000)

/-- Puts the characters of the remaining distances into a text. `code` and `place` tell where the
next one would go at distance zero; `isFirst` holds before the first of them. -/
def readCodes? : Nat → (isFirst : Bool) → (bias code place : Nat) → List Char → List Char →
    Option (List Char)
  | 0, _, _, _, _, text, _ => some text
  | _ + 1, _, _, _, _, text, [] => some text
  | fuel + 1, isFirst, bias, code, place, text, cs =>
    match readDistance? bias base 1 0 cs with
    | none => none
    | some (distance, rest) =>
      let places := text.length + 1
      let next := code + (place + distance) / places
      let spot := (place + distance) % places
      if isCode next then
        readCodes? fuel false (adapt distance places isFirst) next (spot + 1)
          (text.take spot ++ Char.ofNat next :: text.drop spot) rest
      else none

/-- The characters before and after the last hyphen; without one all of them are after it. -/
def splitLastHyphen (cs : List Char) : List Char × List Char :=
  let after := (cs.reverse.takeWhile (· ≠ '-')).reverse
  (cs.take (cs.length - after.length - 1), after)

/-- Reads a text that was written with ASCII characters. -/
def decode? (cs : List Char) : Option (List Char) :=
  let (plain, distances) := splitLastHyphen cs
  readCodes? cs.length true 72 0x80 0 plain distances

end FlowGraph.Punycode
