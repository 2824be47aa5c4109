/-
# Reading numbers from text

Two readers of decimal numbers. The *generous* one takes decimal digits of any script, and a
single underscore between two digits. The *plain* one takes ASCII digits, and is what a typed
field accepts in place of a number. Both pass over white space around the number and take a sign.
-/

import FlowGraph.Text.Blank
import FlowGraph.Text.Digit

namespace FlowGraph.Decimal

open FlowGraph.Text

/-- The character is white space in the narrow sense: a blank but no information separator. -/
def isPlainSpace (c : Char) : Bool := isBlank c && !(0x1C ≤ c.toNat && c.toNat ≤ 0x1F)

/-- The characters without plain white space at either end. -/
def trimPlain (cs : List Char) : List Char :=
  ((cs.dropWhile isPlainSpace).reverse.dropWhile isPlainSpace).reverse

/-- Splits off a leading sign; `true` stands for minus. -/
def takeSign : List Char → Bool × List Char
  | '-' :: cs => (true, cs)
  | '+' :: cs => (false, cs)
  | cs => (false, cs)

/-- Removes single underscores between digits; anything but digits is refused. `afterDigit` is
true when a digit stands directly in front. -/
def joinDigits (digit : Char → Bool) : Bool → List Char → Option (List Char)
  | afterDigit, [] => if afterDigit then some [] else none
  | afterDigit, c :: cs =>
    if c = '_' then if afterDigit then joinDigits digit false cs else none
    else if digit c then (joinDigits digit true cs).map (c :: ·)
    else none

/-- No integer has more digits when it is read or written. -/
def maxDigits : Nat := 4300

/-- The integer that a sign and digits stand for, unless there are too many of them. -/
def signed? (negative : Bool) (digits : List Char) : Option Int :=
  if digits.length > maxDigits then none
  else some (if negative then -(digitsValue digits : Int) else (digitsValue digits : Int))

/-- The integer written by an optional sign and digits of any script. -/
def readInt? (s : String) : Option Int :=
  let (negative, body) := takeSign (trimPlain s.toList)
  (joinDigits isDigit false body).bind (signed? negative)

/-- The double nearest to `± mantissa * 10 ^ exponent`. Magnitudes far outside the range of a
double are decided without computing the power. -/
def ofScientific (negative : Bool) (mantissa : Nat) (exponent : Int) : Float :=
  let magnitude : Float :=
    if mantissa = 0 then 0
    else
      let order := ((Nat.toDigits 10 mantissa).length : Int) + exponent
      if order > 400 then 1 / 0
      else if order < -400 then 0
      else Float.ofScientific mantissa (exponent < 0) exponent.natAbs
  if negative then -magnitude else magnitude

/-- The exponent part of a number: nothing, or a mark, an optional sign and digits. -/
def readExponent? (digit : Char → Bool) : List Char → Option Int
  | [] => some 0
  | mark :: cs =>
    if mark = 'e' ∨ mark = 'E' then
      let (negative, digits) := takeSign cs
      if digits ≠ [] ∧ digits.all digit then
        some (if negative then -(digitsValue digits : Int) else (digitsValue digits : Int))
      else none
    else none

/-- The fraction of a number, with its point. -/
def takeFraction (digit : Char → Bool) : List Char → List Char × List Char
  | '.' :: cs => (cs.takeWhile digit, cs.dropWhile digit)
  | cs => ([], cs)

/-- The magnitude and sign of a number without blanks: digits with an optional point and exponent,
or one of the names of infinity and of the value that is no number. -/
def readUnspaced? (digit : Char → Bool) (cs : List Char) : Option Float :=
  let (negative, body) := takeSign cs
  let name := String.ofList (body.map Char.toLower)
  if name = "inf" ∨ name = "infinity" then some (if negative then -(1 / 0) else 1 / 0)
  else if name = "nan" then some (0 / 0)
  else
    let whole := body.takeWhile digit
    let (fraction, rest) := takeFraction digit (body.dropWhile digit)
    if whole = [] ∧ fraction = [] then none
    else
      (readExponent? digit rest).map fun exponent =>
        ofScientific negative (digitsValue (whole ++ fraction)) (exponent - (fraction.length : Int))

/-- Removes underscores, each of which must stand between two digits. -/
def dropSeparators (digit : Char → Bool) : Bool → List Char → Option (List Char)
  | _, [] => some []
  | afterDigit, '_' :: cs =>
    if afterDigit && (cs.head?.map digit).getD false then dropSeparators digit false cs else none
  | _, c :: cs => (dropSeparators digit (digit c) cs).map (c :: ·)

/-- The double written by a generous number text. -/
def readFloat? (s : String) : Option Float :=
  (dropSeparators isDigit false (trimPlain s.toList)).bind (readUnspaced? isDigit)

/-- Underscores are no longer looked at one by one: none may lead, end or follow another. -/
def withoutUnderscores? (cs : List Char) : Option (List Char) :=
  let spaced := (cs.zip (cs.drop 1)).all fun pair => !(pair.1 == '_' && pair.2 == '_')
  if cs.head? = some '_' ∨ cs.getLast? = some '_' ∨ !spaced then none
  else if cs.contains '_' then some (cs.filter (· ≠ '_'))
  else none

/-- The double that a numeric text stands for in a typed field. -/
def readPlainFloat? (s : String) : Option Float :=
  (readUnspaced? Char.isDigit (trimPlain s.toList)).orElse fun _ =>
    (withoutUnderscores? s.toList).bind (readUnspaced? Char.isDigit)

/-- Passes over further zeros and underscores of a number; `last` stood in front of them. Only a
digit, a sign or a point may follow, and at a point or at the end the last of them is kept. -/
def skipZeros? (last : Char) : List Char → Option (List Char)
  | [] => some [last]
  | c :: cs =>
    if c = '0' ∨ c = '_' then skipZeros? c cs
    else if c.isDigit ∨ c = '-' then some (c :: cs)
    else if c = '.' then some (last :: c :: cs)
    else none

/-- The number without zeros in front. -/
def withoutZeros? : List Char → Option (List Char)
  | [] => none
  | c :: cs =>
    if c = '0' then skipZeros? c cs else if c.isDigit ∨ c = '-' then some (c :: cs) else none

/-- The number without a fraction of zeros; a point needs a zero behind it. -/
def withoutFraction (cs : List Char) : List Char :=
  let fraction := (cs.dropWhile (· ≠ '.')).drop 1
  if fraction ≠ [] && fraction.all (· = '0') then cs.takeWhile (· ≠ '.') else cs

/-- The sign of an integer, its digits, and what follows them. A zero in front must stand alone. -/
def splitSign? (cs : List Char) : Option (Bool × List Char × List Char) :=
  let (negative, body) :=
    match cs with
    | '-' :: rest => (true, rest)
    | rest => (false, rest)
  let digits := body.takeWhile Char.isDigit
  if digits = [] || (digits.head? = some '0' && digits ≠ ['0']) then none
  else some (negative, digits, body.dropWhile Char.isDigit)

/-- The sign and the digits of the integer that a numeric text begins with in a typed field, and
what follows them. A plus sign, zeros in front, a fraction of zeros and single underscores are
passed over, one after the other. -/
def plainDigits? (s : String) : Option (Bool × List Char × List Char) := do
  let cs := trimPlain s.toList
  let unsigned ←
    match cs with
    | '+' :: '-' :: _ => none
    | '+' :: rest => some rest
    | rest => some rest
  let whole := withoutFraction (← withoutZeros? unsigned)
  splitSign? ((withoutUnderscores? whole).getD whole)

/-- A double can come near to the integer: it is less than halfway between the greatest double and
the next power of two. -/
def fitsDouble (n : Int) : Bool := n.natAbs < (Nat.pow 2 54 - 1) * Nat.pow 2 970

end FlowGraph.Decimal
