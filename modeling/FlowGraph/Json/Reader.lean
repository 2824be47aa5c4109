/-
# Reading JSON

A total reader for JSON texts. Numbers without a fraction and an exponent are integers of up to
4300 digits, all others are doubles; the names of the two infinities and of the value that is no
number are read too. A repeated key keeps its first place and its last value. Half of a surrogate
pair is read as the replacement character.
-/

import FlowGraph.Decimal.Reading
import FlowGraph.Value.Basic

namespace FlowGraph.Json

/-- White space between tokens. -/
def isSpace (c : Char) : Bool := c = ' ' || c = '\t' || c = '\n' || c = '\r'

/-- The characters after leading white space. -/
def skip (cs : List Char) : List Char := cs.dropWhile isSpace

/-- The 16-bit unit written by four hexadecimal digits. -/
def unit? (a b c d : Char) : Option Nat := do
  return (((← Text.hexValue? a) * 16 + (← Text.hexValue? b)) * 16 + (← Text.hexValue? c)) * 16
    + (← Text.hexValue? d)

/-- The character of a one-letter escape. -/
def escaped? : Char → Option Char
  | '"' => some '"'
  | '\\' => some '\\'
  | '/' => some '/'
  | 'b' => some '\u0008'
  | 'f' => some '\u000c'
  | 'n' => some '\n'
  | 'r' => some '\r'
  | 't' => some '\t'
  | _ => none

/-- Adds a 16-bit unit to the characters read so far (nearest first). `high` is a first half of a
surrogate pair that still waits for its second half. -/
def addUnit (high : Option Nat) (unit : Nat) (read : List Char) : Option Nat × List Char :=
  match high with
  | some first =>
    if 0xDC00 ≤ unit ∧ unit < 0xE000 then
      (none, Char.ofNat (0x10000 + (first - 0xD800) * 0x400 + (unit - 0xDC00)) :: read)
    else if 0xD800 ≤ unit ∧ unit < 0xDC00 then (some unit, '\uFFFD' :: read)
    else (none, Char.ofNat unit :: '\uFFFD' :: read)
  | none =>
    if 0xD800 ≤ unit ∧ unit < 0xDC00 then (some unit, read)
    else if 0xDC00 ≤ unit ∧ unit < 0xE000 then (none, '\uFFFD' :: read)
    else (none, Char.ofNat unit :: read)

/-- Ends a run of 16-bit units. -/
def settle (high : Option Nat) (read : List Char) : List Char :=
  if high.isSome then '\uFFFD' :: read else read

/-- Reads the rest of a text after its opening quote. -/
def readText (high : Option Nat) (read : List Char) : List Char → Option (String × List Char)
  | [] => none
  | '"' :: cs => some (String.ofList (settle high read).reverse, cs)
  | '\\' :: 'u' :: a :: b :: c :: d :: cs =>
    match unit? a b c d with
    | some unit =>
      let (high, read) := addUnit high unit read
      readText high read cs
    | none => none
  | '\\' :: c :: cs =>
    match escaped? c with
    | some plain => readText none (plain :: settle high read) cs
    | none => none
  | c :: cs => if c.toNat < 0x20 then none else readText none (c :: settle high read) cs

/-- The value of a number text. -/
def number? (cs : List Char) : Option Value :=
  let (negative, body) :=
    match cs with
    | '-' :: rest => (true, rest)
    | rest => (false, rest)
  let whole := body.takeWhile Char.isDigit
  let rest := body.dropWhile Char.isDigit
  let wellFormed := whole ≠ [] ∧ (whole.length = 1 ∨ whole.head? ≠ some '0')
  if ¬ wellFormed then none
  else if rest = [] then (Decimal.signed? negative whole).map Value.int
  else
    let (fraction, tail) := Decimal.takeFraction Char.isDigit rest
    if rest.head? = some '.' ∧ fraction = [] then none
    else
      (Decimal.readExponent? Char.isDigit tail).map fun exponent =>
        .float (Decimal.ofScientific negative (Text.digitsValue (whole ++ fraction))
          (exponent - (fraction.length : Int)))

/-- The character can belong to a number or a name. -/
def isAtom (c : Char) : Bool := c.isAlphanum || c = '+' || c = '-' || c = '.'

/-- The value of a number or a name. -/
def atom? (cs : List Char) : Option Value :=
  match String.ofList cs with
  | "null" => some .null
  | "true" => some (.bool true)
  | "false" => some (.bool false)
  | "NaN" => some (.float (0 / 0))
  | "Infinity" => some (.float (1 / 0))
  | "-Infinity" => some (.float (-(1 / 0)))
  | _ => number? cs

mutual

/-- Reads one value. Every call uses up one unit of fuel, and two calls use up a character. -/
def readValue : Nat → List Char → Option (Value × List Char)
  | 0, _ => none
  | fuel + 1, cs =>
    match skip cs with
    | [] => none
    | '"' :: rest => (readText none [] rest).map fun (s, rest) => (.text s, rest)
    | '[' :: rest =>
      match skip rest with
      | ']' :: rest => some (.list [], rest)
      | rest => (readItems fuel rest).map fun (items, rest) => (.list items, rest)
    | '\x7b' :: rest =>
      match skip rest with
      | '\x7d' :: rest => some (.object [], rest)
      | rest =>
        (readFields fuel rest).map fun (pairs, rest) => (.object (Fields.ofPairs pairs), rest)
    | rest => (atom? (rest.takeWhile isAtom)).map fun value => (value, rest.dropWhile isAtom)

/-- Reads the items of a list up to its closing bracket. -/
def readItems : Nat → List Char → Option (List Value × List Char)
  | 0, _ => none
  | fuel + 1, cs =>
    match readValue fuel cs with
    | none => none
    | some (item, rest) =>
      match skip rest with
      | ',' :: rest => (readItems fuel rest).map fun (items, rest) => (item :: items, rest)
      | ']' :: rest => some ([item], rest)
      | _ => none

/-- Reads the fields of an object up to its closing brace. -/
def readFields : Nat → List Char → Option (List (String × Value) × List Char)
  | 0, _ => none
  | fuel + 1, cs =>
    match skip cs with
    | '"' :: rest =>
      match readText none [] rest with
      | none => none
      | some (key, rest) =>
        match skip rest with
        | ':' :: rest =>
          match readValue fuel rest with
          | none => none
          | some (held, rest) =>
            match skip rest with
            | ',' :: rest =>
              (readFields fuel rest).map fun (pairs, rest) => ((key, held) :: pairs, rest)
            | '\x7d' :: rest => some ([(key, held)], rest)
            | _ => none
        | _ => none
    | _ => none

end

/-- The value that a whole text stands for. -/
def read? (s : String) : Option Value :=
  let cs := s.toList
  match readValue (2 * cs.length + 2) cs with
  | some (value, rest) => if skip rest = [] then some value else none
  | none => none

end FlowGraph.Json
