/-
# Typed fields

Documents, commands and policies arrive as free-form values and are read into typed records. A
reading reports every fault it finds, each with the path to the offending place, and not only the
first one. Numbers are read generously: a typed number also accepts a boolean or a numeric text.
-/

import FlowGraph.Decimal.Reading
import FlowGraph.Decimal.Shortest
import FlowGraph.Value.Basic

namespace FlowGraph.Schema

/-- What is wrong with a field. -/
inductive FaultKind where
  | missing
  | notText
  | notTuple
  | notList
  | notMapping
  | notRecord
  | notInt
  | intText
  | intLength
  | intFraction
  | notFinite
  | notFloat
  | floatText
  | notBool
  | boolText
  deriving DecidableEq, Repr

/-- The code under which a kind of fault is reported. -/
def FaultKind.code : FaultKind → String
  | missing => "missing"
  | notText => "string_type"
  | notTuple => "tuple_type"
  | notList => "list_type"
  | notMapping => "dict_type"
  | notRecord => "model_type"
  | notInt => "int_type"
  | intText => "int_parsing"
  | intLength => "int_parsing_size"
  | intFraction => "int_from_float"
  | notFinite => "finite_number"
  | notFloat => "float_type"
  | floatText => "float_parsing"
  | notBool => "bool_type"
  | boolText => "bool_parsing"

/-- A fault and the path to it. -/
structure Fault where
  path : List String
  kind : FaultKind
  deriving DecidableEq, Repr

/-- One line of a report: the dotted path and the code. -/
def Fault.line (fault : Fault) : String :=
  String.intercalate "." fault.path ++ ": " ++ fault.kind.code

/-- Puts a line into an ascending list of lines. -/
def insertLine (line : String) : List String → List String
  | [] => [line]
  | other :: rest => if other < line then other :: insertLine line rest else line :: other :: rest

/-- All faults in one text, in ascending order. -/
def report (faults : List Fault) : String :=
  String.intercalate "; " ((faults.map Fault.line).foldr insertLine [])

/-- A value read from a field, or everything that is wrong with it. -/
inductive Checked (α : Type) where
  | ok (value : α)
  | bad (faults : List Fault)

namespace Checked

variable {α β : Type}

/-- Applies a function to what was read; faults stay as they are. -/
def map (f : α → β) : Checked α → Checked β
  | ok value => ok (f value)
  | bad faults => bad faults

/-- Applies a function that was read to an argument that was read; faults of both are kept. -/
def apply : Checked (α → β) → Checked α → Checked β
  | ok f, ok value => ok (f value)
  | ok _, bad faults => bad faults
  | bad faults, ok _ => bad faults
  | bad first, bad second => bad (first ++ second)

/-- Mapping works on what was read. -/
instance : Functor Checked where
  map := map

/-- Reading two things side by side gathers the faults of both. -/
instance : Applicative Checked where
  pure := ok
  seq f x := apply f (x ())

/-- Moves the faults one step down a path. -/
def under (name : String) : Checked α → Checked α
  | ok value => ok value
  | bad faults => bad (faults.map fun fault => { fault with path := name :: fault.path })

/-- A single fault at the current place. -/
def fault (kind : FaultKind) : Checked α := bad [⟨[], kind⟩]

/-- All elements, or the faults of all of them. -/
def all : List (Checked α) → Checked (List α)
  | [] => ok []
  | first :: rest => apply (map List.cons first) (all rest)

end Checked

/-- How a kind of field is read. -/
abbrev Reader (α : Type) := Value → Checked α

/-- A text. -/
def text : Reader String
  | .text s => .ok s
  | _ => .fault .notText

/-- The double nearest to an integer. -/
def floatOfInt (n : Int) : Float := Decimal.ofScientific (n < 0) n.natAbs 0

/-- A double: a number, a boolean as one or zero, or a numeric text. -/
def float : Reader Float
  | .float x => .ok x
  | .bool b => .ok (if b then 1 else 0)
  | .int n => if Decimal.fitsDouble n then .ok (floatOfInt n) else .fault .notFloat
  | .text s =>
    match Decimal.readPlainFloat? s with
    | some x => .ok x
    | none => .fault .floatText
  | _ => .fault .notFloat

/-- The integer part of a finite double. -/
def truncate (x : Float) : Int :=
  let dyadic := Decimal.Dyadic.ofBits x.toBits
  let (up, down) := Decimal.scale 2 dyadic.exponent
  let magnitude := dyadic.mantissa * up / down
  if x.toBits >>> 63 = 1 then -(magnitude : Int) else magnitude

/-- The integer lies within 64 bits. -/
def isShort (n : Int) : Bool := -9223372036854775808 ≤ n && n ≤ 9223372036854775807

/-- The double has no fraction. -/
def isWhole (x : Float) : Bool := x.isFinite && floatOfInt (truncate x) == x

/-- A double without a fraction lies within 63 bits and a sign. -/
def isShortFloat (x : Float) : Bool := (truncate x).natAbs < 9223372036854775808

/-- An integer: an integer, a boolean as one or zero, a double without a fraction, or the text of
an integer. -/
def int : Reader Int
  | .int n => .ok n
  | .bool b => .ok (if b then 1 else 0)
  | .float x =>
    if !x.isFinite then .fault .notFinite
    else if !isWhole x then .fault .intFraction
    else if isShortFloat x then .ok (truncate x)
    else .fault .intLength
  | .text s =>
    match Decimal.plainDigits? s with
    | none => .fault .intText
    | some (negative, digits, rest) =>
      if digits.length + (if negative then 1 else 0) > Decimal.maxDigits then .fault .intLength
      else if rest = [] then
        let n := (Text.digitsValue digits : Int)
        .ok (if negative then -n else n)
      else .fault .intText
  | _ => .fault .notInt

/-- The words for true. -/
def trueWords : List String := ["1", "on", "true", "t", "yes", "y"]

/-- The words for false. -/
def falseWords : List String := ["0", "off", "false", "f", "no", "n"]

/-- A boolean: a boolean, one or zero, or one of the words for them in any case. -/
def bool : Reader Bool
  | .bool b => .ok b
  | .int n =>
    if n = 1 then .ok true
    else if n = 0 then .ok false
    else if isShort n then .fault .boolText
    else .fault .notBool
  | .float x =>
    if x == 1 then .ok true
    else if x == 0 then .ok false
    else if isWhole x && isShortFloat x then .fault .boolText
    else .fault .notBool
  | .text s =>
    let word := String.ofList (s.toList.map Char.toLower)
    if trueWords.contains word then .ok true
    else if falseWords.contains word then .ok false
    else .fault .boolText
  | _ => .fault .notBool

/-- A mapping, as it is. -/
def mapping : Reader (Fields Value)
  | .object fields => .ok fields
  | _ => .fault .notMapping

/-- A mapping to one kind of field. -/
def mappingOf {α : Type} (reader : Reader α) : Reader (Fields α)
  | .object fields =>
    .all (fields.map fun pair => ((reader pair.2).map fun held => (pair.1, held)).under pair.1)
  | _ => .fault .notMapping

/-- The readings of the items of a list, numbered from `start`. -/
def items {α : Type} (reader : Reader α) (start : Nat) : List Value → List (Checked α)
  | [] => []
  | item :: rest =>
    (reader item).under (String.ofList (Nat.toDigits 10 start)) :: items reader (start + 1) rest

/-- A list of one kind of field. -/
def listOf {α : Type} (reader : Reader α) : Reader (List α)
  | .list values => .all (items reader 0 values)
  | _ => .fault .notList

/-- A sequence of fixed content, written as a list. -/
def tupleOf {α : Type} (reader : Reader α) : Reader (List α)
  | .list values => .all (items reader 0 values)
  | _ => .fault .notTuple

/-- Null, or the field itself. -/
def optional {α : Type} (reader : Reader α) : Reader (Option α)
  | .null => .ok none
  | value => (reader value).map some

/-- A record: a mapping whose fields are read by name. -/
def record {α : Type} (read : Fields Value → Checked α) : Reader α
  | .object fields => read fields
  | _ => .fault .notRecord

/-- A field that must be present. -/
def required {α : Type} (fields : Fields Value) (name : String) (reader : Reader α) : Checked α :=
  match Fields.get? fields name with
  | some value => (reader value).under name
  | none => (Checked.fault .missing).under name

/-- A field that has a default. -/
def withDefault {α : Type} (fields : Fields Value) (name : String) (reader : Reader α)
    (fallback : α) : Checked α :=
  match Fields.get? fields name with
  | some value => (reader value).under name
  | none => .ok fallback

end FlowGraph.Schema
