/-
# Free-form values

Step configuration, metadata, constants and everything a backend sends are free-form: they are
kept as they came, whatever their shape. Integers and doubles are different values.
-/

import FlowGraph.Fields

namespace FlowGraph

/-- A free-form value. The fields of an object remember their order. -/
inductive Value where
  | null
  | bool (b : Bool)
  | int (n : Int)
  | float (x : Float)
  | text (s : String)
  | list (items : List Value)
  | object (fields : List (String × Value))
  deriving Inhabited

namespace Value

/-- The value counts as something: not null, false, zero, or empty. -/
def isTruthy : Value → Bool
  | null => false
  | bool b => b
  | int n => n ≠ 0
  | float x => !(x == 0)
  | text s => s ≠ ""
  | list items => !items.isEmpty
  | object fields => !fields.isEmpty

/-- The fields of an object; any other value has none. -/
def fields : Value → Fields Value
  | object fields => fields
  | _ => []

/-- The fields of an object. -/
def asObject? : Value → Option (Fields Value)
  | object fields => some fields
  | _ => none

/-- The items of a list. -/
def asList? : Value → Option (List Value)
  | list items => some items
  | _ => none

/-- The value is a text. -/
def asText? : Value → Option String
  | text s => some s
  | _ => none

/-- What an object holds under the key; null if it holds nothing. -/
def field (value : Value) (key : String) : Value := (Fields.get? value.fields key).getD null

/-- The value, or the other one if it counts as nothing. -/
def orElse (value other : Value) : Value := if value.isTruthy then value else other

mutual

/-- The values are of one kind and equal as data; two mappings may hold their fields in different
orders. -/
def same : Value → Value → Bool
  | null, null => true
  | bool a, bool b => a == b
  | int a, int b => a == b
  | float a, float b => a == b
  | text a, text b => a == b
  | list as, list bs => sameItems as bs
  | object as, object bs => as.length == bs.length && sameFields as bs
  | _, _ => false

/-- Two lists hold the same values in the same order. -/
def sameItems : List Value → List Value → Bool
  | [], [] => true
  | a :: as, b :: bs => same a b && sameItems as bs
  | _, _ => false

/-- Every member of the first object has the same value in the second. -/
def sameFields : List (String × Value) → List (String × Value) → Bool
  | [], _ => true
  | (key, a) :: as, bs =>
    (match Fields.get? bs key with
      | some b => same a b
      | none => false) && sameFields as bs

end

mutual

/-- Every number in the value is finite. -/
def isFinite : Value → Bool
  | float x => x.isFinite
  | list items => itemsFinite items
  | object fields => fieldsFinite fields
  | _ => true

/-- Every number in a list of values is finite. -/
def itemsFinite : List Value → Bool
  | [] => true
  | item :: rest => isFinite item && itemsFinite rest

/-- Every number in the fields of an object is finite. -/
def fieldsFinite : List (String × Value) → Bool
  | [] => true
  | (_, held) :: rest => isFinite held && fieldsFinite rest

end

end Value

end FlowGraph
