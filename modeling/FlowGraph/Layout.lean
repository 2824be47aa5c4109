/-
# Automatic layout

Left-to-right placement in columns. The columns are the stages; annotations have none and keep
their place. Within a column nodes are ordered by the mean of their parents' rows, with ties in
the order they had before, and the column is centred on the height of the origin. Rows are found
first, over integers; only then are coordinates computed.
-/

import FlowGraph.Stage

namespace FlowGraph.Layout

/-- The sources of the edges into a node, from other staged nodes, one for each edge. -/
def parents (stages : Fields Int) (edges : List Edge) (id : String) : List String :=
  (edges.filter fun edge =>
    edge.target = id && Fields.has stages edge.source && edge.source ≠ id).map Edge.source

/-- A rank for each node. -/
abbrev Ranks := Fields Nat

/-- The rank of a node, zero if it has none. -/
def rankOf (ranks : Ranks) (id : String) : Nat := (Fields.get? ranks id).getD 0

/-- The sum and the number of the ranks whose mean decides a node's row: those of its parents, or
its own if it has none. -/
def pull (parentsOf : String → List String) (ranks : Ranks) (id : String) : Nat × Nat :=
  match parentsOf id with
  | [] => (rankOf ranks id, 1)
  | sources => ((sources.map (rankOf ranks)).foldr (· + ·) 0, sources.length)

/-- The order of two nodes in a column: by their means, then by their ranks. -/
def standsBefore (parentsOf : String → List String) (ranks : Ranks) (a b : String) : Bool :=
  let (sumA, countA) := pull parentsOf ranks a
  let (sumB, countB) := pull parentsOf ranks b
  sumA * countB < sumB * countA
    || (sumA * countB == sumB * countA && rankOf ranks a ≤ rankOf ranks b)

/-- Numbers the elements of a column. -/
def numbered (column : List String) : List (String × Nat) := column.zip (List.range column.length)

/-- The columns in order, and the ranks that decide the next one. -/
structure Columns where
  ranks : Ranks
  done : List (Int × List String)

/-- Orders one more column, and gives its nodes their rows as ranks. -/
def Columns.add (parentsOf : String → List String) (columns : Columns) (stage : Int)
    (members : List String) : Columns :=
  let column := Order.sortBy (standsBefore parentsOf columns.ranks) members
  { ranks := Fields.setAll columns.ranks (numbered column)
    done := columns.done ++ [(stage, column)] }

/-- The staged nodes by stage, then by position in the document. -/
def ranked (stages : Fields Int) (ids : List String) : List String :=
  let before := fun a b =>
    Stage.entry stages a < Stage.entry stages b
      || (Stage.entry stages a == Stage.entry stages b
        && Stage.lastIndex ids a ≤ Stage.lastIndex ids b)
  Order.sortBy (fun a b => decide (before a b)) ids

/-- The distinct numbers of a list, in order of first appearance. -/
def distinctInts (numbers : List Int) : List Int :=
  numbers.foldl (fun seen n => if seen.contains n then seen else seen ++ [n]) []

/-- All columns, each with its nodes in row order. -/
def columns (stages : Fields Int) (ids : List String) (edges : List Edge) :
    List (Int × List String) :=
  let order := ranked stages ids
  let levels := distinctInts (order.map (Stage.entry stages))
  let start : Columns := { ranks := Fields.ofPairs (numbered order), done := [] }
  (levels.foldl (fun (columns : Columns) level =>
    columns.add (parents stages edges) level
      (order.filter fun id => Stage.entry stages id = level)) start).done

/-- The slot of a node: its column, its row, and the height of the column. -/
structure Slot where
  stage : Int
  row : Nat
  height : Nat
  deriving DecidableEq, Repr

/-- The slots of nodes, nothing for those without a stage. -/
def slots (nodes : List Node) (edges : List Edge) : List (Option Slot) :=
  let stages := Stage.compute nodes edges
  let ids := (nodes.map Node.id).filter (Fields.has stages)
  let columns := columns stages ids edges
  nodes.map fun node =>
    (Fields.get? stages node.id).map fun stage =>
      let column := ((columns.find? fun column => column.1 = stage).map Prod.snd).getD []
      { stage, row := column.idxOf node.id, height := column.length }

/-- Arithmetic on coordinates. -/
class Coordinate (α : Type) where
  ofInt : Int → α
  add : α → α → α
  mul : α → α → α
  neg : α → α
  half : α → α

/-- The spacing of a layout. -/
structure Spacing (α : Type) where
  columnGap : α
  rowGap : α
  originX : α
  originY : α

section

variable {α : Type} [Coordinate α]

open Coordinate

/-- The horizontal coordinate: one column gap for each stage. -/
def Slot.x (slot : Slot) (spacing : Spacing α) : α :=
  add spacing.originX (mul (ofInt slot.stage) spacing.columnGap)

/-- How far above the origin the column begins. -/
def Slot.rise (slot : Slot) (spacing : Spacing α) : α :=
  half (neg (mul (ofInt ((slot.height : Int) - 1)) spacing.rowGap))

/-- The vertical coordinate: the column is centred on the origin. -/
def Slot.y (slot : Slot) (spacing : Spacing α) : α :=
  add (add spacing.originY (slot.rise spacing)) (mul (ofInt slot.row) spacing.rowGap)

end

/-- A coordinate: an exact integer as long as only integers are involved, else a double. -/
inductive Number where
  | whole (n : Int)
  | real (x : Float)

namespace Number

/-- The number that a value stands for; a boolean counts as one or zero. -/
def ofValue? : Value → Option Number
  | .bool b => some (whole (if b then 1 else 0))
  | .int n => some (whole n)
  | .float x => some (real x)
  | _ => none

/-- The text of a number. -/
def text : Number → String
  | whole n => Decimal.intText n
  | real x => Decimal.floatText x

/-- The double nearest to a number. -/
def toFloat : Number → Float
  | whole n => Schema.floatOfInt n
  | real x => x

/-- A number as a field of a record: one that is too large for a double is none. -/
def checked : Number → Schema.Checked Float
  | whole n => Schema.float (.int n)
  | real x => .ok x

/-- The double nearest to a number, which must not be too large. -/
def narrow : Number → Except Failure Float
  | whole n => if Decimal.fitsDouble n then .ok (Schema.floatOfInt n) else .error .outOfRange
  | real x => .ok x

/-- Sums and products stay exact as long as both sides are; a half is always a double. -/
instance : Coordinate Number where
  ofInt := whole
  add
    | whole a, whole b => whole (a + b)
    | a, b => real (a.toFloat + b.toFloat)
  mul
    | whole a, whole b => whole (a * b)
    | a, b => real (a.toFloat * b.toFloat)
  neg
    | whole a => whole (-a)
    | real x => real (-x)
  half a := real (a.toFloat / 2)

/-- Half of an integer, unless it is too large for a double. -/
def halfOf (n : Int) : Except Failure Number :=
  if Decimal.fitsDouble (n / 2) then
    .ok (real (Decimal.ofScientific (n < 0) (5 * n.natAbs) (-1)))
  else .error .outOfRange

/-- The same arithmetic on numbers of any size: a number is out of range when it has to become a
double and is too large for one. -/
instance : Coordinate (Except Failure Number) where
  ofInt n := .ok (whole n)
  add a b := do
    match ← a, ← b with
    | whole a, whole b => return whole (a + b)
    | a, b => return real ((← a.narrow) + (← b.narrow))
  mul a b := do
    match ← a, ← b with
    | whole a, whole b => return whole (a * b)
    | a, b => return real ((← a.narrow) * (← b.narrow))
  neg a := do
    match ← a with
    | whole a => return whole (-a)
    | real x => return real (-x)
  half a := do
    match ← a with
    | whole n => halfOf n
    | real x => return real (x / 2)

end Number

/-- The spacing that is used unless another is asked for. -/
def standardSpacing : Spacing Number :=
  { columnGap := .whole 380, rowGap := .whole 180, originX := .whole 120, originY := .whole 220 }

/-- A node in its slot. -/
def Slot.place (spacing : Spacing Number) (node : Node) (slot : Option Slot) : Node :=
  match slot with
  | some slot =>
    { node with
      position := some [("x", (slot.x spacing).toFloat), ("y", (slot.y spacing).toFloat)] }
  | none => node.settled

/-- The nodes with their computed places, in the same order. -/
def place (spacing : Spacing Number) (nodes : List Node) (edges : List Edge) : List Node :=
  nodes.zipWith (Slot.place spacing) (slots nodes edges)

/-- A node in its slot, where distances may be of any size and need not even be numbers. -/
def Slot.placeChecked (spacing : Spacing (Except Failure Number)) (node : Node)
    (slot : Option Slot) : Except Failure Node :=
  match slot with
  | some slot => do
    let _ ← slot.rise spacing
    let x ← slot.x spacing
    let y ← slot.y spacing
    let axis := fun name (number : Number) =>
      (number.checked.map fun held => (name, held)).under name
    match (fun x y => [x, y]) <$> axis "x" x <*> axis "y" y with
    | .ok place => return { node with position := some place }
    | .bad faults =>
      .error (.invalid (faults.map fun fault => { fault with path := "position" :: fault.path }))
  | none => return node.settled

/-- The nodes with their computed places, in the same order, where distances may be of any size and
need not even be numbers. -/
def placeChecked (spacing : Spacing (Except Failure Number)) (nodes : List Node)
    (edges : List Edge) : Except Failure (List Node) :=
  (nodes.zip (slots nodes edges)).mapM fun (node, slot) => Slot.placeChecked spacing node slot

/-- A distance that a value tells; without a value the usual one. -/
def distance (given : Option Value) (usual : Number) : Except Failure Number :=
  match given with
  | some value =>
    match Number.ofValue? value with
    | some number => .ok number
    | none => .error .unsuitable
  | none => .ok usual

/-- The spacing that values tell, each of which may be left out. -/
def Spacing.ofValues (columnGap rowGap originX originY : Option Value) :
    Spacing (Except Failure Number) :=
  { columnGap := distance columnGap standardSpacing.columnGap
    rowGap := distance rowGap standardSpacing.rowGap
    originX := distance originX standardSpacing.originX
    originY := distance originY standardSpacing.originY }

end FlowGraph.Layout
