/-
# Stable sorting

Insertion sort by a comparison. Elements that compare equal keep their order.
-/

namespace FlowGraph.Order

universe u

variable {α : Type u}

/-- Puts an element in front of the first one that it may stand in front of. -/
def insertBy (le : α → α → Bool) (a : α) : List α → List α
  | [] => [a]
  | b :: rest => if le a b then a :: b :: rest else b :: insertBy le a rest

/-- The elements in ascending order. -/
def sortBy (le : α → α → Bool) (elements : List α) : List α := elements.foldr (insertBy le) []

/-- Texts in ascending order, each once. -/
def sortedDistinct (texts : List String) : List String :=
  sortBy (fun a b => decide (a ≤ b))
    (texts.foldl (fun seen text => if seen.contains text then seen else seen ++ [text]) [])

end FlowGraph.Order
