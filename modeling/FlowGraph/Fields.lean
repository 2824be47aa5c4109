/-
# Fields

A mapping from texts that remembers the order in which its keys first arrived. It carries
configurations, bindings, canvas positions and stage maps, all of which are shown or walked in
that order.
-/

namespace FlowGraph

universe u v

/-- Pairs of a key and what it holds, in order of arrival. -/
abbrev Fields (α : Type u) := List (String × α)

namespace Fields

variable {α : Type u} {β : Type v}

/-- What the key holds; the first pair counts. -/
def get? : Fields α → String → Option α
  | [], _ => none
  | (name, held) :: rest, key => if name = key then some held else get? rest key

/-- The keys in order. -/
def keys (fields : Fields α) : List String := fields.map Prod.fst

/-- The key is present. -/
def has (fields : Fields α) (key : String) : Bool := (get? fields key).isSome

/-- Stores under the key: a present key keeps its place, a new one goes to the end. -/
def set : Fields α → String → α → Fields α
  | [], key, held => [(key, held)]
  | (name, old) :: rest, key, held =>
    if name = key then (key, held) :: rest else (name, old) :: set rest key held

/-- Stores the pairs one after another: a repeated key keeps its first place and its last value. -/
def setAll (fields : Fields α) (pairs : List (String × α)) : Fields α :=
  pairs.foldl (fun acc pair => set acc pair.1 pair.2) fields

/-- The mapping built by storing the pairs one after another. -/
def ofPairs (pairs : List (String × α)) : Fields α := setAll [] pairs

/-- The mapping without the key. -/
def erase (fields : Fields α) (key : String) : Fields α := fields.filter fun pair => pair.1 ≠ key

/-- The mapping with every held thing replaced. -/
def mapValues (f : α → β) (fields : Fields α) : Fields β :=
  fields.map fun pair => (pair.1, f pair.2)

end Fields

end FlowGraph
