/-
# Connection verdicts

The outcome of asking whether an edge may be added: allowed or not, with what weight, why, and
what to connect instead.
-/

namespace FlowGraph

/-- The weight of a verdict. -/
inductive Level where
  | error
  | warning
  | info
  deriving DecidableEq, Repr

/-- The name of a weight. -/
def Level.name : Level → String
  | error => "error"
  | warning => "warning"
  | info => "info"

/-- Whether a connection may be made. -/
structure Verdict where
  allow : Bool
  level : Level := .info
  message : Option String := none
  suggestions : List String := []
  deriving DecidableEq, Repr

/-- A refusal. -/
def Verdict.refuse (message : String) (suggestions : List String) : Verdict :=
  { allow := false, level := .error, message := some message, suggestions }

end FlowGraph
