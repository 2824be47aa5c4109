/-
# Readiness issues

What is missing before a run, for one step.
-/

namespace FlowGraph

/-- The labels missing on one step: all of them, those a run input can supply, and those that
have to be set up first. -/
structure Issue where
  nodeId : String
  label : String
  missing : List String
  inputMissing : List String
  setupMissing : List String
  deriving DecidableEq, Repr

/-- The steps that have to be set up before a run. -/
def Issue.blockers (issues : List Issue) : List Issue :=
  issues.filter fun issue => !issue.setupMissing.isEmpty

end FlowGraph
