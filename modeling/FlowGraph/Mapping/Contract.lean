/-
# Binding contracts

Which input slots a step accepts. Fitting bindings to a contract drops the slots it does not
accept, stubs those it asks for, and turns references to steps out of reach into run inputs.
-/

import FlowGraph.Mapping.Basic

namespace FlowGraph.Mapping

/-- The slots a step accepts. An enforced contract asks for exactly the expected ones; any other
limits their number, if at all. -/
structure Contract where
  expectedTargets : List String := []
  enforced : Bool := false
  maxMappings : Option Int := none
  deriving DecidableEq, Repr

/-- A contract is read from a record. -/
def Contract.reader : Schema.Reader Contract := Schema.record fun fields =>
  Contract.mk
    <$> Schema.withDefault fields "expected_targets" (Schema.listOf Schema.text) []
    <*> Schema.withDefault fields "enforce_expected_targets" Schema.bool false
    <*> Schema.withDefault fields "max_mappings" (Schema.optional Schema.int) none

/-- The contract of a node, and that of no node. -/
def Contract.ofNode (node : Option Node) : Contract :=
  match node with
  | none => {}
  | some node =>
    match (node.modeRecord?.map Mode.expectedTargets).getD [] with
    | [] => { maxMappings := some 0 }
    | expected =>
      { expectedTargets := expected, enforced := true
        maxMappings := some (expected.length : Int) }

/-- A reference to a step out of reach becomes a run input over the same path. -/
def downgrade (allowed : List String) (binding : Binding) : Binding :=
  match binding with
  | .stepOutput stepId path => if allowed.contains stepId then binding else .runInput path
  | _ => binding

/-- The bindings that a contract keeps, stubs included. -/
def Contract.select (contract : Contract) (bindings : Bindings) : Bindings :=
  if contract.enforced then
    Fields.ofPairs (contract.expectedTargets.map fun slot =>
      (slot, (Fields.get? bindings slot).getD (.runInput "")))
  else
    match contract.maxMappings with
    | some limit => bindings.take limit.toNat
    | none => bindings

/-- Bindings fitted to a contract, with references to the allowed steps only. -/
def reconcile (contract : Contract) (allowed : List String) (bindings : Bindings) : Bindings :=
  Fields.mapValues (downgrade allowed) (contract.select bindings)

end FlowGraph.Mapping
