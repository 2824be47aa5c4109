/-
# Checking declarations

What is wrong with the declaration of a node type. A type with problems is never registered, so
that a look-up in the catalog can rely on every mode having a name, a key and known kinds of data.
-/

import FlowGraph.Catalog.Basic

namespace FlowGraph

/-- The groups of the palette. -/
def paletteGroups : List String := ["core", "tools", "logic", "builder"]

/-- A problem of a declaration. -/
inductive Problem where
  | emptyName
  | unknownGroup (group : String)
  | unknownRouting (routing : String)
  | noModes
  | unnamedMode
  | unknownModeRouting (mode routing : String)
  | repeatedMode (mode : String)
  | noNodeKey (mode : String)
  | unknownCapability (mode : String)
  | unknownNeed (mode : String)
  | unknownOutput (mode slot output : String)
  | nothingToCheck (requirement : String)
  deriving DecidableEq, Repr

/-- The wording of a problem. -/
def Problem.message : Problem → String
  | emptyName => "node_type is empty"
  | unknownGroup group => "unknown group '" ++ group ++ "'"
  | unknownRouting routing => "unknown routing kind '" ++ routing ++ "'"
  | noModes => "declares no modes"
  | unnamedMode => "mode without value or label"
  | unknownModeRouting mode routing =>
    "mode '" ++ mode ++ "' has unknown routing kind '" ++ routing ++ "'"
  | repeatedMode mode => "duplicate mode '" ++ mode ++ "'"
  | noNodeKey mode => "mode '" ++ mode ++ "' has no node_key"
  | unknownCapability mode => "mode '" ++ mode ++ "' declares an unknown capability"
  | unknownNeed mode => "mode '" ++ mode ++ "' declares an unknown need"
  | unknownOutput mode slot output =>
    "mode '" ++ mode ++ "' binds '" ++ slot ++ "' from unknown output '" ++ output ++ "'"
  | nothingToCheck requirement => "requirement '" ++ requirement ++ "' has nothing to check"

/-- The problem, if there is one. -/
def Problem.when (present : Bool) (problem : Problem) : List Problem :=
  if present then [problem] else []

/-- The problems of one binding rule. -/
def BindingRule.problems (mode : String) (rule : BindingRule) : List Problem :=
  match rule.sourceOutput with
  | some output =>
    Problem.when (!Fields.has defaultOutputPaths output)
      (.unknownOutput mode rule.targetKey output)
  | none => []

/-- The problems of one requirement. -/
def Requirement.problems (requirement : Requirement) : List Problem :=
  let named := requirement.check.any fun check => check.name ≠ ""
  Problem.when (requirement.bindingKeys.isEmpty && requirement.configKeys.isEmpty && !named)
    (.nothingToCheck requirement.label)

/-- The problems of a mode that follows modes with the values `seen`. -/
def Mode.problems (builderOnly : Bool) (seen : List String) (mode : Mode) : List Problem :=
  Problem.when (mode.value = "" || mode.label = "") .unnamedMode
    ++ (match mode.routing with
        | some routing =>
          Problem.when (!routing.isKnown) (.unknownModeRouting mode.value routing.name)
        | none => [])
    ++ Problem.when (seen.contains mode.value) (.repeatedMode mode.value)
    ++ Problem.when (!builderOnly && mode.nodeKey.getD "" = "") (.noNodeKey mode.value)
    ++ Problem.when (!mode.produces.all Capability.isKnown) (.unknownCapability mode.value)
    ++ Problem.when (!mode.needs.all Need.isKnown) (.unknownNeed mode.value)
    ++ mode.bindingRules.flatMap (BindingRule.problems mode.value)
    ++ mode.requirements.flatMap Requirement.problems

/-- The problems of a list of modes, after modes with the values `seen`. -/
def Mode.problemsOfAll (builderOnly : Bool) (seen : List String) : List Mode → List Problem
  | [] => []
  | mode :: rest =>
    mode.problems builderOnly seen ++ problemsOfAll builderOnly (mode.value :: seen) rest

/-- The problems of a declaration; a type without problems is valid. -/
def NodeType.problems (type : NodeType) : List Problem :=
  Problem.when (type.name = "") .emptyName
    ++ Problem.when (!paletteGroups.contains type.group) (.unknownGroup type.group)
    ++ Problem.when (!type.routing.isKnown) (.unknownRouting type.routing.name)
    ++ Problem.when type.modes.isEmpty .noModes
    ++ Mode.problemsOfAll type.builderOnly [] type.modes

end FlowGraph
