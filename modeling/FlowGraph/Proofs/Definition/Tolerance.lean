/-
# What loading refuses

Loading reads whatever it is given: a part that is missing or of another shape counts as nothing,
and every key leads to some type of step. Two conversions could fail on numbers, the version of a
reference and the version of the form, but only on numbers beyond the doubles. What is left is the
place of a node. A place that is told is told in numbers, and loading stops at the first node for
which it is not, with the faults of that node. Nothing is claimed here about definitions with
numbers beyond the doubles.
-/

import FlowGraph.Proofs.Definition.Resave

namespace FlowGraph

open Compile

namespace Value

mutual

/-- Every number in the value is finite and within the range of the doubles. -/
def inRange : Value → Bool
  | int n => Decimal.fitsDouble n
  | float x => x.isFinite
  | list items => itemsInRange items
  | object fields => fieldsInRange fields
  | _ => true

/-- Every number in a list of values is within range. -/
def itemsInRange : List Value → Bool
  | [] => true
  | item :: rest => inRange item && itemsInRange rest

/-- Every number in the fields of an object is within range. -/
def fieldsInRange : List (String × Value) → Bool
  | [] => true
  | (_, held) :: rest => inRange held && fieldsInRange rest

end

theorem inRange_of_get? {fields : Fields Value} (hfields : fieldsInRange fields = true)
    {name : String} {held : Value} (hheld : Fields.get? fields name = some held) :
    held.inRange = true := by
  induction fields with
  | nil => cases hheld
  | cons pair rest ih =>
      obtain ⟨key, first⟩ := pair
      rw [fieldsInRange, Bool.and_eq_true] at hfields
      rw [Fields.get?_cons] at hheld
      split at hheld
      · cases hheld
        exact hfields.1
      · exact ih hfields.2 hheld

variable {value : Value}

theorem fieldsInRange_fields (hrange : value.inRange = true) :
    fieldsInRange value.fields = true := by
  cases value with
  | object fields => simpa [inRange] using hrange
  | _ => rfl

theorem inRange_field (hrange : value.inRange = true) (name : String) :
    (value.field name).inRange = true := by
  rw [field]
  cases hheld : Fields.get? value.fields name with
  | none => rfl
  | some held => exact inRange_of_get? (fieldsInRange_fields hrange) hheld

theorem inRange_orElse {other : Value} (hrange : value.inRange = true)
    (hother : other.inRange = true) : (value.orElse other).inRange = true := by
  rw [orElse]
  split
  · exact hrange
  · exact hother

theorem itemsInRange_asList? (hrange : value.inRange = true) :
    itemsInRange (value.asList?.getD []) = true := by
  cases value with
  | list items => simpa [inRange, asList?] using hrange
  | _ => rfl

end Value

namespace Load

variable {value raw : Value} {index : Nat}

/-! ## Versions -/

theorem exists_looseFloat? (hrange : value.inRange = true) :
    ∃ number, looseFloat? value = .ok number := by
  cases value with
  | int n => exact ⟨_, by rw [looseFloat?, if_pos (by simpa [Value.inRange] using hrange)]⟩
  | _ => exact ⟨_, rfl⟩

theorem exists_version (hrange : value.inRange = true) :
    ∃ number, version value = .ok number := by
  obtain ⟨number, hnumber⟩ := exists_looseFloat? hrange
  exact ⟨_, by rw [version, hnumber]; rfl⟩

theorem exists_looseInt? (hrange : value.inRange = true) :
    ∃ number, looseInt? value = .ok number := by
  cases value with
  | float x => exact ⟨_, by rw [looseInt?, if_pos (by simpa [Value.inRange] using hrange)]⟩
  | _ => exact ⟨_, rfl⟩

theorem exists_needsLayout (hrange : value.inRange = true) :
    ∃ laid, needsLayout value = .ok laid := by
  have hversion := Value.inRange_field hrange "schema_version"
  have husual : (Value.int 1).inRange = true := by decide +kernel
  obtain ⟨number, hnumber⟩ := exists_looseInt? (Value.inRange_orElse hversion husual)
  exact ⟨_, by rw [needsLayout, hnumber]; rfl⟩

theorem inRange_rawRef (hrange : raw.inRange = true) : (rawRef raw).inRange = true := by
  rw [rawRef]
  split
  · simpa [Value.inRange] using
      Value.fieldsInRange_fields (Value.inRange_field hrange "nodeRef")
  · exact Value.inRange_field hrange "node_ref"

/-! ## Places -/

/-- A value that a coordinate is read from: a number, a boolean or a numeric text. -/
def isCoordinate : Value → Bool
  | .bool _ | .int _ | .float _ => true
  | .text s => (Decimal.readPlainFloat? s).isSome
  | _ => false

/-- What is wrong with a value that is no coordinate. -/
def coordinateFault : Value → Schema.FaultKind
  | .text _ => .floatText
  | _ => .notFloat

/-- The fault of a place on one axis, with the path to it: a coordinate may be missing, but one that
is told has to be a number. -/
def axisFault? (place : Fields Value) (axis : String) : Option Schema.Fault :=
  (Fields.get? place axis).bind fun value =>
    if isCoordinate value then none else some ⟨["position", axis], coordinateFault value⟩

/-- The faults of a place. -/
def placeFaults (place : Fields Value) : List Schema.Fault :=
  ["x", "y"].filterMap (axisFault? place)

/-- The place that a written node chooses: the one in its metadata if that is a mapping with
anything in it, else its own if that is a mapping. -/
inductive Chooses (raw : Value) (place : Fields Value) : Prop
  | drawn : ((raw.field "metadata").field "ui").field "position" = .object place → place ≠ [] →
      Chooses raw place
  | own : (((raw.field "metadata").field "ui").field "position").fields = [] →
      raw.field "position" = .object place → Chooses raw place

/-- The written node chooses a place that is not told in numbers. -/
def Misplaced (raw : Value) : Prop := ∃ place, Chooses raw place ∧ placeFaults place ≠ []

theorem Chooses.drawnPlace_eq {place : Fields Value} (hchooses : Chooses raw place) :
    drawnPlace raw = place := by
  cases hchooses with
  | drawn hdrawn hne =>
      rw [drawnPlace, hdrawn, Value.fields_object, if_neg (by simpa using hne)]
  | own hnone hown =>
      rw [drawnPlace, hnone, hown]
      rfl

theorem chooses_drawnPlace (hne : drawnPlace raw ≠ []) : Chooses raw (drawnPlace raw) := by
  have hobject {value : Value} (hfields : value.fields ≠ []) : value = .object value.fields := by
    cases value with
    | object fields => rfl
    | _ => exact absurd rfl hfields
  rw [drawnPlace] at hne ⊢
  split
  · next hnone =>
    rw [if_pos hnone] at hne
    exact .own (by simpa using hnone) (hobject hne)
  · next hdrawn =>
    rw [if_neg hdrawn] at hne
    exact .drawn (hobject hne) hne

theorem misplaced_iff : Misplaced raw ↔ placeFaults (drawnPlace raw) ≠ [] := by
  constructor
  · rintro ⟨place, hchooses, hfaults⟩
    rwa [hchooses.drawnPlace_eq]
  · intro hfaults
    refine ⟨drawnPlace raw, chooses_drawnPlace ?_, hfaults⟩
    rintro hnone
    exact hfaults (by rw [hnone]; rfl)

instance (raw : Value) : Decidable (Misplaced raw) := decidable_of_iff _ misplaced_iff.symm

theorem float_eq_ok_of_isCoordinate (hrange : value.inRange = true)
    (hcoordinate : isCoordinate value = true) : ∃ x, Schema.float value = .ok x := by
  cases value with
  | int n => exact ⟨_, by rw [Schema.float, if_pos (by simpa [Value.inRange] using hrange)]⟩
  | text s =>
      obtain ⟨x, hx⟩ := Option.isSome_iff_exists.mp hcoordinate
      exact ⟨x, by rw [Schema.float, hx]⟩
  | bool b => exact ⟨_, rfl⟩
  | float x => exact ⟨_, rfl⟩
  | _ => cases hcoordinate

theorem float_eq_bad_of_not_isCoordinate (hcoordinate : isCoordinate value = false) :
    Schema.float value = .bad [⟨[], coordinateFault value⟩] := by
  cases value with
  | text s =>
      have hnone : Decimal.readPlainFloat? s = none := by
        simpa [isCoordinate] using hcoordinate
      rw [Schema.float, hnone]
      rfl
  | null => rfl
  | list items => rfl
  | object fields => rfl
  | _ => cases hcoordinate

/-- A coordinate is read or has the one fault that it can have. -/
theorem axis_cases {place : Fields Value} (hplace : Value.fieldsInRange place = true)
    (name : String) :
    (∃ x, ((Schema.float ((Fields.get? place name).getD (.int 0))).map
          fun x => (name, x)).under name = .ok (name, x)) ∧ axisFault? place name = none ∨
      ∃ kind, ((Schema.float ((Fields.get? place name).getD (.int 0))).map
          fun x => (name, x)).under name = .bad [⟨[name], kind⟩] ∧
        axisFault? place name = some ⟨["position", name], kind⟩ := by
  rw [axisFault?]
  cases hheld : Fields.get? place name with
  | none =>
      have hzero : ∃ x, Schema.float (.int 0) = .ok x :=
        float_eq_ok_of_isCoordinate (by decide +kernel) rfl
      obtain ⟨x, hx⟩ := hzero
      exact .inl ⟨⟨x, by rw [Option.getD_none, hx]; rfl⟩, rfl⟩
  | some value =>
      rw [Option.getD_some, Option.bind_some]
      cases hcoordinate : isCoordinate value with
      | true =>
          obtain ⟨x, hx⟩ :=
            float_eq_ok_of_isCoordinate (Value.inRange_of_get? hplace hheld) hcoordinate
          exact .inl ⟨⟨x, by rw [hx]; rfl⟩, rfl⟩
      | false =>
          refine .inr ⟨coordinateFault value, ?_, rfl⟩
          rw [float_eq_bad_of_not_isCoordinate hcoordinate]
          rfl

/-- The place of a node is read or has the faults of the place that was chosen. -/
theorem position_cases (hplace : Value.fieldsInRange (drawnPlace raw) = true) (index : Nat) :
    (∃ place, position raw (.ofIndex index) = .ok (.ok place)) ∧
        placeFaults (drawnPlace raw) = [] ∨
      ∃ faults, position raw (.ofIndex index) = .ok (.bad faults) ∧
        placeFaults (drawnPlace raw) ≠ [] ∧
        faults.map (fun fault => { fault with path := "position" :: fault.path }) =
          placeFaults (drawnPlace raw) := by
  by_cases hempty : (drawnPlace raw).isEmpty = true
  · have hnone : drawnPlace raw = [] := by simpa using hempty
    refine .inl ⟨⟨_, by rw [position, if_pos hempty]; rfl⟩, by rw [hnone]; rfl⟩
  · rw [position, if_neg hempty, placeFaults]
    rcases axis_cases hplace "x" with ⟨⟨x, hx⟩, hxNone⟩ | ⟨xKind, hx, hxSome⟩ <;>
      rcases axis_cases hplace "y" with ⟨⟨y, hy⟩, hyNone⟩ | ⟨yKind, hy, hySome⟩
    · refine .inl ⟨⟨[("x", x), ("y", y)], ?_⟩, ?_⟩
      · simp only [hx, hy]
        rfl
      · simp [hxNone, hyNone]
    · refine .inr ⟨[⟨["y"], yKind⟩], ?_, ?_⟩
      · simp only [hx, hy]
        rfl
      · simp [hxNone, hySome]
    · refine .inr ⟨[⟨["x"], xKind⟩], ?_, ?_⟩
      · simp only [hx, hy]
        rfl
      · simp [hxSome, hyNone]
    · refine .inr ⟨[⟨["x"], xKind⟩, ⟨["y"], yKind⟩], ?_, ?_⟩
      · simp only [hx, hy]
        rfl
      · simp [hxSome, hySome]

theorem fieldsInRange_drawnPlace (hrange : raw.inRange = true) :
    Value.fieldsInRange (drawnPlace raw) = true := by
  rw [drawnPlace]
  split
  · exact Value.fieldsInRange_fields (Value.inRange_field hrange "position")
  · have hmetadata := Value.inRange_field hrange "metadata"
    exact Value.fieldsInRange_fields
      (Value.inRange_field (Value.inRange_field hmetadata "ui") "position")

/-! ## Nodes -/

theorem exists_nodeRef (type : NodeType) (mode : String) (defaults : NodeData) {number : Option Int}
    (hversion : version ((rawRef raw).field "version") = .ok number) :
    ∃ ref, nodeRef type mode defaults raw = .ok ref := by
  simp only [nodeRef, hversion]
  generalize firstText _ = key
  split
  · exact ⟨_, rfl⟩
  · exact ⟨_, rfl⟩

/-- A written node whose version can be read is loaded if its place can be read, and otherwise fails
with the faults of its place. -/
theorem nodeOf_of_position {number : Option Int}
    (hversion : version ((rawRef raw).field "version") = .ok number) (index : Nat) :
    (∀ place, position raw (.ofIndex index) = .ok (.ok place) →
        ∃ node, nodeOf raw.fields (.ofIndex index) = .ok node) ∧
      ∀ faults, position raw (.ofIndex index) = .ok (.bad faults) →
        nodeOf raw.fields (.ofIndex index) = .error (.invalid
          (faults.map fun fault => { fault with path := "position" :: fault.path })) := by
  have hkey : rawKey (.object raw.fields) = rawKey raw := rfl
  have hplace : position (.object raw.fields) (.ofIndex index) = position raw (.ofIndex index) :=
    rfl
  obtain ⟨type, htype, -, mode, hmode, hresolve⟩ := Catalog.exists_of_resolveKey (rawKey raw)
  obtain ⟨id, hid⟩ : ∃ id, nodeId (.object raw.fields) type.name (.ofIndex index) = .ok id := by
    rw [nodeId]
    split <;> exact ⟨_, rfl⟩
  obtain ⟨ref, href⟩ : ∃ ref, nodeRef type mode.value (type.freshData (some mode.value))
      (.object raw.fields) = .ok ref :=
    exists_nodeRef type mode.value (type.freshData (some mode.value)) hversion
  rw [nodeOf]
  simp only [hkey, hplace, hresolve, Catalog.require_of_mem htype, hid, href, bind, Except.bind]
  constructor
  · intro place hread
    rw [hread]
    exact ⟨_, rfl⟩
  · intro faults hread
    rw [hread]

/-- A written node is loaded unless it is misplaced. -/
theorem nodeOf_cases (hrange : raw.inRange = true) (index : Nat) :
    (∃ node, nodeOf raw.fields (.ofIndex index) = .ok node) ∧ ¬ Misplaced raw ∨
      nodeOf raw.fields (.ofIndex index) = .error (.invalid (placeFaults (drawnPlace raw))) ∧
        Misplaced raw := by
  obtain ⟨number, hversion⟩ :=
    exists_version (Value.inRange_field (inRange_rawRef hrange) "version")
  obtain ⟨hloaded, hfailed⟩ := nodeOf_of_position hversion index
  rw [misplaced_iff]
  rcases position_cases (fieldsInRange_drawnPlace hrange) index with
    ⟨⟨place, hplace⟩, hnone⟩ | ⟨faults, hfaults, hsome, hmoved⟩
  · exact .inl ⟨hloaded place hplace, not_not.mpr hnone⟩
  · exact .inr ⟨hmoved ▸ hfailed faults hfaults, hsome⟩

/-- Written nodes are loaded, unless one of them is misplaced: the faults of the first one count. -/
theorem nodes_cases {raws : List Value} (hrange : Value.itemsInRange raws = true) (index : Nat) :
    (∃ loaded, nodes index raws = .ok loaded) ∧ (∀ raw ∈ raws, ¬ Misplaced raw) ∨
      ∃ before raw after, raws = before ++ raw :: after ∧ (∀ other ∈ before, ¬ Misplaced other) ∧
        Misplaced raw ∧
        nodes index raws = .error (.invalid (placeFaults (drawnPlace raw))) := by
  induction raws generalizing index with
  | nil => exact .inl ⟨⟨[], rfl⟩, by simp⟩
  | cons raw rest ih =>
      rw [Value.itemsInRange, Bool.and_eq_true] at hrange
      rw [nodes]
      rcases nodeOf_cases hrange.1 index with ⟨⟨first, hfirst⟩, hplaced⟩ | ⟨hfailed, hmisplaced⟩
      · rw [hfirst]
        rcases ih hrange.2 (index + 1) with ⟨⟨others, hothers⟩, hall⟩ |
          ⟨before, found, after, hsplit, hbefore, hmisplaced, hfailed⟩
        · refine .inl ⟨⟨first :: others, by rw [hothers]; rfl⟩, ?_⟩
          exact List.forall_mem_cons.mpr ⟨hplaced, hall⟩
        · refine .inr ⟨raw :: before, found, after, by rw [hsplit]; rfl,
            List.forall_mem_cons.mpr ⟨hplaced, hbefore⟩, hmisplaced, ?_⟩
          rw [hfailed]
          rfl
      · exact .inr ⟨[], raw, rest, rfl, by simp, hmisplaced, by rw [hfailed]; rfl⟩

/-! ## Definitions -/

section Document

variable {definition : Value}

/-- A definition whose nodes can be loaded is loaded, as long as the version of its form can be
read. -/
theorem exists_document_of_nodes {loaded : List Node} {laid : Bool}
    (hnodes : nodes 0 (writtenNodes definition) = .ok loaded)
    (hlayout : needsLayout definition = .ok laid) (name : String) :
    ∃ document, Load.document definition name = .ok document := by
  rw [writtenNodes] at hnodes
  rw [Load.document, hnodes, hlayout]
  cases loaded with
  | nil => exact ⟨_, rfl⟩
  | cons first rest => exact ⟨_, rfl⟩

theorem document_eq_error {failure : Failure}
    (hnodes : nodes 0 (writtenNodes definition) = .error failure) (name : String) :
    Load.document definition name = .error failure := by
  rw [writtenNodes] at hnodes
  rw [Load.document, hnodes]
  rfl

/-- Loading a definition whose numbers are within the range of the doubles fails if and only if
some entry of its nodes chooses a place that is not told in numbers. The failure is that of the
first such entry, and tells the faults of the place that it chooses and nothing else. -/
theorem load_fails_iff_misplaced (hrange : definition.inRange = true) (name : String) :
    ((∃ failure, Load.document definition name = .error failure) ↔
        ∃ raw ∈ writtenNodes definition, Misplaced raw) ∧
      ∀ failure, Load.document definition name = .error failure →
        ∃ before raw after place, writtenNodes definition = before ++ raw :: after ∧
          (∀ other ∈ before, ¬ Misplaced other) ∧ Chooses raw place ∧ placeFaults place ≠ [] ∧
          failure = .invalid (placeFaults place) := by
  have hraws : Value.itemsInRange (writtenNodes definition) = true :=
    Value.itemsInRange_asList? (Value.inRange_field hrange "nodes")
  rcases nodes_cases hraws 0 with ⟨⟨loaded, hloaded⟩, hnone⟩ |
    ⟨before, raw, after, hsplit, hbefore, hmisplaced, hfailed⟩
  · obtain ⟨laid, hlaid⟩ := exists_needsLayout hrange
    obtain ⟨document, hdocument⟩ := exists_document_of_nodes hloaded hlaid name
    have hnever (failure : Failure) : Load.document definition name ≠ .error failure := by
      rw [hdocument]
      exact fun hsame => by cases hsame
    refine ⟨⟨?_, ?_⟩, fun failure hfailure => absurd hfailure (hnever failure)⟩
    · rintro ⟨failure, hfailure⟩
      exact absurd hfailure (hnever failure)
    · rintro ⟨raw, hraw, hmisplaced⟩
      exact absurd hmisplaced (hnone raw hraw)
  · have hdocument := document_eq_error hfailed name
    refine ⟨⟨fun _ => ⟨raw, by simp [hsplit], hmisplaced⟩, fun _ => ⟨_, hdocument⟩⟩, ?_⟩
    intro failure hfailure
    obtain rfl := Except.error.inj (hdocument.symm.trans hfailure)
    have hfaults := misplaced_iff.mp hmisplaced
    refine ⟨before, raw, after, drawnPlace raw, hsplit, hbefore, chooses_drawnPlace ?_, hfaults,
      rfl⟩
    intro hplace
    exact hfaults (by rw [hplace]; rfl)

end Document

/-- A definition in which hardly anything has the shape that it should have. The first coordinates
are a text and a boolean, and the place behind them does not count. -/
def malformed (place : Value) : Value :=
  .object
    [("schema_version", .list []), ("edges", .int 7),
     ("nodes", .list
       [.int 5, .null,
        .object
          [("id", .bool true), ("config", .text "none"), ("node_ref", .list []),
           ("metadata", .object [("ui", .object [("position", .object
             [("x", .text " 12 "), ("y", .bool true)])])]),
           ("position", .object [("x", .null)])],
        .object [("node_type", .list [.null]), ("enabled", .object []), ("position", place)]])]

/-- It loads, unless there is a place in it that is no place. -/
theorem malformed_loads_unless_misplaced :
    (∃ document, Load.document (malformed (.list [.null])) "Draft" = .ok document) ∧
      ∃ faults, faults ≠ [] ∧
        Load.document (malformed (.object [("x", .null), ("y", .text "left")])) "Draft" =
          .error (.invalid faults) := by
  constructor
  · have hplaced : ¬ ∃ raw ∈ writtenNodes (malformed (.list [.null])), Misplaced raw := by
      decide +kernel
    cases hloaded : Load.document (malformed (.list [.null])) "Draft" with
    | ok document => exact ⟨document, rfl⟩
    | error failure =>
        have hmisplaced := (load_fails_iff_misplaced (by decide +kernel) "Draft").1.mp
          ⟨failure, hloaded⟩
        exact absurd hmisplaced hplaced
  · have hrange : (malformed (.object [("x", .null), ("y", .text "left")])).inRange = true := by
      decide +kernel
    have hspec := load_fails_iff_misplaced hrange "Draft"
    obtain ⟨failure, hfailure⟩ := hspec.1.mpr (by decide +kernel)
    obtain ⟨before, raw, after, place, -, -, -, hfaults, rfl⟩ := hspec.2 failure hfailure
    exact ⟨placeFaults place, hfaults, hfailure⟩

end Load

end FlowGraph
