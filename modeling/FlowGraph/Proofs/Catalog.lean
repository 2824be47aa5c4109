/-
# Looking things up in the standard catalog

The registry is filled by storing one type after another, and a later type or key of the same name
would replace an earlier one. In the palette no name and no backend key occurs twice, so every type
is found under its name and every backend key leads to the one mode that has it. Every key leads to
a mode that is executed, since builder aids have no keys and a key that no mode has stands for the
function step.
-/

import FlowGraph.Catalog.Standard
import FlowGraph.Proofs.Fields

namespace FlowGraph

open Text

/-- Where the names of the modes are distinct, every mode is found by its name. -/
theorem NodeType.findMode?_of_nodup {type : NodeType} {mode : Mode}
    (hvalues : (type.modes.map Mode.value).Nodup) (hmode : mode ∈ type.modes) :
    type.findMode? (some mode.value) = some mode := by
  rw [findMode?]
  cases hfound : type.modes.find? fun record => some record.value = some mode.value with
  | none =>
      have habsent := List.find?_eq_none.mp hfound mode hmode
      simp at habsent
  | some other =>
      have hvalue : other.value = mode.value := by simpa using List.find?_some hfound
      rw [List.inj_on_of_nodup_map hvalues (List.mem_of_find?_eq_some hfound) hmode hvalue]

namespace Registry

variable (registry : Registry)

theorem types_foldl_add (types : List NodeType) :
    (types.foldl add registry).types =
      Fields.setAll registry.types (types.map fun type => (type.name, type)) := by
  induction types generalizing registry with
  | nil => rfl
  | cons type rest ih => exact ih (registry.add type)

theorem keys_foldl_add (types : List NodeType) :
    (types.foldl add registry).keys = Fields.setAll registry.keys (types.flatMap keyEntries) := by
  induction types generalizing registry with
  | nil => rfl
  | cons type rest ih =>
      rw [List.foldl_cons, ih, List.flatMap_cons, Fields.setAll, Fields.setAll, List.foldl_append]
      rfl

/-- Readiness rules of single keys leave the tables of types and keys alone. -/
theorem foldl_specialize (rules : List (String × List Requirement)) :
    (rules.foldl (fun registry rule => registry.specialize rule.1 rule.2) registry).types =
        registry.types ∧
      (rules.foldl (fun registry rule => registry.specialize rule.1 rule.2) registry).keys =
        registry.keys := by
  induction rules generalizing registry with
  | nil => exact ⟨rfl, rfl⟩
  | cons rule rest ih => exact ih (registry.specialize rule.1 rule.2)

theorem specialized_foldl_add (types : List NodeType) :
    (types.foldl add registry).specialized = registry.specialized := by
  induction types generalizing registry with
  | nil => rfl
  | cons type rest ih => exact ih (registry.add type)

theorem specialized_foldl_specialize (rules : List (String × List Requirement)) :
    (rules.foldl (fun registry rule => registry.specialize rule.1 rule.2) registry).specialized =
      Fields.setAll registry.specialized (rules.map fun rule => (lower rule.1, rule.2)) := by
  induction rules generalizing registry with
  | nil => rfl
  | cons rule rest ih => exact ih (registry.specialize rule.1 rule.2)

theorem mem_keyEntries_iff {type : NodeType} {entry : String × (String × String)} :
    entry ∈ keyEntries type ↔ ∃ mode ∈ type.modes, ∃ key, mode.nodeKey = some key ∧ key ≠ "" ∧
      entry = (lower key, (type.name, mode.value)) := by
  rw [keyEntries, List.mem_filterMap]
  refine exists_congr fun mode => and_congr_right fun _ => ?_
  cases mode.nodeKey with
  | none => simp
  | some key => by_cases hkey : key = "" <;> simp [hkey, eq_comm]

end Registry

namespace Catalog

/-- What the declarations of a palette keep to: names, modes and backend keys do not repeat, every
type has a mode, and what is executed has a key and, unless it is a trigger, settings. -/
structure Tidy (types : List NodeType) : Prop where
  names_distinct : (types.map NodeType.name).Nodup
  keys_distinct : (Fields.keys (types.flatMap Registry.keyEntries)).Nodup
  values_distinct : ∀ type ∈ types, (type.modes.map Mode.value).Nodup
  has_mode : ∀ type ∈ types, type.modes.isEmpty = false
  has_key : ∀ type ∈ types, type.builderOnly = false → ∀ mode ∈ type.modes,
    (mode.nodeKey.any fun key => key ≠ "" ∧ trim key = key) = true
  keyless : ∀ type ∈ types, type.builderOnly = true → ∀ mode ∈ type.modes, mode.nodeKey = none
  has_config : ∀ type ∈ types, type.builderOnly = false → type.sourceOnly = false →
    ∀ mode ∈ type.modes, mode.defaultConfig ≠ []

-- the table is gone through here and nowhere else
theorem tidy_palette : Tidy palette where
  names_distinct := by decide +kernel
  keys_distinct := by decide +kernel
  values_distinct := by decide +kernel
  has_mode := by decide +kernel
  has_key := by decide +kernel
  keyless := by decide +kernel
  has_config := by decide +kernel

/-- The types of the palette are registered under their names, and nothing else is. -/
theorem type?_eq_some_iff {name : String} {type : NodeType} :
    type? name = some type ↔ type ∈ palette ∧ type.name = name := by
  have hnames : (Fields.keys (palette.map fun type => (type.name, type))).Nodup := by
    simpa [Fields.keys, Function.comp_def] using Tidy.names_distinct tidy_palette
  have htypes : standard.types = Fields.ofPairs (palette.map fun type => (type.name, type)) := by
    rw [standard, (Registry.foldl_specialize _ _).1, Registry.types_foldl_add]
    rfl
  rw [type?, Registry.type?, htypes, Fields.get?_ofPairs_eq_some_iff_mem hnames, List.mem_map]
  constructor
  · rintro ⟨other, hother, heq⟩
    cases heq
    exact ⟨hother, rfl⟩
  · rintro ⟨htype, rfl⟩
    exact ⟨type, htype, rfl⟩

/-- The keys of the modes of the palette, in lower case, are the keys of the index. -/
theorem get?_keys_iff {key : String} {entry : String × String} :
    Fields.get? standard.keys key = some entry ↔
      (key, entry) ∈ palette.flatMap Registry.keyEntries := by
  have hkeys : standard.keys = Fields.ofPairs (palette.flatMap Registry.keyEntries) := by
    rw [standard, (Registry.foldl_specialize _ _).2, Registry.keys_foldl_add]
    rfl
  rw [hkeys, Fields.get?_ofPairs_eq_some_iff_mem (Tidy.keys_distinct tidy_palette)]

/-- Rules that replace those of a mode are among the rules of single backend keys. -/
theorem mem_of_specialized? {key : String} {requirements : List Requirement}
    (hfound : standard.specialized? key = some requirements) :
    requirements ∈ specializedRules.map Prod.snd := by
  have hrules : standard.specialized =
      Fields.ofPairs (specializedRules.map fun rule => (lower rule.1, rule.2)) := by
    rw [standard, Registry.specialized_foldl_specialize, Registry.specialized_foldl_add]
    rfl
  rw [Registry.specialized?] at hfound
  split at hfound
  · cases hfound
  · rw [hrules, Fields.get?_ofPairs] at hfound
    have hpair := List.mem_reverse.mp (Fields.mem_of_get? hfound)
    obtain ⟨rule, hrule, heq⟩ := List.mem_map.mp hpair
    exact List.mem_map.mpr ⟨rule, hrule, (Prod.mk.inj heq).2⟩

variable {type : NodeType} {mode : Mode}

theorem require_eq_ok {name : String} (htype : type? name = some type) :
    standard.require name = .ok type := by
  rw [Registry.require, show standard.type? name = some type from htype]

theorem type?_of_mem (htype : type ∈ palette) : type? type.name = some type :=
  type?_eq_some_iff.mpr ⟨htype, rfl⟩

theorem require_of_mem (htype : type ∈ palette) : standard.require type.name = .ok type :=
  require_eq_ok (type?_of_mem htype)

theorem type?_of_require {name : String} (hok : standard.require name = .ok type) :
    type? name = some type := by
  rw [Registry.require] at hok
  split at hok
  · rename_i found hfound
    cases hok
    exact hfound
  · cases hok

/-- Every mode of a type is found by its name. -/
theorem findMode?_of_mem (htype : type ∈ palette) (hmode : mode ∈ type.modes) :
    type.findMode? (some mode.value) = some mode :=
  NodeType.findMode?_of_nodup (Tidy.values_distinct tidy_palette type htype) hmode

theorem modeOrDefault_of_mem (htype : type ∈ palette) (hmode : mode ∈ type.modes) :
    type.modeOrDefault (some mode.value) = mode := by
  rw [NodeType.modeOrDefault, findMode?_of_mem htype hmode, Option.getD_some]

/-- Asking for a mode always gives one of the type's own. -/
theorem modeOrDefault_mem (htype : type ∈ palette) (name : Option String) :
    type.modeOrDefault name ∈ type.modes := by
  rw [NodeType.modeOrDefault]
  cases hfound : type.findMode? name with
  | some record => exact List.mem_of_find?_eq_some hfound
  | none =>
      have hmodes : type.modes ≠ [] := by simpa using Tidy.has_mode tidy_palette type htype
      obtain ⟨first, rest, hlist⟩ := List.exists_cons_of_ne_nil hmodes
      simp [NodeType.defaultMode, hlist]

/-- Every mode that is executed has a backend key, and the key has no blanks around it. -/
theorem exists_key (htype : type ∈ palette) (hexecuted : type.builderOnly = false)
    (hmode : mode ∈ type.modes) :
    ∃ key, mode.nodeKey = some key ∧ key ≠ "" ∧ trim key = key := by
  simpa [Option.any_eq_true] using Tidy.has_key tidy_palette type htype hexecuted mode hmode

theorem mode_freshData (htype : type ∈ palette) (hmode : mode ∈ type.modes) :
    (type.freshData (some mode.value)).mode = mode.value := by
  simp only [NodeType.freshData, modeOrDefault_of_mem htype hmode]
  split <;> rfl

/-- What a new node in a mode that is executed holds. -/
theorem freshData_of_mem (htype : type ∈ palette) (hexecuted : type.builderOnly = false)
    (hmode : mode ∈ type.modes) {key : String} (hkey : mode.nodeKey = some key) (hne : key ≠ "") :
    type.freshData (some mode.value) =
      { mode := mode.value, ref := some { key }, config := mode.defaultConfig
        implemented := mode.implemented, metadata := [("ui", .object [])] } := by
  simp [NodeType.freshData, modeOrDefault_of_mem htype hmode, hexecuted, hkey, hne]

/-- A new node in a mode refers to the backend key of the mode, if the mode has one. -/
theorem ref_freshData (htype : type ∈ palette) (hmode : mode ∈ type.modes) :
    (type.freshData (some mode.value)).ref = mode.nodeKey.map fun key => { key } := by
  cases hbuilder : type.builderOnly with
  | true =>
      have hkeyless := Tidy.keyless tidy_palette type htype hbuilder mode hmode
      simp [NodeType.freshData, hbuilder, hkeyless]
  | false =>
      obtain ⟨key, hkey, hne, -⟩ := exists_key htype hbuilder hmode
      rw [freshData_of_mem htype hbuilder hmode hkey hne, hkey, Option.map_some]

theorem implemented_freshData (htype : type ∈ palette) (hmode : mode ∈ type.modes) :
    (type.freshData (some mode.value)).implemented = mode.implemented := by
  have haids : ∀ type ∈ palette, type.builderOnly = true → ∀ mode ∈ type.modes,
      mode.implemented = true := by decide +kernel
  cases hbuilder : type.builderOnly with
  | true => simp [NodeType.freshData, hbuilder, haids type htype hbuilder mode hmode]
  | false => simp [NodeType.freshData, hbuilder, modeOrDefault_of_mem htype hmode]

theorem config_freshData (htype : type ∈ palette) (hmode : mode ∈ type.modes) :
    (type.freshData (some mode.value)).config = mode.defaultConfig := by
  simp only [NodeType.freshData, modeOrDefault_of_mem htype hmode]
  split <;> rfl

/-- New nodes have settings, unless they are triggers. -/
theorem defaultConfig_ne_nil (htype : type ∈ palette) (hexecuted : type.builderOnly = false)
    (hsource : type.sourceOnly = false) (hmode : mode ∈ type.modes) :
    mode.defaultConfig ≠ [] :=
  Tidy.has_config tidy_palette type htype hexecuted hsource mode hmode

theorem implemented_of_mem (htype : type ∈ palette) (hmode : mode ∈ type.modes) :
    (standard.lookupMode? type.name (some mode.value)).any Mode.implemented =
      mode.implemented := by
  rw [Registry.lookupMode?, show standard.type? type.name = some type from type?_of_mem htype,
    Option.map_some, modeOrDefault_of_mem htype hmode, Option.any_some]

/-- The key of a mode leads back to it. -/
theorem resolveKey_of_mem (htype : type ∈ palette) (hmode : mode ∈ type.modes) {key : String}
    (hkey : mode.nodeKey = some key) (hne : key ≠ "") (htrim : trim key = key) :
    standard.resolveKey key = (type.name, mode.value, mode.implemented) := by
  have hentry : Fields.get? standard.keys (lower (trim key)) = some (type.name, mode.value) := by
    rw [htrim, get?_keys_iff, List.mem_flatMap]
    exact ⟨type, htype, Registry.mem_keyEntries_iff.mpr ⟨mode, hmode, key, hkey, hne, rfl⟩⟩
  rw [Registry.resolveKey, hentry]
  simp only [implemented_of_mem htype hmode]

/-- Every key, known or not, leads to a mode that is executed. -/
theorem exists_of_resolveKey (key : String) :
    ∃ type ∈ palette, type.builderOnly = false ∧ ∃ mode ∈ type.modes,
      standard.resolveKey key = (type.name, mode.value, mode.implemented) := by
  have hresolve {name value : String}
      (hfound : ((Fields.get? standard.keys (lower (trim key))).getD
        (Registry.fallbackType, Registry.fallbackMode)) = (name, value)) :
      standard.resolveKey key =
        (name, value, (standard.lookupMode? name (some value)).any Mode.implemented) := by
    rw [Registry.resolveKey]
    cases hentry : Fields.get? standard.keys (lower (trim key)) with
    | none =>
        rw [hentry] at hfound
        cases hfound
        rfl
    | some entry =>
        rw [hentry] at hfound
        cases hfound
        rfl
  cases hentry : Fields.get? standard.keys (lower (trim key)) with
  | some entry =>
      obtain ⟨type, htype, hmem⟩ := List.mem_flatMap.mp (get?_keys_iff.mp hentry)
      obtain ⟨mode, hmode, other, hkey, -, heq⟩ := Registry.mem_keyEntries_iff.mp hmem
      obtain ⟨-, rfl⟩ := Prod.mk.inj heq
      have hexecuted : type.builderOnly = false := by
        by_contra hbuilder
        have hnone := Tidy.keyless tidy_palette type htype (by simpa using hbuilder) mode hmode
        simp [hkey] at hnone
      refine ⟨type, htype, hexecuted, mode, hmode, ?_⟩
      have hfound : (Fields.get? standard.keys (lower (trim key))).getD
          (Registry.fallbackType, Registry.fallbackMode) = (type.name, mode.value) := by
        rw [hentry, Option.getD_some]
      rw [hresolve hfound, implemented_of_mem htype hmode]
  | none =>
      have hfallback : ∃ type ∈ palette, type.builderOnly = false ∧
          type.name = Registry.fallbackType ∧
            ∃ mode ∈ type.modes, mode.value = Registry.fallbackMode := by decide +kernel
      obtain ⟨type, htype, hexecuted, hname, mode, hmode, hvalue⟩ := hfallback
      refine ⟨type, htype, hexecuted, mode, hmode, ?_⟩
      have hfound : (Fields.get? standard.keys (lower (trim key))).getD
          (Registry.fallbackType, Registry.fallbackMode) = (type.name, mode.value) := by
        rw [hentry, Option.getD_none, hname, hvalue]
      rw [hresolve hfound, implemented_of_mem htype hmode]

end Catalog

end FlowGraph
