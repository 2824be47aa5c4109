/-
# What mapping the inputs of a step does to its bindings

The rules of a mode are applied one after another to the same bindings, so a rule sees what the
rules before it wrote. In the catalog that makes no difference: every rule fills a slot of its own,
and a slot that one rule fills is none of those that a later rule counts as filled already. What a
rule does can therefore be told from the bindings as they were in the beginning. A rule that
something overrules leaves its slot alone, and any other one ends with what it asks for in its slot,
since every rule of the catalog has a run input to fall back on.
-/

import FlowGraph.Mapping.Basic
import FlowGraph.Proofs.Catalog

namespace FlowGraph

namespace Binding

/-- The binding reads the run input. -/
def isRunInput : Binding → Bool
  | runInput _ => true
  | _ => false

theorem isRunInput_iff {binding : Binding} :
    binding.isRunInput = true ↔ ∃ path, binding = .runInput path := by
  cases binding <;> simp [isRunInput]

/-- The binding is a reference, to the run input or to the output of a step. -/
def IsReference (binding : Binding) : Prop := ∀ value, binding ≠ .constant value

theorem IsReference.isMeaningful {binding : Binding} (hreference : binding.IsReference) :
    binding.isMeaningful = true := by
  cases binding with
  | constant value => exact absurd rfl (hreference value)
  | runInput path => rfl
  | stepOutput stepId path => rfl

/-- Only a reference itself reads the same thing as a reference. -/
theorem IsReference.same_iff {binding other : Binding} (hreference : binding.IsReference) :
    binding.same other = true ↔ binding = other := by
  cases binding with
  | constant value => exact absurd rfl (hreference value)
  | runInput path => cases other <;> simp [same]
  | stepOutput stepId path => cases other <;> simp [same]

end Binding

namespace Mapping

/-! ## The rules of the catalog -/

/-- The rules keep out of each other's way: none fills the slot of a later rule or a slot that a
later rule counts as its own, and each counts its own slot and falls back on a run input. -/
structure Compatible (rules : List BindingRule) : Prop where
  apart : rules.Pairwise fun earlier later =>
    earlier.targetKey ≠ later.targetKey ∧ earlier.targetKey ∉ later.bindingKeys
  own : ∀ rule ∈ rules, rule.targetKey ∈ rule.bindingKeys
  falls_back : ∀ rule ∈ rules, (Binding.ofText rule.runInputFallback).isRunInput = true

theorem Compatible.tail {rule : BindingRule} {rest : List BindingRule}
    (hrules : Compatible (rule :: rest)) : Compatible rest where
  apart := hrules.apart.of_cons
  own other hother := hrules.own other (List.mem_cons_of_mem _ hother)
  falls_back other hother := hrules.falls_back other (List.mem_cons_of_mem _ hother)

/-- No two rules fill one slot. -/
theorem Compatible.eq_of_targetKey_eq {rules : List BindingRule} (hrules : Compatible rules)
    {first second : BindingRule} (hfirst : first ∈ rules) (hsecond : second ∈ rules)
    (hsame : first.targetKey = second.targetKey) : first = second := by
  have hdistinct : (rules.map BindingRule.targetKey).Nodup :=
    List.pairwise_map.mpr (hrules.apart.imp And.left)
  exact List.inj_on_of_nodup_map hdistinct hfirst hsecond hsame

/-- The rules of a node are those of a mode of the palette, if it has any. -/
theorem rulesOf_cases (node : Node) :
    rulesOf node = [] ∨
      ∃ type ∈ Catalog.palette, ∃ mode ∈ type.modes, rulesOf node = mode.bindingRules := by
  cases htype : Catalog.standard.type? node.type with
  | none =>
      exact Or.inl (by simp [rulesOf, Node.modeRecord?, Catalog.mode?, Registry.lookupMode?, htype])
  | some type =>
      have hmem := (Catalog.type?_eq_some_iff.mp htype).1
      refine Or.inr ⟨type, hmem, _, Catalog.modeOrDefault_mem hmem (some node.mode), ?_⟩
      simp [rulesOf, Node.modeRecord?, Catalog.mode?, Registry.lookupMode?, htype]

theorem compatible_rulesOf (node : Node) : Compatible (rulesOf node) := by
  have hall : ∀ type ∈ Catalog.palette, ∀ mode ∈ type.modes,
      (mode.bindingRules.Pairwise fun earlier later =>
        earlier.targetKey ≠ later.targetKey ∧ earlier.targetKey ∉ later.bindingKeys) ∧
      ∀ rule ∈ mode.bindingRules, rule.targetKey ∈ rule.bindingKeys ∧
        (Binding.ofText rule.runInputFallback).isRunInput = true := by decide +kernel
  rcases rulesOf_cases node with hnone | ⟨type, htype, mode, hmode, hrules⟩
  · rw [hnone]
    exact ⟨List.Pairwise.nil, by simp, by simp⟩
  · obtain ⟨hapart, heach⟩ := hall type htype mode hmode
    rw [hrules]
    exact ⟨hapart, fun rule hrule => (heach rule hrule).1, fun rule hrule => (heach rule hrule).2⟩

/-! ## One rule -/

/-- Where a step holds an output: where its mode declares it, or in the default place if the
catalog does not know the type of the step. -/
def outputPath (source : Node) (output : String) : String :=
  match source.modeRecord? with
  | some mode => mode.outputPathFor output
  | none => (Fields.get? defaultOutputPaths output).getD ""

/-- What a rule asks for, given the first step that may feed the node: the output of that step, or
the run input of the rule's fallback where the rule reads no step or there is none. -/
def wanted (feeder : Option Node) (rule : BindingRule) : Binding :=
  (feeder.bind fun source => rule.sourceOutput.map fun output =>
    .stepOutput source.id (outputPath source output)).getD (Binding.ofText rule.runInputFallback)

variable {force : Bool} {config : Fields Value} {candidates : List Node}
  {resolution : Resolution} {rule later : BindingRule} {rules : List BindingRule} {slot : String}

theorem isReference_wanted (hfallback : (Binding.ofText rule.runInputFallback).isRunInput = true)
    (feeder : Option Node) : (wanted feeder rule).IsReference := by
  obtain ⟨path, hpath⟩ := Binding.isRunInput_iff.mp hfallback
  intro value
  cases feeder with
  | none => simp [wanted, hpath]
  | some source => cases houtput : rule.sourceOutput <;> simp [wanted, houtput, hpath]

/-- The first candidate decides, since it offers whatever a rule reads from a step. -/
theorem filling_eq_wanted
    (hfallback : (Binding.ofText rule.runInputFallback).isRunInput = true)
    (candidates : List Node) : filling candidates rule = some (wanted candidates.head? rule) := by
  have hne : rule.runInputFallback ≠ "" := by
    intro hempty
    rw [hempty] at hfallback
    revert hfallback
    decide +kernel
  cases houtput : rule.sourceOutput with
  | none =>
      have hnone : (candidates.findSome? fun source => suggested source rule) = none := by
        simp [suggested, houtput]
      simp [filling, hnone, hne, wanted, houtput]
  | some output =>
      cases candidates with
      | nil => simp [filling, wanted, hne]
      | cons source rest =>
          have hoffer : suggested source rule =
              some (.stepOutput source.id (outputPath source output)) := by
            rw [suggested, houtput]
            rfl
          simp [filling, hoffer, wanted, houtput]

/-- What applying a rule can do: nothing, if the rule is settled or its slot holds what it asks
for; and else it stores that. -/
theorem applyRule_cases (hfallback : (Binding.ofText rule.runInputFallback).isRunInput = true)
    (force : Bool) (config : Fields Value) (candidates : List Node) (resolution : Resolution) :
    (applyRule force config candidates resolution rule = resolution ∧
      (isSettled force config resolution.bindings rule = true ∨
        Fields.get? resolution.bindings rule.targetKey =
          some (wanted candidates.head? rule))) ∨
    (isSettled force config resolution.bindings rule = false ∧
      Fields.get? resolution.bindings rule.targetKey ≠ some (wanted candidates.head? rule) ∧
      applyRule force config candidates resolution rule =
        { bindings :=
            Fields.set resolution.bindings rule.targetKey (wanted candidates.head? rule)
          changed := true }) := by
  have hreference := isReference_wanted hfallback candidates.head?
  have hsame : (Fields.get? resolution.bindings rule.targetKey).any
      (Binding.same (wanted candidates.head? rule)) = true ↔
        Fields.get? resolution.bindings rule.targetKey =
          some (wanted candidates.head? rule) := by
    cases Fields.get? resolution.bindings rule.targetKey with
    | none => simp
    | some held =>
        rw [Option.any_some, hreference.same_iff, Option.some.injEq]
        exact eq_comm
  simp only [applyRule, filling_eq_wanted hfallback]
  by_cases hsettled : isSettled force config resolution.bindings rule = true
  · exact Or.inl ⟨if_pos hsettled, Or.inl hsettled⟩
  · rw [if_neg hsettled]
    by_cases hheld : Fields.get? resolution.bindings rule.targetKey =
        some (wanted candidates.head? rule)
    · exact Or.inl ⟨if_pos (hsame.mpr hheld), Or.inr hheld⟩
    · exact Or.inr ⟨by simpa using hsettled, hheld, if_neg fun hany => hheld (hsame.mp hany)⟩

theorem applyRule_of_settled (hsettled : isSettled force config resolution.bindings rule = true) :
    applyRule force config candidates resolution rule = resolution := if_pos hsettled

/-- A rule touches no slot but its own. -/
theorem get?_applyRule_of_ne
    (hfallback : (Binding.ofText rule.runInputFallback).isRunInput = true)
    (hne : rule.targetKey ≠ slot) :
    Fields.get? (applyRule force config candidates resolution rule).bindings slot =
      Fields.get? resolution.bindings slot := by
  rcases applyRule_cases hfallback force config candidates resolution with
    ⟨hsame, -⟩ | ⟨-, -, hstored⟩
  · rw [hsame]
  · rw [hstored, Fields.get?_set, if_neg hne]

theorem get?_applyRule_of_open
    (hfallback : (Binding.ofText rule.runInputFallback).isRunInput = true)
    (hopen : isSettled force config resolution.bindings rule = false) :
    Fields.get? (applyRule force config candidates resolution rule).bindings rule.targetKey =
      some (wanted candidates.head? rule) := by
  rcases applyRule_cases hfallback force config candidates resolution with
    ⟨hsame, hsettled | hheld⟩ | ⟨-, -, hstored⟩
  · rw [hopen] at hsettled
    cases hsettled
  · rw [hsame, hheld]
  · rw [hstored, Fields.get?_set, if_pos rfl]

/-- Whether a rule is settled is decided by the slots that it counts as its own. -/
theorem isSettled_congr {bindings other : Bindings}
    (htarget : Fields.get? other rule.targetKey = Fields.get? bindings rule.targetKey)
    (hkeys : ∀ key ∈ rule.bindingKeys, Fields.get? other key = Fields.get? bindings key) :
    isSettled force config other rule = isSettled force config bindings rule := by
  have hany : rule.bindingKeys.any (holdsBinding other) =
      rule.bindingKeys.any (holdsBinding bindings) := by
    rw [Bool.eq_iff_iff, List.any_eq_true, List.any_eq_true]
    refine exists_congr fun key => and_congr_right fun hkey => ?_
    rw [holdsBinding, holdsBinding, hkeys key hkey]
  rw [isSettled, isSettled, hany, holdsBinding, holdsBinding, htarget]

theorem isSettled_applyRule
    (hfallback : (Binding.ofText rule.runInputFallback).isRunInput = true)
    (hapart : rule.targetKey ≠ later.targetKey ∧ rule.targetKey ∉ later.bindingKeys) :
    isSettled force config (applyRule force config candidates resolution rule).bindings later =
      isSettled force config resolution.bindings later := by
  apply isSettled_congr
  · exact get?_applyRule_of_ne hfallback hapart.1
  · intro key hkey
    apply get?_applyRule_of_ne hfallback
    rintro rfl
    exact hapart.2 hkey

/-! ## All rules of a mode -/

/-- A slot whose rules are all settled keeps what it holds. -/
theorem get?_foldl_applyRule_of_settled (hrules : Compatible rules)
    (hsettled : ∀ rule ∈ rules, rule.targetKey = slot →
      isSettled force config resolution.bindings rule = true) :
    Fields.get? (rules.foldl (applyRule force config candidates) resolution).bindings slot =
      Fields.get? resolution.bindings slot := by
  induction rules generalizing resolution with
  | nil => rfl
  | cons rule rest ih =>
      have hfallback := hrules.falls_back rule List.mem_cons_self
      have hapart := (List.pairwise_cons.mp hrules.apart).1
      rw [List.foldl_cons]
      by_cases hslot : rule.targetKey = slot
      · rw [applyRule_of_settled (hsettled rule List.mem_cons_self hslot)]
        exact ih hrules.tail fun other hother => hsettled other (List.mem_cons_of_mem _ hother)
      · rw [ih hrules.tail fun other hother htarget => ?_, get?_applyRule_of_ne hfallback hslot]
        rw [isSettled_applyRule hfallback (hapart other hother)]
        exact hsettled other (List.mem_cons_of_mem _ hother) htarget

/-- The slot of a rule that is not settled holds in the end what the rule asks for. -/
theorem get?_foldl_applyRule_of_open (hrules : Compatible rules) (hrule : rule ∈ rules)
    (hopen : isSettled force config resolution.bindings rule = false) :
    Fields.get? (rules.foldl (applyRule force config candidates) resolution).bindings
        rule.targetKey = some (wanted candidates.head? rule) := by
  induction rules generalizing resolution with
  | nil => cases hrule
  | cons first rest ih =>
      have hfallback := hrules.falls_back first List.mem_cons_self
      have hapart := (List.pairwise_cons.mp hrules.apart).1
      rw [List.foldl_cons]
      rcases List.mem_cons.mp hrule with rfl | hrest
      · rw [get?_foldl_applyRule_of_settled hrules.tail fun other hother htarget =>
          absurd htarget.symm (hapart other hother).1]
        exact get?_applyRule_of_open hfallback hopen
      · exact ih hrules.tail hrest ((isSettled_applyRule hfallback (hapart rule hrest)).trans hopen)

/-- A change shows in the slot of a rule that is not settled. -/
theorem exists_open_of_changed_foldl (hrules : Compatible rules)
    (hchanged : (rules.foldl (applyRule force config candidates) resolution).changed = true) :
    resolution.changed = true ∨ ∃ rule ∈ rules,
      isSettled force config resolution.bindings rule = false ∧
        Fields.get? resolution.bindings rule.targetKey ≠
          some (wanted candidates.head? rule) := by
  induction rules generalizing resolution with
  | nil => exact Or.inl hchanged
  | cons rule rest ih =>
      have hfallback := hrules.falls_back rule List.mem_cons_self
      have hapart := (List.pairwise_cons.mp hrules.apart).1
      rcases ih hrules.tail hchanged with hfirst | ⟨other, hother, hopen, hdiffers⟩
      · rcases applyRule_cases hfallback force config candidates resolution with
          ⟨hsame, -⟩ | ⟨hopen, hdiffers, -⟩
        · exact Or.inl (hsame ▸ hfirst)
        · exact Or.inr ⟨rule, List.mem_cons_self, hopen, hdiffers⟩
      · rw [isSettled_applyRule hfallback (hapart other hother)] at hopen
        rw [get?_applyRule_of_ne hfallback (hapart other hother).1] at hdiffers
        exact Or.inr ⟨other, List.mem_cons_of_mem _ hother, hopen, hdiffers⟩

theorem foldl_applyRule_eq_self (hrules : Compatible rules)
    (hunchanged : (rules.foldl (applyRule force config candidates) resolution).changed = false) :
    rules.foldl (applyRule force config candidates) resolution = resolution := by
  induction rules generalizing resolution with
  | nil => rfl
  | cons rule rest ih =>
      have hrest := ih hrules.tail hunchanged
      have hfallback := hrules.falls_back rule List.mem_cons_self
      rcases applyRule_cases hfallback force config candidates resolution with
        ⟨hsame, -⟩ | ⟨-, -, hstored⟩
      · rw [List.foldl_cons, hrest, hsame]
      · rw [List.foldl_cons, hrest, hstored] at hunchanged
        cases hunchanged

/-! ## The bindings of a step -/

/-- The rule has nothing to do on the node: the configuration holds something under one of its
keys, or the mapping is not forced and a binding does. -/
def Overruled (force : Bool) (target : Node) (rule : BindingRule) : Prop :=
  (∃ key ∈ rule.configKeys, holdsSetting target.config key = true) ∨
    force = false ∧ ∃ key ∈ rule.bindingKeys, holdsBinding target.bindings key = true

/-- The first of the sources, in order, that may feed the target. -/
def feeder? (target : Node) (sources : List Node) (stages : Fields Int) : Option Node :=
  sources.find? fun source => Stage.canFeed stages source.id target.id

section Resolve

variable {target : Node} {sources : List Node} {stages : Fields Int}

theorem isSettled_iff_overruled (hrule : rule ∈ rulesOf target) :
    isSettled force target.config target.bindings rule = true ↔ Overruled force target rule := by
  have hown := (compatible_rulesOf target).own rule hrule
  cases force with
  | true => simp [isSettled, Overruled]
  | false =>
      simp only [isSettled, Overruled, Bool.not_false, Bool.true_and, Bool.or_eq_true,
        List.any_eq_true, true_and]
      refine or_congr_right (or_iff_left_of_imp fun hheld => ⟨rule.targetKey, hown, hheld⟩)

theorem isSettled_eq_false_iff (hrule : rule ∈ rulesOf target) :
    isSettled force target.config target.bindings rule = false ↔
      ¬ Overruled force target rule := by
  rw [← isSettled_iff_overruled hrule, Bool.not_eq_true]

/-- What the rules see as the first candidate. -/
theorem head?_candidates :
    (sources.filter fun source => Stage.canFeed stages source.id target.id).head? =
      feeder? target sources stages := List.head?_filter ..

theorem get?_resolve_of_overruled
    (hoverruled : ∀ rule ∈ rulesOf target, rule.targetKey = slot → Overruled force target rule) :
    Fields.get? (resolve target sources stages force).bindings slot =
      Fields.get? target.bindings slot :=
  get?_foldl_applyRule_of_settled (compatible_rulesOf target) fun rule hrule htarget =>
    (isSettled_iff_overruled hrule).mpr (hoverruled rule hrule htarget)

theorem get?_resolve_of_open (hrule : rule ∈ rulesOf target)
    (hopen : ¬ Overruled force target rule) (sources : List Node) (stages : Fields Int) :
    Fields.get? (resolve target sources stages force).bindings rule.targetKey =
      some (wanted (feeder? target sources stages) rule) := by
  rw [← head?_candidates]
  exact get?_foldl_applyRule_of_open (compatible_rulesOf target) hrule
    ((isSettled_eq_false_iff hrule).mpr hopen)

/-- Mapping changes a node exactly if the slot of a rule that nothing overrules holds something
else than what the rule asks for. -/
theorem changed_resolve_iff :
    (resolve target sources stages force).changed = true ↔
      ∃ rule ∈ rulesOf target, ¬ Overruled force target rule ∧
        Fields.get? target.bindings rule.targetKey ≠
          some (wanted (feeder? target sources stages) rule) := by
  constructor
  · intro hchanged
    rcases exists_open_of_changed_foldl (compatible_rulesOf target) hchanged with
      hstart | ⟨rule, hrule, hopen, hdiffers⟩
    · cases hstart
    · rw [head?_candidates] at hdiffers
      exact ⟨rule, hrule, (isSettled_eq_false_iff hrule).mp hopen, hdiffers⟩
  · rintro ⟨rule, hrule, hopen, hdiffers⟩
    by_contra hunchanged
    have hkept : resolve target sources stages force = { bindings := target.bindings } :=
      foldl_applyRule_eq_self (compatible_rulesOf target) (Bool.eq_false_iff.mpr hunchanged)
    have hfilled := get?_resolve_of_open hrule hopen sources stages
    rw [hkept] at hfilled
    exact hdiffers hfilled

theorem bindings_resolve_of_unchanged
    (hunchanged : (resolve target sources stages force).changed = false) :
    (resolve target sources stages force).bindings = target.bindings :=
  congrArg Resolution.bindings
    (foldl_applyRule_eq_self (compatible_rulesOf target) hunchanged :
      resolve target sources stages force = { bindings := target.bindings })

/-- The slot of a rule that something overrules is left alone. -/
theorem get?_targetKey_of_overruled (hrule : rule ∈ rulesOf target)
    (hoverruled : Overruled force target rule) :
    Fields.get? (resolve target sources stages force).bindings rule.targetKey =
      Fields.get? target.bindings rule.targetKey := by
  apply get?_resolve_of_overruled
  intro other hother hslot
  exact (compatible_rulesOf target).eq_of_targetKey_eq hrule hother hslot.symm ▸ hoverruled

theorem get?_targetKey_of_feeder (hrule : rule ∈ rulesOf target)
    (hopen : ¬ Overruled force target rule) {output : String} {source : Node}
    (houtput : rule.sourceOutput = some output)
    (hfirst : feeder? target sources stages = some source) :
    Fields.get? (resolve target sources stages force).bindings rule.targetKey =
      some (.stepOutput source.id (outputPath source output)) := by
  rw [get?_resolve_of_open hrule hopen, hfirst, wanted, houtput]
  rfl

theorem get?_targetKey_of_no_feeder (hrule : rule ∈ rulesOf target)
    (hopen : ¬ Overruled force target rule)
    (hnone : rule.sourceOutput = none ∨ feeder? target sources stages = none) :
    ∃ path, Binding.ofText rule.runInputFallback = .runInput path ∧
      Fields.get? (resolve target sources stages force).bindings rule.targetKey =
        some (.runInput path) := by
  obtain ⟨path, hpath⟩ := Binding.isRunInput_iff.mp
    ((compatible_rulesOf target).falls_back rule hrule)
  refine ⟨path, hpath, ?_⟩
  rw [get?_resolve_of_open hrule hopen, ← hpath]
  rcases hnone with houtput | hfirst
  · simp [wanted, houtput]
  · simp [wanted, hfirst]

theorem changed_resolve_iff_differs :
    (resolve target sources stages force).changed = true ↔ ∃ slot,
      Fields.get? (resolve target sources stages force).bindings slot ≠
        Fields.get? target.bindings slot := by
  constructor
  · intro hchanged
    obtain ⟨rule, hrule, hopen, hdiffers⟩ := changed_resolve_iff.mp hchanged
    refine ⟨rule.targetKey, fun hsame => hdiffers ?_⟩
    rw [← hsame]
    exact get?_resolve_of_open hrule hopen sources stages
  · rintro ⟨slot, hdiffers⟩
    by_contra hunchanged
    apply hdiffers
    rw [bindings_resolve_of_unchanged (Bool.eq_false_iff.mpr hunchanged)]

end Resolve

/-- Mapping the inputs of a node touches the slots of its mode's rules only. It leaves a slot alone
where a setting overrules the rule or, unless forced, a binding does, and fills every other one from
the first source that may feed the node, or else from the run input. A change is told exactly when
the bindings differ. -/
theorem resolve_fills_open_slots (target : Node) (sources : List Node) (stages : Fields Int)
    (force : Bool) :
    let resolution := resolve target sources stages force
    (∀ slot, (∀ rule ∈ rulesOf target, rule.targetKey ≠ slot) →
        Fields.get? resolution.bindings slot = Fields.get? target.bindings slot) ∧
      (∀ rule ∈ rulesOf target, Overruled force target rule →
        Fields.get? resolution.bindings rule.targetKey =
          Fields.get? target.bindings rule.targetKey) ∧
      (∀ rule ∈ rulesOf target, ¬ Overruled force target rule →
        (∀ output source, rule.sourceOutput = some output →
          sources.find? (fun source => Stage.canFeed stages source.id target.id) = some source →
            Fields.get? resolution.bindings rule.targetKey =
              some (.stepOutput source.id (outputPath source output))) ∧
        (rule.sourceOutput = none ∨
            (∀ source ∈ sources, Stage.canFeed stages source.id target.id = false) →
          ∃ path, Binding.ofText rule.runInputFallback = .runInput path ∧
            Fields.get? resolution.bindings rule.targetKey = some (.runInput path))) ∧
      (resolution.changed = true ↔ ∃ slot,
        Fields.get? resolution.bindings slot ≠ Fields.get? target.bindings slot) ∧
      (resolution.changed = false → resolution.bindings = target.bindings) := by
  intro resolution
  refine ⟨?_, ?_, ?_, changed_resolve_iff_differs, bindings_resolve_of_unchanged⟩
  · intro slot hforeign
    exact get?_resolve_of_overruled fun rule hrule hslot => absurd hslot (hforeign rule hrule)
  · intro rule hrule hoverruled
    exact get?_targetKey_of_overruled hrule hoverruled
  · intro rule hrule hopen
    refine ⟨fun output source houtput hfirst =>
      get?_targetKey_of_feeder hrule hopen houtput hfirst, fun hnone => ?_⟩
    apply get?_targetKey_of_no_feeder hrule hopen
    refine hnone.imp_right fun hfeeders => ?_
    simpa [feeder?] using hfeeders

/-- A step with documents of its own behind a folder listing and a later step: forced mapping takes
the text from the listing and leaves the documents alone. -/
theorem resolve_fills_open_slots_behind_listing :
    let target : Node :=
      { id := "read", type := "ai"
        data :=
          { mode := "extract", config := [("doc_ids", .list [.text "doc-1"])]
            bindings := [("text", .runInput "text")] } }
    let sources : List Node :=
      [{ id := "late", type := "ai", data := { mode := "generate" } },
       { id := "list", type := "records", data := { mode := "list_folder" } }]
    let stages : Fields Int := [("list", 0), ("read", 1), ("late", 1)]
    Overruled true target Palette.docIdsRule ∧ ¬ Overruled true target Palette.textRule ∧
      Fields.get? (resolve target sources stages true).bindings "doc_ids" = none ∧
      Fields.get? (resolve target sources stages true).bindings "text" =
        some (.stepOutput "list" "text") := by
  intro target sources stages
  have hdocs : Palette.docIdsRule ∈ rulesOf target := by decide +kernel
  have htext : Palette.textRule ∈ rulesOf target := by decide +kernel
  have hoverruled : Overruled true target Palette.docIdsRule :=
    Or.inl ⟨"doc_ids", by decide, by decide +kernel⟩
  have hopen : ¬ Overruled true target Palette.textRule := by
    rw [← isSettled_iff_overruled htext]
    decide +kernel
  obtain ⟨-, hkept, hfilled, -⟩ := resolve_fills_open_slots target sources stages true
  refine ⟨hoverruled, hopen, hkept _ hdocs hoverruled, ?_⟩
  exact (hfilled _ htext hopen).1 "text" _ rfl rfl

end Mapping

end FlowGraph
