/-
# Types that are declared again

A registry is filled by declarations, one after another. A declaration with problems is refused and
leaves the registry as it was. A valid one takes the place of the type that was declared under its
name before, but the index of backend keys is only added to: a key that the type had and has no
longer stays there, and still leads to the mode that is gone.

So a key of the index leads to a mode that exists and has this key just if the type that declared
the key last was not declared again since. What is declared of other types does not matter.
-/

import FlowGraph.Proofs.Case
import FlowGraph.Proofs.Catalog

namespace FlowGraph

open Text

theorem Problem.when_eq_nil_iff {present : Bool} {problem : Problem} :
    Problem.when present problem = [] ↔ present = false := by
  cases present <;> simp [Problem.when]

/-- Modes without problems have names of their own, and none that was seen before. -/
theorem Mode.nodup_values {builderOnly : Bool} {seen : List String} {modes : List Mode}
    (hvalid : Mode.problemsOfAll builderOnly seen modes = []) :
    (modes.map Mode.value).Nodup ∧ ∀ value ∈ modes.map Mode.value, value ∉ seen := by
  induction modes generalizing seen with
  | nil => simp
  | cons mode rest ih =>
      obtain ⟨hmode, hrest⟩ := List.append_eq_nil_iff.mp hvalid
      obtain ⟨hdistinct, hunseen⟩ := ih hrest
      have hfresh : mode.value ∉ seen := by
        simp only [Mode.problems, List.append_eq_nil_iff, Problem.when_eq_nil_iff] at hmode
        simpa using hmode.1.1.1.1.1.2
      refine ⟨?_, ?_⟩
      · rw [List.map_cons, List.nodup_cons]
        exact ⟨fun hmem => hunseen _ hmem List.mem_cons_self, hdistinct⟩
      · intro value hvalue hseen
        rcases List.mem_cons.mp hvalue with rfl | hlater
        · exact hfresh hseen
        · exact hunseen value hlater (List.mem_cons_of_mem _ hseen)

namespace NodeType

/-- The declaration has no problems. -/
def IsValid (type : NodeType) : Prop := type.problems = []

instance (type : NodeType) : Decidable type.IsValid := inferInstanceAs (Decidable (_ = []))

/-- One of the modes has the backend key, whatever the case of either. -/
def HasKey (type : NodeType) (key : String) : Prop :=
  ∃ mode ∈ type.modes, ∃ named ∈ mode.nodeKey, named ≠ "" ∧ lower named = lower key

instance (type : NodeType) (key : String) : Decidable (type.HasKey key) :=
  inferInstanceAs (Decidable (∃ mode ∈ type.modes, ∃ named ∈ mode.nodeKey, _ ∧ _))

theorem IsValid.findMode?_eq {type : NodeType} (hvalid : type.IsValid) {mode : Mode}
    (hmode : mode ∈ type.modes) : type.findMode? (some mode.value) = some mode :=
  findMode?_of_nodup (Mode.nodup_values (List.append_eq_nil_iff.mp hvalid).2).1 hmode

end NodeType

/-- A node type as it is declared, with the name of what declares it. -/
structure Declaration where
  owner : String
  type : NodeType

namespace Registry

variable {registry : Registry} {declarations : List Declaration} {key name : String}

/-! ## The registry after a row of declarations -/

/-- The registry after an attempt to register a type. -/
def attempt (registry : Registry) (declaration : Declaration) : Registry :=
  match registry.register declaration.owner declaration.type with
  | .ok extended => extended
  | .error _ => registry

/-- The registry that a row of declarations fills. -/
def declared (declarations : List Declaration) : Registry := declarations.foldl attempt {}

theorem register_of_isValid {declaration : Declaration} (hvalid : declaration.type.IsValid) :
    registry.register declaration.owner declaration.type = .ok (registry.add declaration.type) := by
  have hnone : declaration.type.problems = [] := hvalid
  simp only [register, hnone]

theorem register_of_not_isValid {declaration : Declaration}
    (hinvalid : ¬ declaration.type.IsValid) :
    registry.register declaration.owner declaration.type =
      .error (.badDeclaration declaration.owner
        (declaration.type.problems.map Problem.message)) := by
  rw [register]
  split
  · next hnone => exact absurd hnone hinvalid
  · rfl

theorem attempt_eq (registry : Registry) (declaration : Declaration) :
    registry.attempt declaration =
      if declaration.type.IsValid then registry.add declaration.type else registry := by
  by_cases hvalid : declaration.type.IsValid
  · rw [attempt, register_of_isValid hvalid, if_pos hvalid]
  · rw [attempt, register_of_not_isValid hvalid, if_neg hvalid]

theorem declared_concat (declarations : List Declaration) (declaration : Declaration) :
    declared (declarations ++ [declaration]) = (declared declarations).attempt declaration := by
  rw [declared, List.foldl_append]
  rfl

/-- What a declaration stores in the index under a key, if it is valid. -/
def stored? (key : String) (declaration : Declaration) : Option (String × String) :=
  if declaration.type.IsValid then Fields.get? (keyEntries declaration.type).reverse key else none

/-- The type of a declaration, if it is valid and declares this name. -/
def typeNamed? (name : String) (declaration : Declaration) : Option NodeType :=
  if declaration.type.IsValid ∧ declaration.type.name = name then some declaration.type else none

/-- The index holds what the last declaration with the key stored there. -/
theorem get?_keys_declared (declarations : List Declaration) (key : String) :
    Fields.get? (declared declarations).keys key =
      declarations.reverse.findSome? (stored? key) := by
  induction declarations using List.reverseRecOn with
  | nil => rfl
  | append_singleton before declaration ih =>
      rw [declared_concat, attempt_eq, List.reverse_concat, List.findSome?_cons, ← ih, stored?]
      by_cases hvalid : declaration.type.IsValid
      · rw [if_pos hvalid, if_pos hvalid, add, Fields.get?_setAll]
        cases Fields.get? (keyEntries declaration.type).reverse key <;> rfl
      · rw [if_neg hvalid, if_neg hvalid]

/-- The type of a name is the one that was declared last. -/
theorem type?_declared (declarations : List Declaration) (name : String) :
    (declared declarations).type? name = declarations.reverse.findSome? (typeNamed? name) := by
  induction declarations using List.reverseRecOn with
  | nil => rfl
  | append_singleton before declaration ih =>
      rw [declared_concat, attempt_eq, List.reverse_concat, List.findSome?_cons, ← ih, typeNamed?]
      by_cases hvalid : declaration.type.IsValid
      · rw [if_pos hvalid, type?, add, Fields.get?_set]
        by_cases hname : declaration.type.name = name
        · simp [hvalid, hname]
        · simp [hname, type?]
      · simp [hvalid]

theorem stored?_eq_some {declaration : Declaration} {entry : String × String}
    (hentry : stored? (lower key) declaration = some entry) :
    declaration.type.IsValid ∧ ∃ mode ∈ declaration.type.modes, ∃ named,
      mode.nodeKey = some named ∧ named ≠ "" ∧ lower named = lower key ∧
        entry = (declaration.type.name, mode.value) := by
  rw [stored?] at hentry
  split at hentry
  · next hvalid =>
    have hmem := List.mem_reverse.mp (Fields.mem_of_get? hentry)
    obtain ⟨mode, hmode, named, hnamed, hne, heq⟩ := mem_keyEntries_iff.mp hmem
    obtain ⟨hkey, hheld⟩ := Prod.mk.inj heq
    exact ⟨hvalid, mode, hmode, named, hnamed, hne, hkey.symm, hheld⟩
  · cases hentry

theorem stored?_eq_none_iff {declaration : Declaration} :
    stored? (lower key) declaration = none ↔
      ¬ (declaration.type.IsValid ∧ declaration.type.HasKey key) := by
  constructor
  · rintro hnone ⟨hvalid, mode, hmode, named, hnamed, hne, hkey⟩
    rw [stored?, if_pos hvalid, Fields.get?_eq_none_iff] at hnone
    apply hnone
    have hmem : (lower key, (declaration.type.name, mode.value)) ∈
        (keyEntries declaration.type).reverse :=
      List.mem_reverse.mpr
        (mem_keyEntries_iff.mpr ⟨mode, hmode, named, hnamed, hne, by rw [hkey]⟩)
    exact List.mem_map.mpr ⟨_, hmem, rfl⟩
  · intro hlacks
    cases hentry : stored? (lower key) declaration with
    | none => rfl
    | some entry =>
        obtain ⟨hvalid, mode, hmode, named, hnamed, hne, hkey, -⟩ := stored?_eq_some hentry
        exact absurd ⟨hvalid, mode, hmode, named, hnamed, hne, hkey⟩ hlacks

theorem typeNamed?_eq_none_iff {declaration : Declaration} :
    typeNamed? name declaration = none ↔
      (declaration.type.IsValid → declaration.type.name ≠ name) := by
  simp [typeNamed?]

/-! ## Where keys lead -/

/-- The key leads to a mode that the registry has, and that has the key up to its case. -/
def Leads (registry : Registry) (key : String) : Prop :=
  ∃ type mode implemented, registry.resolveKey key = (type, mode, implemented) ∧
    ∃ record, registry.modeFor type (some mode) = .ok record ∧
      ∃ named, record.nodeKey = some named ∧ lower named = lower key

theorem modeFor_eq_ok_iff {type : String} {mode : Option String} {record : Mode} :
    registry.modeFor type mode = .ok record ↔
      ∃ found, registry.type? type = some found ∧ found.findMode? mode = some record := by
  rw [modeFor, require]
  cases registry.type? type with
  | none => simp [bind, Except.bind]
  | some found =>
      simp only [bind, Except.bind, Option.some.injEq, exists_eq_left']
      cases found.findMode? mode <;> simp

/-- A key of the index leads to a mode that has it just if the type of its entry, as it is now,
has such a mode. -/
theorem leads_iff (htrimmed : trim key = key) {type mode : String}
    (hentry : Fields.get? registry.keys (lower key) = some (type, mode)) :
    registry.Leads key ↔ ∃ found record named, registry.type? type = some found ∧
      found.findMode? (some mode) = some record ∧ record.nodeKey = some named ∧
        lower named = lower key := by
  have hresolved : registry.resolveKey key =
      (type, mode, (registry.lookupMode? type (some mode)).any Mode.implemented) := by
    rw [resolveKey, htrimmed, hentry]
  constructor
  · rintro ⟨_, _, _, hleads, record, hrecord, named, hnamed, hkey⟩
    cases hresolved.symm.trans hleads
    obtain ⟨found, hfound, hmode⟩ := modeFor_eq_ok_iff.mp hrecord
    exact ⟨found, record, named, hfound, hmode, hnamed, hkey⟩
  · rintro ⟨found, record, named, hfound, hmode, hnamed, hkey⟩
    exact ⟨type, mode, _, hresolved, record, modeFor_eq_ok_iff.mpr ⟨found, hfound, hmode⟩, named,
      hnamed, hkey⟩

/-- A search from the back finds the last element that holds something. -/
theorem findSome?_reverse_eq_some_iff {α β : Type} {f : α → Option β} {items : List α}
    {held : β} : items.reverse.findSome? f = some held ↔
      ∃ before last after, items = before ++ last :: after ∧ f last = some held ∧
        ∀ later ∈ after, f later = none := by
  rw [List.findSome?_eq_some_iff]
  constructor
  · rintro ⟨after, last, before, hsplit, hlast, hafter⟩
    refine ⟨before.reverse, last, after.reverse, ?_, hlast, ?_⟩
    · rw [← List.reverse_reverse items, hsplit]
      simp
    · simpa using hafter
  · rintro ⟨before, last, after, rfl, hlast, hafter⟩
    exact ⟨after.reverse, last, before.reverse, by simp, hlast, by simpa using hafter⟩

/-- The type of a valid declaration, unless its name is declared again. -/
theorem type?_declared_append {before after : List Declaration} {last : Declaration}
    (hvalid : last.type.IsValid) :
    (declared (before ++ last :: after)).type? last.type.name =
      (after.reverse.findSome? (typeNamed? last.type.name)).or (some last.type) := by
  have hown : typeNamed? last.type.name last = some last.type := by simp [typeNamed?, hvalid]
  rw [type?_declared]
  simp only [List.reverse_append, List.reverse_cons, List.append_assoc, List.findSome?_append,
    List.findSome?_cons, hown, Option.some_or]

/-- A declaration with problems is refused, with all of them told, and changes nothing. After any
row of declarations a key of the index leads to a mode that exists and has this key just if the
last valid declaration with the key is not followed by another one of the same type. -/
theorem keys_lead_iff_current (declarations : List Declaration) :
    (∀ (registry : Registry) (declaration : Declaration), ¬ declaration.type.IsValid →
      registry.register declaration.owner declaration.type =
          .error (.badDeclaration declaration.owner
            (declaration.type.problems.map Problem.message)) ∧
        registry.attempt declaration = registry) ∧
    ∀ key, trim key = key → Fields.has (declared declarations).keys (lower key) = true →
      ((declared declarations).Leads key ↔
        ∃ before last after, declarations = before ++ last :: after ∧
          last.type.IsValid ∧ last.type.HasKey key ∧
          ∀ later ∈ after, later.type.IsValid →
            ¬ later.type.HasKey key ∧ later.type.name ≠ last.type.name) := by
  refine ⟨fun registry declaration hinvalid => ?_, fun key htrimmed hfound => ?_⟩
  · exact ⟨register_of_not_isValid hinvalid, by rw [attempt_eq, if_neg hinvalid]⟩
  obtain ⟨entry, hindex⟩ := Option.isSome_iff_exists.mp hfound
  constructor
  · intro hleads
    obtain ⟨before, last, after, rfl, hlast, hafter⟩ :=
      findSome?_reverse_eq_some_iff.mp ((get?_keys_declared _ _).symm.trans hindex)
    obtain ⟨hvalid, mode, hmode, named, hnamed, hne, hkey, rfl⟩ := stored?_eq_some hlast
    refine ⟨before, last, after, rfl, hvalid, ⟨mode, hmode, named, hnamed, hne, hkey⟩, ?_⟩
    have hlacks : ∀ later ∈ after, later.type.IsValid → ¬ later.type.HasKey key :=
      fun later hlater hvalid' hhas => stored?_eq_none_iff.mp (hafter later hlater) ⟨hvalid', hhas⟩
    intro later hlater hlaterValid
    refine ⟨hlacks later hlater hlaterValid, fun hname => ?_⟩
    -- the type of this name is one that was declared after the key, and lacks it
    obtain ⟨found, record, other, htype, hrecord, hother, hsame⟩ :=
      (leads_iff htrimmed hindex).mp hleads
    rw [type?_declared_append hvalid] at htype
    cases hredeclared : after.reverse.findSome? (typeNamed? last.type.name) with
    | none =>
        have hnone := List.findSome?_eq_none_iff.mp hredeclared later (List.mem_reverse.mpr hlater)
        exact typeNamed?_eq_none_iff.mp hnone hlaterValid hname
    | some current =>
        rw [hredeclared, Option.some_or, Option.some.injEq] at htype
        obtain ⟨declaration, hmem, hcurrent⟩ := List.exists_of_findSome?_eq_some hredeclared
        rw [typeNamed?] at hcurrent
        split at hcurrent
        · next hdeclared =>
          cases hcurrent
          rw [← htype] at hrecord
          have hotherNe : other ≠ "" := by
            rwa [Ne, ← lower_eq_empty_iff, hsame, ← hkey, lower_eq_empty_iff]
          have hhas : declaration.type.HasKey key :=
            ⟨record, List.mem_of_find?_eq_some hrecord, other, hother, hotherNe, hsame⟩
          exact hlacks declaration (List.mem_reverse.mp hmem) hdeclared.1 hhas
        · cases hcurrent
  · rintro ⟨before, last, after, rfl, hvalid, hhas, hafter⟩
    have hentry : stored? (lower key) last ≠ none := by
      rw [Ne, stored?_eq_none_iff, not_not]
      exact ⟨hvalid, hhas⟩
    obtain ⟨stored, hstored⟩ := Option.ne_none_iff_exists'.mp hentry
    have hcurrent : Fields.get? (declared (before ++ last :: after)).keys (lower key) =
        some stored := by
      rw [get?_keys_declared, findSome?_reverse_eq_some_iff]
      refine ⟨before, last, after, rfl, hstored, fun later hlater => ?_⟩
      rw [stored?_eq_none_iff]
      exact fun hlaterHas => (hafter later hlater hlaterHas.1).1 hlaterHas.2
    obtain ⟨-, mode, hmode, named, hnamed, -, hkey, rfl⟩ := stored?_eq_some hstored
    rw [leads_iff htrimmed hcurrent]
    refine ⟨last.type, mode, named, ?_, hvalid.findMode?_eq hmode, hnamed, hkey⟩
    have hnone : after.reverse.findSome? (typeNamed? last.type.name) = none := by
      rw [List.findSome?_eq_none_iff]
      intro later hlater
      rw [typeNamed?_eq_none_iff]
      exact fun hlaterValid => (hafter later (List.mem_reverse.mp hlater) hlaterValid).2
    rw [type?_declared_append hvalid, hnone, Option.none_or]

/-- The declaration of a type with one mode. -/
def single (name mode key : String) : Declaration :=
  { owner := name
    type := { name, modes := [{ value := mode, label := mode, nodeKey := some key }] } }

theorem key_of_unchanged_type_leads :
    (declared [single "mail" "send" "Mail.Send", single "" "run" "mail.send",
      single "log" "write" "log.write"]).Leads "mail.SEND" :=
  ((keys_lead_iff_current _).2 "mail.SEND" (by decide +kernel) (by decide +kernel)).mpr
    ⟨[], single "mail" "send" "Mail.Send", _, rfl, by decide +kernel, by decide +kernel,
      by decide +kernel⟩

/-- A key that a type had before it was declared again is still found, and leads to a mode that the
type has no longer. -/
theorem key_of_replaced_type_leads_nowhere :
    let registry := declared [single "mail" "send" "mail.send", single "mail" "post" "mail.post"]
    Fields.has registry.keys "mail.send" = true ∧
      registry.resolveKey "mail.send" = ("mail", "send", true) ∧
      registry.modeFor "mail" (some "send") = .error (.unknownMode "mail" (some "send")) ∧
      ¬ registry.Leads "mail.send" := by
  intro registry
  have hmode : registry.modeFor "mail" (some "send") =
      .error (.unknownMode "mail" (some "send")) := by rfl
  have hresolved : registry.resolveKey "mail.send" = ("mail", "send", true) := by decide +kernel
  refine ⟨by decide +kernel, hresolved, hmode, ?_⟩
  rintro ⟨type, mode, implemented, hleads, record, hrecord, -⟩
  cases hresolved.symm.trans hleads
  cases hmode.symm.trans hrecord

end Registry

end FlowGraph
