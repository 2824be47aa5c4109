/-
# What the written forms keep

A binding that is written and read again comes back from the wire form only if its text cannot be
taken for another one, and from the row form only if the reader finds nothing in it to tidy up.
Both conditions are exact. For a binding that was read from a text most of them hold by themselves;
what is left are the paths whose first field is called like the output or like the run input, since
a name in that place is always taken for the mark and dropped.
-/

import FlowGraph.Binding.Reading
import FlowGraph.Proofs.Fields
import FlowGraph.Proofs.Path

namespace FlowGraph

open Text FlowGraph.Path

/-- The value is read as the constant that it is: it is no row, and as a text it is trimmed and no
reference. -/
def Value.IsLiteral : Value → Prop
  | .text s => trim s = s ∧ ¬NamesInput s.toList ∧ readStepReference? s = none
  | .object fields => Fields.get? fields "source" = none
  | _ => True

namespace Binding

/-- The binding comes back from its wire form. -/
def WireExact : Binding → Prop
  | runInput path => ∀ c ∈ path.toList.getLast?, isBlank c = false
  | stepOutput stepId path => IsReferable stepId ∧ IsKeptPath path
  | constant value => value.IsLiteral

/-- The binding comes back from its row form. -/
def RowExact : Binding → Prop
  | runInput path => trim path = path ∧ ¬NamesInput path.toList
  | stepOutput stepId path =>
    trim stepId = stepId ∧ trim path = path ∧ ¬NamesOutput path.toList ∧
      readStepReference? path = none
  | constant _ => True

/-! ## The wire form -/

/-- What a text is read as: the first of the three kinds of binding that fits. -/
theorem ofText_cases (s : String) :
    (∃ id path, readStepReference? s = some (id, path) ∧ ofText s = stepOutput id path) ∨
    (∃ path, readStepReference? s = none ∧ readInputReference? (trimChars s.toList) = some path ∧
      ofText s = runInput (String.ofList path)) ∨
    (readStepReference? s = none ∧ readInputReference? (trimChars s.toList) = none ∧
      ofText s = constant (.text (trim s))) := by
  cases hstep : readStepReference? s with
  | some pair =>
      refine Or.inl ⟨pair.1, pair.2, rfl, ?_⟩
      rw [ofText, hstep]
  | none =>
      cases hinput : readInputReference? (trimChars s.toList) with
      | some path =>
          refine Or.inr (Or.inl ⟨path, rfl, rfl, ?_⟩)
          rw [ofText, hstep, hinput]
      | none =>
          refine Or.inr (Or.inr ⟨rfl, rfl, ?_⟩)
          rw [ofText, hstep, hinput]

/-- The run input is written as the root or behind the mark, and read back up to trailing blanks. -/
theorem parse_toWire_runInput (path : String) :
    parse (runInput path).toWire = runInput (String.ofList (trimEnd path.toList)) := by
  by_cases hpath : path = ""
  · rw [hpath]
    rfl
  · have hchars : trimChars ("$.input." ++ path).toList = inputMark ++ trimEnd path.toList := by
      rw [String.toList_append]
      exact trimChars_inputMark path.toList
    have hstep : readStepReference? ("$.input." ++ path) = none :=
      readStepReference?_inputRoot hchars
    rw [toWire, if_neg hpath]
    show ofText ("$.input." ++ path) = _
    rw [ofText, hstep, hchars]
    rfl

theorem parse_toWire_stepOutput_iff {id path : String} :
    parse (stepOutput id path).toWire = stepOutput id path ↔ IsReferable id ∧ IsKeptPath path := by
  rw [← readStepReference?_stepReference_iff]
  show ofText (stepReference id path) = _ ↔ _
  rcases ofText_cases (stepReference id path) with
    ⟨_, _, hread, hbinding⟩ | ⟨_, hread, -, hbinding⟩ | ⟨hread, -, hbinding⟩
  · simp [hread, hbinding]
  · simp [hread, hbinding]
  · simp [hread, hbinding]

/-- A row is never read as itself: what it holds is smaller. -/
theorem ofRow_ne_constant (source : Value) (row : Fields Value) :
    ofRow source row ≠ constant (.object row) := by
  unfold ofRow
  split
  · unfold ofStepRow
    dsimp only
    split <;> exact nofun
  · intro hsame
    have hheld : (Fields.get? row "value").getD .null = .object row := Binding.constant.inj hsame
    cases hvalue : Fields.get? row "value" with
    | none =>
        rw [hvalue] at hheld
        cases hheld
    | some held =>
        rw [hvalue, Option.getD_some] at hheld
        have hsmaller := List.sizeOf_lt_of_mem (Fields.mem_of_get? hvalue)
        rw [hheld] at hsmaller
        simp at hsmaller
        omega
  · exact nofun

theorem parse_eq_constant_iff {value : Value} : parse value = constant value ↔ value.IsLiteral := by
  cases value with
  | text s =>
      show ofText s = constant (.text s) ↔ trim s = s ∧ ¬NamesInput s.toList ∧ _
      rw [← readInputReference?_eq_none_iff]
      rcases ofText_cases s with
        ⟨_, _, hread, hbinding⟩ | ⟨_, -, hread, hbinding⟩ | ⟨hstep, hinput, hbinding⟩
      · simp [hread, hbinding]
      · rw [hbinding]
        refine iff_of_false nofun fun hliteral => ?_
        rw [trimChars_eq_self (trim_eq_self_iff.mp hliteral.1), hliteral.2.1] at hread
        cases hread
      · rw [hbinding]
        constructor
        · intro hsame
          have htrim : trim s = s := by simpa using hsame
          rw [trimChars_eq_self (trim_eq_self_iff.mp htrim)] at hinput
          exact ⟨htrim, hinput, hstep⟩
        · intro hliteral
          rw [hliteral.1]
  | object row =>
      show _ ↔ Fields.get? row "source" = none
      rw [parse]
      cases hsource : Fields.get? row "source" with
      | none => exact iff_of_true rfl rfl
      | some source => exact iff_of_false (ofRow_ne_constant source row) nofun
  | _ => exact iff_of_true rfl trivial

/-- A binding comes back from its wire form if and only if nothing in the form is ambiguous. -/
theorem parse_toWire_eq_self_iff (binding : Binding) :
    parse binding.toWire = binding ↔ binding.WireExact := by
  cases binding with
  | runInput path =>
      rw [parse_toWire_runInput, WireExact, ← trimEnd_eq_self_iff, runInput.injEq,
        ← String.toList_inj, String.toList_ofList]
  | stepOutput id path => exact parse_toWire_stepOutput_iff
  | constant value => exact parse_eq_constant_iff

/-! ## The row form -/

theorem filledText_text (s : String) : (Value.text s).filledText = s := by
  by_cases hs : s = "" <;> simp [Value.filledText, Value.isTruthy, Value.display, hs]

theorem parse_toRow_runInput (path : String) :
    parse (runInput path).toRow =
      runInput (String.ofList
        ((readInputReference? (trimChars path.toList)).getD (trimChars path.toList))) := by
  show ofInputRow [("source", .text "run_input"), ("path", .text path)] = _
  simp only [ofInputRow, Fields.get?_cons, reduceIte, Option.getD_some, filledText_text,
    String.reduceEq]

/-- A path that is a reference to a step is replaced by the path of that reference. -/
theorem parse_toRow_stepOutput_of_reference {id path named inner : String}
    (hread : readStepReference? path = some (named, inner)) :
    parse (stepOutput id path).toRow =
      stepOutput (if trim id = "" then named else trim id) inner := by
  show ofStepRow [("source", .text "step_output"), ("step_id", .text id), ("path", .text path)] = _
  simp only [ofStepRow, Value.trimmedText, Fields.get?_cons, reduceIte, Option.getD_some,
    filledText_text, String.reduceEq, hread]

theorem parse_toRow_stepOutput_of_none {id path : String} (hread : readStepReference? path = none) :
    parse (stepOutput id path).toRow =
      stepOutput (trim id) (String.ofList (dropOutput (trimChars path.toList))) := by
  show ofStepRow [("source", .text "step_output"), ("step_id", .text id), ("path", .text path)] = _
  simp only [ofStepRow, Value.trimmedText, Fields.get?_cons, reduceIte, Option.getD_some,
    filledText_text, String.reduceEq, hread]

theorem parse_toRow_constant (value : Value) :
    parse (constant value).toRow = constant value := rfl

/-- A run input comes back from its row if its path is trimmed and not taken for a reference. -/
theorem parse_toRow_runInput_iff {path : String} :
    parse (runInput path).toRow = runInput path ↔ trim path = path ∧ ¬NamesInput path.toList := by
  rw [parse_toRow_runInput, runInput.injEq, ← readInputReference?_eq_none_iff]
  have hlength := (trimChars_sublist path.toList).length_le
  constructor
  · intro hsame
    cases hread : readInputReference? (trimChars path.toList) with
    | some inner =>
        rw [hread, Option.getD_some] at hsame
        have hshorter := (readInputReference?_suffix hread).2
        rw [← hsame, String.toList_ofList] at hlength hshorter
        omega
    | none =>
        rw [hread, Option.getD_none] at hsame
        refine ⟨hsame, ?_⟩
        rwa [trimChars_eq_self (trim_eq_self_iff.mp hsame)] at hread
  · rintro ⟨htrim, hread⟩
    rw [trimChars_eq_self (trim_eq_self_iff.mp htrim), hread]
    exact String.ofList_toList

theorem parse_toRow_stepOutput_iff {id path : String} :
    parse (stepOutput id path).toRow = stepOutput id path ↔
      trim id = id ∧ trim path = path ∧ ¬NamesOutput path.toList ∧
        readStepReference? path = none := by
  cases hread : readStepReference? path with
  | some pair =>
      have hshorter := length_of_readStepReference? hread
      rw [parse_toRow_stepOutput_of_reference hread]
      refine iff_of_false (fun hsame => ?_) fun hexact => by cases hexact.2.2.2
      have hpath : pair.2 = path := (stepOutput.inj hsame).2
      rw [hpath] at hshorter
      exact hshorter.false
  | none =>
      rw [parse_toRow_stepOutput_of_none hread]
      simp only [stepOutput.injEq, and_true, ← String.toList_inj, String.toList_ofList]
      refine and_congr_right fun _ => ⟨fun hsame => ?_, fun hexact => ?_⟩
      · have hwhole : path.toList.Sublist (dropOutput (trimChars path.toList)) := by rw [hsame]
        have hkept := eq_self_of_sublist hwhole
        exact ⟨by rw [trim, String.toList_ofList, hkept.1], hkept.2⟩
      · have htrim := trim_eq_self_iff.mp (String.toList_inj.mp hexact.1)
        rw [trimChars_eq_self htrim]
        exact dropOutput_eq_self_iff.mpr hexact.2

/-- A binding comes back from its row form if and only if the reader finds nothing to tidy up. -/
theorem parse_toRow_eq_self_iff (binding : Binding) :
    parse binding.toRow = binding ↔ binding.RowExact := by
  cases binding with
  | runInput path => exact parse_toRow_runInput_iff
  | stepOutput id path => exact parse_toRow_stepOutput_iff
  | constant value => exact iff_of_true (parse_toRow_constant value) trivial

/-! ## Bindings that were read from a text -/

/-- What is known about a binding because it was read from a text. -/
def IsRead : Binding → Prop
  | runInput path => ∀ c ∈ path.toList.getLast?, isBlank c = false
  | stepOutput stepId path =>
    trim stepId = stepId ∧ (∀ c ∈ stepId.toList, isIdChar c = true) ∧ trim path = path ∧
      '\n' ∉ path.toList
  | constant value => value.IsLiteral

theorem isRead_ofText (s : String) : (ofText s).IsRead := by
  rcases ofText_cases s with
    ⟨id, path, hread, hbinding⟩ | ⟨path, -, hread, hbinding⟩ | ⟨hstep, hinput, hbinding⟩
  · rw [hbinding]
    obtain ⟨rawId, rawPath, -, hid, hline, -, rfl, rfl⟩ := readStepReference?_eq_some_iff.mp hread
    refine ⟨trim_ofList_trimChars rawId, fun c hc => ?_, trim_ofList_trimChars rawPath,
      fun hc => ?_⟩
    · rw [String.toList_ofList] at hc
      exact hid c ((trimChars_sublist rawId).subset hc)
    · rw [String.toList_ofList] at hc
      exact hline ((trimChars_sublist rawPath).subset hc)
  · rw [hbinding, IsRead, String.toList_ofList]
    exact (trimmed_trimChars s.toList).last_of_suffix (readInputReference?_suffix hread).1
  · rw [hbinding]
    refine ⟨trim_ofList_trimChars _, ?_, ?_⟩
    · rwa [trim, String.toList_ofList, ← readInputReference?_eq_none_iff]
    · rwa [readStepReference?_trim]

/-- A binding that was read from a text comes back from its wire form unless it reads a step whose
id is blank or a path that names the output. From its row form it comes back unless it reads a
path of a step that names the output or is a reference to a step itself, or a path of the run
input that starts with a blank or names the run input. -/
theorem reread_text_iff (s : String) :
    (parse (parse (.text s)).toWire = parse (.text s) ↔
      ∀ stepId path, parse (.text s) = stepOutput stepId path →
        stepId ≠ "" ∧ ¬NamesOutput path.toList) ∧
    (parse (parse (.text s)).toRow = parse (.text s) ↔
      (∀ stepId path, parse (.text s) = stepOutput stepId path →
        ¬NamesOutput path.toList ∧ readStepReference? path = none) ∧
      ∀ path, parse (.text s) = runInput path →
        (∀ c ∈ path.toList.head?, isBlank c = false) ∧ ¬NamesInput path.toList) := by
  have hread : (parse (.text s)).IsRead := isRead_ofText s
  generalize parse (.text s) = binding at hread
  cases binding with
  | runInput path =>
      have hpath : trim path = path ↔ ∀ c ∈ path.toList.head?, isBlank c = false :=
        trim_eq_self_iff.trans (and_iff_left hread)
      rw [parse_toWire_runInput, parse_toRow_runInput_iff, trimEnd_eq_self hread, hpath]
      simp
  | stepOutput id path =>
      obtain ⟨hid, hchars, hpath, hline⟩ := hread
      have hkept : IsKeptPath path ↔ ¬NamesOutput path.toList :=
        ⟨IsKeptPath.unnamed, fun hnames => ⟨hpath, hline, hnames⟩⟩
      have hreferable : IsReferable id ↔ id ≠ "" :=
        isReferable_iff.trans (and_iff_left ⟨hid, hchars⟩)
      rw [parse_toWire_stepOutput_iff, parse_toRow_stepOutput_iff, hreferable, hkept]
      simp [hid, hpath]
  | constant value =>
      have hwire : parse (constant value).toWire = constant value := parse_eq_constant_iff.mpr hread
      rw [hwire, parse_toRow_constant]
      simp

/-- A field called `output` inside an output: neither form brings the path back. -/
theorem reread_output_field :
    parse (.text "$.steps.a.output.output.x") = stepOutput "a" "output.x" ∧
      parse (stepOutput "a" "output.x").toWire ≠ stepOutput "a" "output.x" ∧
      parse (stepOutput "a" "output.x").toRow ≠ stepOutput "a" "output.x" := by
  have hnames : NamesOutput "output.x".toList := Or.inr (by decide +kernel)
  refine ⟨rfl, fun hwire => ?_, fun hrow => ?_⟩
  · exact (parse_toWire_stepOutput_iff.mp hwire).2.unnamed hnames
  · exact (parse_toRow_stepOutput_iff.mp hrow).2.2.1 hnames

end Binding

end FlowGraph
