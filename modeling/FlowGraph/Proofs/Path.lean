/-
# Reference paths

What the two recognisers accept and what the writer of step references produces. Both sides are
described by one list of characters, a step id and a path between the fixed marks; the id can be
found again in it because it holds no character that ends an id. Dropping the name of the output
and trimming only ever take characters away, so a path survives them exactly if neither of the
two finds anything to take.
-/

import FlowGraph.Binding.Path
import FlowGraph.Proofs.Case

namespace FlowGraph.Path

open Text

/-- The path names the output, in any case: it is `output` alone, or it goes on with a dot. -/
def NamesOutput (path : List Char) : Prop :=
  path.map Char.toLower = outputName ∨ outputName ++ ['.'] <+: path.map Char.toLower

/-- The characters name the run input: the whole of it, or a path inside it. -/
def NamesInput (cs : List Char) : Prop :=
  cs = inputRoot ∨ inputMark <+: cs ∨ shortInputMark <+: cs

/-! ## The name of the output -/

/-- What is left after a name of the output is a proper end of the path. -/
theorem dropOutput_suffix (cs : List Char) : dropOutput cs <:+ cs := by
  unfold dropOutput
  split
  · split
    · exact List.nil_suffix
    · rename_i rest hrest
      exact (List.suffix_cons '.' rest).trans (hrest ▸ List.drop_suffix outputName.length cs)
    · exact List.suffix_rfl
  · exact List.suffix_rfl

/-- A path names the output if its first characters do and it ends or goes on with a dot there. -/
theorem namesOutput_iff {path : List Char} :
    NamesOutput path ↔ (path.take outputName.length).map Char.toLower = outputName ∧
      ∀ c ∈ (path.drop outputName.length).head?, c = '.' := by
  have hsplit : path.map Char.toLower =
      (path.take outputName.length).map Char.toLower ++
        (path.drop outputName.length).map Char.toLower := by
    rw [← List.map_append, List.take_append_drop]
  constructor
  · intro hnames
    have hfront : outputName <+: path.map Char.toLower := by
      rcases hnames with hwhole | hdotted
      · exact hwhole ▸ List.prefix_rfl
      · exact (List.prefix_append outputName ['.']).trans hdotted
    have hname : (path.take outputName.length).map Char.toLower = outputName := by
      rw [List.map_take]
      exact (List.prefix_iff_eq_take.mp hfront).symm
    refine ⟨hname, fun c hc => ?_⟩
    rw [NamesOutput, hsplit, hname] at hnames
    cases hrest : path.drop outputName.length with
    | nil =>
        rw [hrest] at hc
        cases hc
    | cons d rest =>
        rw [hrest] at hc hnames
        cases hc
        rcases hnames with hwhole | hdotted
        · simp at hwhole
        · have hlower := (List.prefix_append_right_inj outputName).mp hdotted
          exact (toLower_eq_iff (by decide)).mp (by simpa [eq_comm] using hlower)
  · rintro ⟨hname, hnext⟩
    rw [NamesOutput, hsplit, hname]
    cases hrest : path.drop outputName.length with
    | nil => exact Or.inl (by simp)
    | cons d rest =>
        rw [hrest] at hnext
        rw [hnext d rfl]
        exact Or.inr ((List.prefix_append_right_inj outputName).mpr (by simp))

theorem dropOutput_eq_self_iff {path : List Char} :
    dropOutput path = path ↔ ¬NamesOutput path := by
  rw [namesOutput_iff]
  unfold dropOutput
  split
  · rename_i hname
    have hne : path ≠ [] := fun hnil => by simp [hnil, outputName] at hname
    split
    · rename_i hrest
      simp [hname, hrest, hne.symm]
    · rename_i rest hrest
      have hshort : rest ≠ path := fun hsame => by
        have hlength := congrArg List.length hrest
        simp [hsame] at hlength
        omega
      simp [hname, hrest, hshort]
    · rename_i hnil hdot
      refine iff_of_true rfl fun hnames => ?_
      cases hrest : path.drop outputName.length with
      | nil => exact hnil hrest
      | cons c rest =>
          rw [hrest] at hnames
          exact hdot rest (hnames.2 c rfl ▸ hrest)
  · rename_i hname
    exact iff_of_true rfl fun hnames => hname hnames.1

/-- A path that is whole after trimming and dropping had nothing to take away. -/
theorem eq_self_of_sublist {path : List Char}
    (hwhole : path.Sublist (dropOutput (trimChars path))) :
    trimChars path = path ∧ ¬NamesOutput path := by
  have htrimmed : trimChars path = path := by
    apply (trimChars_sublist path).antisymm
    exact hwhole.trans (dropOutput_suffix (trimChars path)).sublist
  rw [htrimmed] at hwhole
  refine ⟨htrimmed, dropOutput_eq_self_iff.mp ?_⟩
  exact (dropOutput_suffix path).sublist.antisymm hwhole

/-! ## References to the run input -/

theorem isPrefixOf?_eq_none_iff {mark cs : List Char} :
    mark.isPrefixOf? cs = none ↔ ¬mark <+: cs := by
  rw [← List.isPrefixOf_iff_prefix, ← List.isSome_isPrefixOf?_eq_isPrefixOf, Bool.not_eq_true,
    Option.isSome_eq_false_iff, Option.isNone_iff_eq_none]

theorem readInputReference?_eq_none_iff {cs : List Char} :
    readInputReference? cs = none ↔ ¬NamesInput cs := by
  unfold readInputReference? NamesInput
  split
  · simp [*]
  · simp [*, isPrefixOf?_eq_none_iff]

/-- The path of a reference to the run input is what follows one of the marks. -/
theorem readInputReference?_suffix {cs path : List Char}
    (hread : readInputReference? cs = some path) : path <:+ cs ∧ path.length < cs.length := by
  have hmarked (mark : List Char) (hmark : mark.isPrefixOf? cs = some path) (hne : mark ≠ []) :
      path <:+ cs ∧ path.length < cs.length := by
    rw [← List.append_eq_of_isPrefixOf?_eq_some hmark]
    refine ⟨List.suffix_append mark path, ?_⟩
    have hpositive := List.length_pos_iff.mpr hne
    rw [List.length_append]
    omega
  unfold readInputReference? at hread
  split at hread
  · rename_i hroot
    cases hread
    exact ⟨List.nil_suffix, by simp [hroot, inputRoot]⟩
  · cases hlong : inputMark.isPrefixOf? cs with
    | some inner =>
        rw [hlong] at hread
        cases hread
        exact hmarked inputMark hlong (by decide)
    | none =>
        rw [hlong] at hread
        exact hmarked shortInputMark hread (by decide)

theorem trimChars_inputMark (path : List Char) :
    trimChars (inputMark ++ path) = inputMark ++ trimEnd path := by
  have hdot : isBlank '.' = false := by decide
  have hstart : trimStart (inputMark ++ path) = inputRoot ++ '.' :: path :=
    trimStart_eq_self fun c hc => by
      cases hc
      decide
  rw [trimChars, hstart, trimEnd_append_cons hdot]
  rfl

/-! ## References to a step -/

/-- The characters of a reference to the output of a step, or to a path inside it. -/
def referenceChars (stepId path : List Char) : List Char :=
  stepsMark ++ stepId ++ '.' :: outputName ++ (if path = [] then [] else '.' :: path)

theorem toList_stepReference (stepId path : String) :
    (stepReference stepId path).toList =
      referenceChars stepId.toList (dropOutput (trimChars path.toList)) := by
  rw [stepReference, String.toList_ofList, referenceChars]
  split <;> simp [*]

variable {stepId path cs : List Char}

theorem trimmed_referenceChars (hpath : ∀ c ∈ path.getLast?, isBlank c = false) :
    Trimmed (referenceChars stepId path) := by
  refine ⟨fun c hc => ?_, fun c hc => ?_⟩
  · obtain rfl : '$' = c := by simpa [referenceChars, stepsMark] using hc
    rfl
  · cases hshape : path with
    | nil =>
        obtain rfl : 't' = c := by simpa [referenceChars, outputName, hshape] using hc
        rfl
    | cons first rest =>
        apply hpath
        rw [hshape] at hc ⊢
        simpa [referenceChars, List.getLast?_cons] using hc

theorem outputPath?_eq_some_iff :
    outputPath? cs = some path ↔
      '\n' ∉ path ∧ cs = '.' :: outputName ++ (if path = [] then [] else '.' :: path) := by
  unfold outputPath?
  constructor
  · intro hread
    split at hread
    · rename_i hmark
      cases hread
      have hcs := List.append_eq_of_isPrefixOf?_eq_some hmark
      simp [← hcs]
    · rename_i inner hmark
      have hcs := List.append_eq_of_isPrefixOf?_eq_some hmark
      split at hread
      · rename_i hinner
        cases hread
        exact ⟨hinner.2, by rw [← hcs, if_neg hinner.1]⟩
      · cases hread
    · cases hread
  · rintro ⟨hline, rfl⟩
    rw [List.isPrefixOf?_eq_some_iff_append_eq.mpr rfl]
    cases path with
    | nil => rfl
    | cons c rest =>
        rw [if_neg (List.cons_ne_nil c rest)]
        exact if_pos ⟨List.cons_ne_nil c rest, hline⟩

/-- The characters of an id reach exactly up to the dot that follows it. -/
theorem span_isIdChar (hid : ∀ c ∈ stepId, isIdChar c = true) (tail : List Char) :
    (stepId ++ '.' :: tail).takeWhile isIdChar = stepId ∧
      (stepId ++ '.' :: tail).dropWhile isIdChar = '.' :: tail := by
  rw [List.takeWhile_append_of_pos hid, List.dropWhile_append_of_pos hid,
    List.takeWhile_cons_of_neg (by decide), List.dropWhile_cons_of_neg (by decide)]
  simp

/-- A text is read as a reference to a step exactly if, trimmed, it is such a reference with an id
and a path without line breaks. -/
theorem readStepReference?_eq_some_iff {s id inner : String} :
    readStepReference? s = some (id, inner) ↔
      ∃ stepId path, stepId ≠ [] ∧ (∀ c ∈ stepId, isIdChar c = true) ∧ '\n' ∉ path ∧
        trimChars s.toList = referenceChars stepId path ∧
        id = String.ofList (trimChars stepId) ∧ inner = String.ofList (trimChars path) := by
  unfold readStepReference?
  constructor
  · intro hread
    split at hread
    · cases hread
    · rename_i rest hmark
      dsimp only at hread
      split at hread
      · cases hread
      · rename_i hstep
        obtain ⟨path, hpath, hpair⟩ := Option.map_eq_some_iff.mp hread
        obtain ⟨hline, htail⟩ := outputPath?_eq_some_iff.mp hpath
        cases hpair
        refine ⟨_, path, hstep, fun c hc => List.mem_takeWhile_imp hc, hline, ?_, rfl, rfl⟩
        rw [← List.append_eq_of_isPrefixOf?_eq_some hmark, referenceChars, List.append_assoc,
          List.append_assoc, ← htail, List.takeWhile_append_dropWhile]
  · rintro ⟨stepId, path, hne, hid, hline, hwhole, rfl, rfl⟩
    have hmark : stepsMark.isPrefixOf? (trimChars s.toList) =
        some (stepId ++ '.' :: (outputName ++ if path = [] then [] else '.' :: path)) := by
      rw [List.isPrefixOf?_eq_some_iff_append_eq, hwhole, referenceChars]
      simp
    have hpath : outputPath? ('.' :: (outputName ++ if path = [] then [] else '.' :: path)) =
        some path := outputPath?_eq_some_iff.mpr ⟨hline, rfl⟩
    rw [hmark]
    simp only [span_isIdChar hid, if_neg hne, hpath, Option.map_some]

/-- Reading looks at the trimmed text only. -/
theorem readStepReference?_trim (s : String) :
    readStepReference? (trim s) = readStepReference? s := by
  rw [readStepReference?, readStepReference?, trim, String.toList_ofList, trimChars_trimChars]

/-- A written reference shows its step id and its path. -/
theorem referenceChars_inj {first second inner other : List Char}
    (hfirst : ∀ c ∈ first, isIdChar c = true) (hsecond : ∀ c ∈ second, isIdChar c = true)
    (hsame : referenceChars first inner = referenceChars second other) :
    first = second ∧ inner = other := by
  simp only [referenceChars, List.append_assoc] at hsame
  have hrest := List.append_cancel_left hsame
  have hid := congrArg (List.takeWhile isIdChar) hrest
  simp only [List.cons_append, (span_isIdChar hfirst _).1, (span_isIdChar hsecond _).1] at hid
  subst hid
  refine ⟨rfl, ?_⟩
  have htail := List.append_cancel_left (List.append_cancel_left hrest)
  by_cases hinner : inner = [] <;> by_cases hother : other = [] <;> simp_all

/-- The path of a reference is shorter than the reference. -/
theorem length_of_readStepReference? {s id inner : String}
    (hread : readStepReference? s = some (id, inner)) : inner.toList.length < s.toList.length := by
  obtain ⟨stepId, path, -, -, -, hwhole, -, rfl⟩ := readStepReference?_eq_some_iff.mp hread
  have hinner := (trimChars_sublist path).length_le
  have houter := (trimChars_sublist s.toList).length_le
  have hmark : path.length < (referenceChars stepId path).length := by
    rw [referenceChars]
    split
    · simp [*, stepsMark]
    · simp
      omega
  rw [String.toList_ofList]
  rw [hwhole] at houter
  omega

/-- What starts like a reference to the run input is no reference to a step. -/
theorem readStepReference?_inputRoot {s : String} {tail : List Char}
    (hs : trimChars s.toList = inputRoot ++ tail) : readStepReference? s = none := by
  rw [readStepReference?, hs]
  rfl

/-! ## Written and read back -/

/-- A step id that can be found again in a reference. -/
structure IsReferable (stepId : String) : Prop where
  filled : stepId ≠ ""
  trimmed : trim stepId = stepId
  no_dot : '.' ∉ stepId.toList
  no_open : '[' ∉ stepId.toList
  no_close : ']' ∉ stepId.toList

/-- A path that a reference to a step keeps as it is. -/
structure IsKeptPath (path : String) : Prop where
  trimmed : trim path = path
  one_line : '\n' ∉ path.toList
  unnamed : ¬NamesOutput path.toList

theorem isReferable_iff {id : String} :
    IsReferable id ↔ id ≠ "" ∧ trim id = id ∧ ∀ c ∈ id.toList, isIdChar c = true := by
  constructor
  · intro hid
    refine ⟨hid.filled, hid.trimmed, fun c hc => ?_⟩
    have hdot : c ≠ '.' := fun heq => hid.no_dot (heq ▸ hc)
    have hopen : c ≠ '[' := fun heq => hid.no_open (heq ▸ hc)
    have hclose : c ≠ ']' := fun heq => hid.no_close (heq ▸ hc)
    simp [isIdChar, hdot, hopen, hclose]
  · rintro ⟨hfilled, htrimmed, hchars⟩
    have hnot (c : Char) (hc : isIdChar c = false) : c ∉ id.toList := fun hmem => by
      rw [hchars c hmem] at hc
      cases hc
    exact ⟨hfilled, htrimmed, hnot '.' rfl, hnot '[' rfl, hnot ']' rfl⟩

theorem trimmed_stepReference (id path : String) : Trimmed (stepReference id path).toList := by
  rw [toList_stepReference]
  apply trimmed_referenceChars
  exact (trimmed_trimChars path.toList).last_of_suffix (dropOutput_suffix _)

/-- A written reference is read as the step and the path it was written for exactly if the id can
be found again and the path is kept. -/
theorem readStepReference?_stepReference_iff {id path : String} :
    readStepReference? (stepReference id path) = some (id, path) ↔
      IsReferable id ∧ IsKeptPath path := by
  have hwritten : trimChars (stepReference id path).toList =
      referenceChars id.toList (dropOutput (trimChars path.toList)) := by
    rw [trimChars_eq_self (trimmed_stepReference id path), toList_stepReference]
  rw [readStepReference?_eq_some_iff, hwritten, isReferable_iff]
  constructor
  · rintro ⟨rawId, rawPath, hne, hraw, hline, hsame, hid, hpath⟩
    have hidChars : id.toList = trimChars rawId := by rw [hid, String.toList_ofList]
    have hpathChars : path.toList = trimChars rawPath := by rw [hpath, String.toList_ofList]
    have hchars : ∀ c ∈ id.toList, isIdChar c = true := fun c hc =>
      hraw c ((trimChars_sublist rawId).subset (hidChars ▸ hc))
    obtain ⟨rfl, rfl⟩ := referenceChars_inj hchars hraw hsame
    have hwhole : path.toList.Sublist (dropOutput (trimChars path.toList)) := by
      nth_rewrite 1 [hpathChars]
      exact trimChars_sublist _
    obtain ⟨htrimmed, hunnamed⟩ := eq_self_of_sublist hwhole
    refine ⟨⟨fun hnil => hne (by rw [hnil]; rfl), hid.symm, hchars⟩, ?_, ?_, hunnamed⟩
    · rw [trim, htrimmed, String.ofList_toList]
    · rwa [htrimmed, dropOutput_eq_self_iff.mpr hunnamed] at hline
  · rintro ⟨⟨hfilled, hid, hchars⟩, hpath⟩
    have htrimmed : trimChars path.toList = path.toList :=
      trimChars_eq_self (trim_eq_self_iff.mp hpath.trimmed)
    rw [htrimmed, dropOutput_eq_self_iff.mpr hpath.unnamed]
    refine ⟨id.toList, path.toList, ?_, hchars, hpath.one_line, rfl, hid.symm, ?_⟩
    · exact fun hnil => hfilled (String.toList_eq_nil_iff.mp hnil)
    · exact hpath.trimmed.symm

end FlowGraph.Path
