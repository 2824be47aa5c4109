/-
# The grammar of step ids

A step id starts with a letter and goes on with letters, digits, underscores and dashes. Whatever
the id and the label of a node, the step id that is preferred for it fits this grammar, and so does
every id of its sequence of fresh names. An id that fits has no blanks and is not empty, which is
all that the chain of steps asks of it.
-/

import FlowGraph.Definition.Compile
import FlowGraph.Proofs.Naming
import FlowGraph.Proofs.Trim

namespace FlowGraph.Compile

open FlowGraph.Text

/-- A letter, and after it only characters of step ids. -/
def IsStepId (s : String) : Prop :=
  s.toList.head?.any Char.isAlpha = true ∧ ∀ c ∈ s.toList, isStepChar c = true

variable {s : String}

theorem isBlank_of_isStepChar {c : Char} (hc : isStepChar c = true) : isBlank c = false := by
  have hcode : 45 = c.toNat ∨ 48 ≤ c.toNat ∧ c.toNat ≤ 57 ∨ 65 ≤ c.toNat ∧ c.toNat ≤ 90 ∨
      95 = c.toNat ∨ 97 ≤ c.toNat ∧ c.toNat ≤ 122 := by
    unfold isStepChar Char.isAlphanum Char.isAlpha Char.isUpper Char.isLower Char.isDigit at hc
    simp only [Bool.or_eq_true, Bool.and_eq_true, decide_eq_true_eq, UInt32.le_iff_toNat_le,
      ge_iff_le] at hc
    rcases hc with ((((hupper | hlower) | hdigit) | rfl) | rfl)
    · exact Or.inr (Or.inr (Or.inl hupper))
    · exact Or.inr (Or.inr (Or.inr (Or.inr hlower)))
    · exact Or.inr (Or.inl hdigit)
    · exact Or.inr (Or.inr (Or.inr (Or.inl rfl)))
    · exact Or.inl rfl
  by_contra hblank
  simp only [isBlank, inRanges, blankRanges, List.any_cons, List.any_nil, Bool.or_eq_true,
    Bool.and_eq_true, decide_eq_true_eq, Bool.not_eq_false, Bool.false_eq_true, or_false] at hblank
  omega

theorem IsStepId.ne_empty (hs : IsStepId s) : s ≠ "" := by
  rintro rfl
  simp [IsStepId] at hs

theorem IsStepId.trim_eq (hs : IsStepId s) : trim s = s :=
  trim_eq_self fun c hc => isBlank_of_isStepChar (hs.2 c hc)

theorem IsStepId.append (hs : IsStepId s) {rest : String}
    (hrest : ∀ c ∈ rest.toList, isStepChar c = true) : IsStepId (s ++ rest) := by
  refine ⟨?_, fun c hc => ?_⟩
  · cases hhead : s.toList.head? with
    | none => simp [IsStepId, hhead] at hs
    | some c => simpa [hhead, IsStepId] using hs.1
  · rcases List.mem_append.mp (by simpa using hc) with hfront | hback
    · exact hs.2 c hfront
    · exact hrest c hback

theorem isStepChar_of_mem_numeral {n : Nat} {c : Char} (hc : c ∈ (Naming.numeral n).toList) :
    isStepChar c = true := by
  have hdigit : c.isDigit = true := by
    refine Nat.isDigit_of_mem_toDigits (b := 10) (n := n) (by decide) (by decide) ?_
    simpa [Naming.numeral] using hc
  simp [isStepChar, Char.isAlphanum, hdigit]

theorem isStepId_numbered (hs : IsStepId s) (n : Nat) : IsStepId (s ++ Naming.numeral n) :=
  hs.append fun _ hc => isStepChar_of_mem_numeral hc

theorem isStepId_suffixed (hs : IsStepId s) (n : Nat) : IsStepId (Naming.suffixed s n) := by
  rw [Naming.suffixed]
  split
  · exact hs
  · exact isStepId_numbered (hs.append (by simp [isStepChar])) n

theorem isStepId_unique (hs : IsStepId s) (used : List String) :
    IsStepId (Naming.unique s used) := by
  obtain ⟨n, -, -, hfound, -⟩ := Naming.unique_spec s used
  rw [hfound]
  exact isStepId_suffixed hs n

theorem mem_of_mem_squeeze {cs : List Char} {c : Char} (hc : c ∈ squeeze cs) : c ∈ cs := by
  induction cs using squeeze.induct with
  | case1 cs ih =>
      rw [squeeze] at hc
      exact List.mem_cons_of_mem _ (ih hc)
  | case2 c' cs hrun ih =>
      rw [squeeze] at hc
      · rcases List.mem_cons.mp hc with rfl | hrest
        · exact List.mem_cons_self
        · exact List.mem_cons_of_mem _ (ih hrest)
      · exact hrun
  | case3 => exact hc

/-- The characters of a text that step ids are made of, with runs of others as underscores. -/
def stem (s : String) : List Char :=
  squeeze ((trimChars s.toList).map fun c => if isStepChar c then c else '_')

/-- A text that is not blank becomes its stem, with a word in front where no letter is. -/
theorem sanitize_eq_stem (hs : trim s ≠ "") : sanitize s = String.ofList
    (if ((stem s).head?.map Char.isAlpha).getD false then stem s
      else ['s', 't', 'e', 'p', '_'] ++ stem s) := by
  obtain ⟨cs, hcs⟩ : ∃ cs, trimChars s.toList = cs := ⟨_, rfl⟩
  cases cs with
  | nil => exact absurd (by simp [trim, hcs]) hs
  | cons c rest => rw [sanitize, stem, hcs]

/-- A text that is not blank becomes a step id. -/
theorem isStepId_sanitize (hs : trim s ≠ "") : IsStepId (sanitize s) := by
  rw [sanitize_eq_stem hs]
  have hchars : ∀ c ∈ stem s, isStepChar c = true := by
    intro c hc
    obtain ⟨c', -, rfl⟩ := List.mem_map.mp (mem_of_mem_squeeze hc)
    split
    · assumption
    · rfl
  by_cases hhead : ((stem s).head?.map Char.isAlpha).getD false = true
  · rw [if_pos hhead]
    refine ⟨?_, by simpa using hchars⟩
    cases hfirst : (stem s).head? with
    | none => simp [hfirst] at hhead
    | some c => simpa [hfirst] using hhead
  · rw [if_neg hhead]
    have hfront : ∀ c ∈ ['s', 't', 'e', 'p', '_'], isStepChar c = true := by
      simp [isStepChar]
    refine ⟨by simp, fun c hc => ?_⟩
    rw [String.toList_ofList, List.mem_append] at hc
    rcases hc with hmark | hrest
    · exact hfront c hmark
    · exact hchars c hrest

theorem sanitize_blank (hs : trim s = "") : sanitize s = "" := by
  have hcs : trimChars s.toList = [] := by
    simpa [trim] using hs
  rw [sanitize, hcs]

/-- A text that is its own step id is one, unless it is empty. -/
theorem isStepId_of_sanitize_eq_self (hne : s ≠ "") (hfixed : sanitize s = s) : IsStepId s := by
  rw [← hfixed]
  refine isStepId_sanitize fun hblank => hne ?_
  rw [← hfixed, sanitize_blank hblank]

theorem isStepId_orText {first second : String} (hfirst : first = "" ∨ IsStepId first)
    (hsecond : IsStepId second) : IsStepId (orText first second) := by
  rw [orText]
  split
  · exact hsecond
  · rename_i hne
    exact hfirst.resolve_left hne

theorem sanitize_eq_empty_or_isStepId (s : String) : sanitize s = "" ∨ IsStepId (sanitize s) := by
  by_cases hs : trim s = ""
  · exact Or.inl (sanitize_blank hs)
  · exact Or.inr (isStepId_sanitize hs)

/-- The step id that is preferred for a node fits the grammar. -/
theorem isStepId_preferredId (index : Nat) (node : Node) : IsStepId (preferredId index node) := by
  have hnumbered : IsStepId ("step_" ++ Naming.numeral (index + 1)) :=
    isStepId_numbered ⟨by decide, by simp [isStepChar]⟩ _
  exact isStepId_orText (sanitize_eq_empty_or_isStepId _)
    (isStepId_orText (sanitize_eq_empty_or_isStepId _) hnumbered)

end FlowGraph.Compile
