/-
# Trimming

Trimming leaves a text without blanks at its ends, and leaves alone every text that has none.
-/

import Mathlib.Data.List.DropRight
import FlowGraph.Text.Blank

namespace FlowGraph.Text

/-- No blank stands at either end. -/
def Trimmed (cs : List Char) : Prop :=
  (∀ c ∈ cs.head?, isBlank c = false) ∧ ∀ c ∈ cs.getLast?, isBlank c = false

variable {cs : List Char}

theorem trimStart_eq_self (hhead : ∀ c ∈ cs.head?, isBlank c = false) : trimStart cs = cs := by
  cases cs with
  | nil => rfl
  | cons c cs =>
      have hc : isBlank c = false := hhead c rfl
      simp [trimStart, hc]

theorem trimEnd_eq_self (hlast : ∀ c ∈ cs.getLast?, isBlank c = false) : trimEnd cs = cs := by
  have hhead : ∀ c ∈ cs.reverse.head?, isBlank c = false := by
    simpa only [List.head?_reverse] using hlast
  have hstart := trimStart_eq_self hhead
  rw [trimStart] at hstart
  rw [trimEnd, hstart, List.reverse_reverse]

theorem trimChars_eq_self (htrimmed : Trimmed cs) : trimChars cs = cs := by
  rw [trimChars, trimStart_eq_self htrimmed.1, trimEnd_eq_self htrimmed.2]

/-- The first character that is kept in front is no blank. -/
theorem head_trimStart {c : Char} (hc : c ∈ (trimStart cs).head?) : isBlank c = false := by
  have hhead := List.head?_dropWhile_not isBlank cs
  rw [trimStart] at hc
  rw [Option.mem_def.mp hc] at hhead
  simpa using hhead

/-- The last character that is kept at the end is no blank. -/
theorem last_trimEnd {c : Char} (hc : c ∈ (trimEnd cs).getLast?) : isBlank c = false := by
  rw [trimEnd, List.getLast?_reverse] at hc
  exact head_trimStart hc

theorem trimEnd_isPrefix (cs : List Char) : trimEnd cs <+: cs := List.rdropWhile_prefix isBlank cs

theorem trimmed_trimChars (cs : List Char) : Trimmed (trimChars cs) := by
  refine ⟨fun c hc => ?_, fun c hc => last_trimEnd hc⟩
  -- cutting at the end keeps the first character of what is not cut away altogether
  obtain ⟨rest, hrest⟩ := trimEnd_isPrefix (trimStart cs)
  have hhead : c ∈ (trimStart cs).head? := by
    rw [← hrest, List.head?_append]
    simpa [trimChars] using Or.inl hc
  exact head_trimStart hhead

theorem trimChars_trimChars (cs : List Char) : trimChars (trimChars cs) = trimChars cs :=
  trimChars_eq_self (trimmed_trimChars cs)

@[simp]
theorem trim_trim (s : String) : trim (trim s) = trim s := by
  simp [trim, trimChars_trimChars]

theorem trimChars_sublist (cs : List Char) : (trimChars cs).Sublist cs :=
  (trimEnd_isPrefix _).sublist.trans (List.dropWhile_sublist isBlank)

theorem trimChars_eq_self_iff : trimChars cs = cs ↔ Trimmed cs :=
  ⟨fun hself => hself ▸ trimmed_trimChars cs, trimChars_eq_self⟩

theorem trim_eq_self_iff {s : String} : trim s = s ↔ Trimmed s.toList := by
  rw [← trimChars_eq_self_iff, trim, ← String.toList_inj, String.toList_ofList]

theorem trim_ofList_trimChars (cs : List Char) :
    trim (String.ofList (trimChars cs)) = String.ofList (trimChars cs) := by
  rw [trim_eq_self_iff, String.toList_ofList]
  exact trimmed_trimChars cs

theorem trimEnd_eq_self_iff : trimEnd cs = cs ↔ ∀ c ∈ cs.getLast?, isBlank c = false :=
  ⟨fun hself _ hc => last_trimEnd (hself.symm ▸ hc), trimEnd_eq_self⟩

/-- An end of a trimmed text has no blank at its own end. -/
theorem Trimmed.last_of_suffix {rest : List Char} (htrimmed : Trimmed cs) (hsuffix : rest <:+ cs) :
    ∀ c ∈ rest.getLast?, isBlank c = false := by
  obtain ⟨front, rfl⟩ := hsuffix
  intro c hc
  apply htrimmed.2
  rw [List.getLast?_append]
  simpa using Or.inl hc

/-- Trimming at the end stops at the last character that is no blank. -/
theorem trimEnd_append_cons {c : Char} (hc : isBlank c = false) (front cs : List Char) :
    trimEnd (front ++ c :: cs) = front ++ c :: trimEnd cs := by
  have hsplit : (front ++ c :: cs).reverse = cs.reverse ++ c :: front.reverse := by simp
  rw [trimEnd, hsplit, List.dropWhile_append, List.dropWhile_cons_of_neg (by simp [hc]), trimEnd]
  split
  · rename_i hempty
    simp [List.isEmpty_iff.mp hempty]
  · simp

/-- Trimming in front stops at the first character that is no blank. -/
theorem trimStart_append_cons {c : Char} (hc : isBlank c = false) (front cs : List Char) :
    trimStart (front ++ c :: cs) = trimStart front ++ c :: cs := by
  rw [trimStart, List.dropWhile_append, List.dropWhile_cons_of_neg (by simp [hc]), trimStart]
  split
  · rename_i hempty
    simp [List.isEmpty_iff.mp hempty]
  · rfl

/-- Only blanks are trimmed away, on both sides. -/
theorem exists_eq_append_trimChars (cs : List Char) :
    ∃ before after, cs = before ++ trimChars cs ++ after ∧
      (∀ c ∈ before, isBlank c = true) ∧ ∀ c ∈ after, isBlank c = true := by
  have hafter : trimEnd (trimStart cs) ++ (trimStart cs).rtakeWhile isBlank = trimStart cs :=
    List.rdropWhile_append_rtakeWhile
  refine ⟨cs.takeWhile isBlank, (trimStart cs).rtakeWhile isBlank, ?_, fun c hc => ?_,
    fun c hc => List.mem_rtakeWhile_imp hc⟩
  · rw [trimChars, List.append_assoc, hafter, trimStart, List.takeWhile_append_dropWhile]
  · exact List.mem_takeWhile_imp hc

/-- A text without any blank is left alone. -/
theorem trim_eq_self {s : String} (hblank : ∀ c ∈ s.toList, isBlank c = false) : trim s = s := by
  have htrimmed : Trimmed s.toList :=
    ⟨fun c hc => hblank c (List.mem_of_head? hc), fun c hc => hblank c (List.mem_of_getLast? hc)⟩
  rw [trim, trimChars_eq_self htrimmed, String.ofList_toList]

end FlowGraph.Text
