/-
# Fresh ids

The search for a free id tries one candidate more than there are used ids. The candidates of a
sequence differ from each other, because the decimal numeral determines the number, so by counting
one of them is free and the search never runs out before it meets it.
-/

import FlowGraph.Edit.Naming
import Mathlib.Data.List.Dedup
import Mathlib.Data.List.Nodup
import Mathlib.Data.List.Perm.Subperm

namespace FlowGraph.Naming

/-- Different numbers are written differently. -/
theorem numeral_injective : Function.Injective numeral := by
  intro m n hsame
  have hdigits : Nat.toDigits 10 m = Nat.toDigits 10 n := String.ofList_injective hsame
  calc
    m = Nat.ofDigitChars 10 (Nat.toDigits 10 m) 0 := Nat.ofDigitChars_ten_toDigits.symm
    _ = Nat.ofDigitChars 10 (Nat.toDigits 10 n) 0 := by rw [hdigits]
    _ = n := Nat.ofDigitChars_ten_toDigits

/-- The number of a numbered name is what follows its last underscore. -/
theorem numbered_inj {kind other : String} {m n : Nat}
    (hsame : kind ++ "_" ++ numeral m = other ++ "_" ++ numeral n) : m = n := by
  have hdigits (k : Nat) : ∀ c ∈ (numeral k).toList.reverse, decide (c ≠ '_') = true := by
    intro c hc
    rw [decide_eq_true_iff]
    have hdigit : c.isDigit := by
      refine Nat.isDigit_of_mem_toDigits (b := 10) (n := k) (by decide) (by decide) ?_
      simpa [numeral] using hc
    rintro rfl
    exact absurd hdigit (by decide)
  have hlast (stem : String) (k : Nat) :
      (stem ++ "_" ++ numeral k).toList.reverse.takeWhile (· ≠ '_') =
        (numeral k).toList.reverse := by
    rw [String.toList_append, String.toList_append, List.reverse_append, List.reverse_append,
      List.takeWhile_append_of_pos (hdigits k)]
    simp
  have htails := congrArg (fun name => name.toList.reverse.takeWhile (· ≠ '_')) hsame
  simp only [hlast] at htails
  exact numeral_injective (String.toList_injective (List.reverse_injective htails))

section Search

variable {candidate : Nat → String} {used : List String} {fuel start : Nat}

/-- If one of the candidates that the fuel allows is free, the search returns the first free
one. -/
theorem firstFree_spec
    (hfree : ∃ n, start ≤ n ∧ n ≤ start + fuel ∧ candidate n ∉ used) :
    ∃ n, start ≤ n ∧ n ≤ start + fuel ∧ firstFree candidate used fuel start = candidate n ∧
      candidate n ∉ used ∧ ∀ m, start ≤ m → m < n → candidate m ∈ used := by
  induction fuel generalizing start with
  | zero =>
      obtain ⟨n, hlower, hupper, hfresh⟩ := hfree
      obtain rfl : n = start := by omega
      exact ⟨n, hlower, hupper, rfl, hfresh, fun m hm hlt => by omega⟩
  | succ fuel ih =>
      by_cases hused : candidate start ∈ used
      · have hlater : ∃ n, start + 1 ≤ n ∧ n ≤ start + 1 + fuel ∧ candidate n ∉ used := by
          obtain ⟨n, hlower, hupper, hfresh⟩ := hfree
          have hne : n ≠ start := fun hsame => hfresh (hsame ▸ hused)
          exact ⟨n, by omega, by omega, hfresh⟩
        obtain ⟨n, hlower, hupper, hfound, hfresh, hbefore⟩ := ih hlater
        refine ⟨n, by omega, by omega, ?_, hfresh, fun m hm hlt => ?_⟩
        · rw [firstFree, if_pos (by simpa using hused), hfound]
        · rcases Nat.eq_or_lt_of_le hm with rfl | hgreater
          · exact hused
          · exact hbefore m hgreater hlt
      · refine ⟨start, Nat.le_refl _, by omega, ?_, hused, fun m hm hlt => by omega⟩
        rw [firstFree, if_neg (by simpa using hused)]

/-- Among more different candidates than there are different used ids, one is free. -/
theorem exists_free_candidate
    (hinj : ∀ m n, start ≤ m → start ≤ n → candidate m = candidate n → m = n)
    (hfuel : used.dedup.length ≤ fuel) :
    ∃ n, start ≤ n ∧ n ≤ start + fuel ∧ candidate n ∉ used := by
  by_contra hnone
  push Not at hnone
  let tried := (List.range' start (fuel + 1)).map candidate
  have hdistinct : tried.Nodup := by
    refine List.Nodup.map_on (fun m hm n hn hsame => ?_) List.nodup_range'
    rw [List.mem_range'_1] at hm hn
    exact hinj m n hm.1 hn.1 hsame
  have hallUsed : tried ⊆ used.dedup := by
    intro text htried
    obtain ⟨n, hn, rfl⟩ := List.mem_map.mp htried
    rw [List.mem_range'_1] at hn
    exact List.mem_dedup.mpr (hnone n hn.1 (by omega))
  have hlength := (hdistinct.subperm hallUsed).length_le
  simp only [tried, List.length_map, List.length_range'] at hlength
  omega

end Search

/-- The numbered forms of a base differ from each other. -/
theorem suffixed_inj {base : String} {m n : Nat} (hm : 1 ≤ m) (hn : 1 ≤ n)
    (hsame : suffixed base m = suffixed base n) : m = n := by
  have hlonger (k : Nat) : base ++ "_" ++ numeral k ≠ base := by
    intro heq
    have hlength := congrArg String.length heq
    simp only [String.length_append] at hlength
    have hmark : "_".length = 1 := rfl
    omega
  unfold suffixed at hsame
  by_cases hfirst : m ≤ 1 <;> by_cases hsecond : n ≤ 1
  · omega
  · rw [if_pos hfirst, if_neg hsecond] at hsame
    exact absurd hsame.symm (hlonger n)
  · rw [if_neg hfirst, if_pos hsecond] at hsame
    exact absurd hsame (hlonger m)
  · rw [if_neg hfirst, if_neg hsecond] at hsame
    exact numeral_injective ((String.append_right_inj _).mp hsame)

/-- The first free numbered form of a base, with everything before it in use. -/
theorem unique_spec (base : String) (used : List String) :
    ∃ n, 1 ≤ n ∧ n ≤ 1 + used.length ∧ unique base used = suffixed base n ∧
      suffixed base n ∉ used ∧ ∀ m, 1 ≤ m → m < n → suffixed base m ∈ used :=
  firstFree_spec
    (exists_free_candidate (fun _ _ hm hn hsame => suffixed_inj hm hn hsame)
      (List.dedup_sublist used).length_le)

theorem unique_not_mem (base : String) (used : List String) : unique base used ∉ used := by
  obtain ⟨n, -, -, hfound, hfresh, -⟩ := unique_spec base used
  rwa [hfound]

/-- A text that is not used is taken as it is. -/
theorem unique_eq_self {base : String} {used : List String} (hfresh : base ∉ used) :
    unique base used = base := by
  obtain ⟨n, hn, -, hfound, -, hearlier⟩ := unique_spec base used
  rcases Nat.eq_or_lt_of_le hn with rfl | hlater
  · exact hfound
  · exact absurd (hearlier 1 (Nat.le_refl 1) hlater) hfresh

theorem nextNodeId_spec (type : String) (used : List String) :
    ∃ n, nextNodeId type used = type ++ "_" ++ numeral n ∧ nextNodeId type used ∉ used := by
  have hinj (m n : Nat) (_ : 1 ≤ m) (_ : 1 ≤ n)
      (hsame : type ++ "_" ++ numeral m = type ++ "_" ++ numeral n) : m = n :=
    numbered_inj hsame
  obtain ⟨n, -, -, hfound, hfresh, -⟩ :=
    firstFree_spec (exists_free_candidate hinj (List.dedup_sublist used).length_le)
  rw [nextNodeId, hfound]
  exact ⟨n, rfl, hfresh⟩

theorem nextNodeId_not_mem (type : String) (used : List String) :
    nextNodeId type used ∉ used := by
  obtain ⟨n, -, hfresh⟩ := nextNodeId_spec type used
  exact hfresh

theorem nextNodeId_ne_empty (type : String) (used : List String) : nextNodeId type used ≠ "" := by
  obtain ⟨n, hfound, -⟩ := nextNodeId_spec type used
  rw [hfound]
  simp

theorem nextEdgeId_not_mem (source target : String) (handle : Option String)
    (used : List String) : nextEdgeId source target handle used ∉ used :=
  unique_not_mem _ used

end FlowGraph.Naming
