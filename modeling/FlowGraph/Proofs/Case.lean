/-
# Lower case is final

A text in lower case is its own lower case. The table of capitals does not say so by itself: it
lists partners, and a partner could be a capital of another run, or a sigma whose form depends on
where it stands. A check over the table rules this out once, and also that a capital or its partner
is a blank, so that lower-casing neither makes blanks nor takes them away. Most runs lie far apart,
so the check compares their ends first.
-/

import FlowGraph.Proofs.Trim
import FlowGraph.Text.Case

namespace FlowGraph.Text

/-! ## Runs of capitals -/

namespace CaseRun

/-- The code points of a run. -/
def codes (run : CaseRun) : List Nat :=
  List.range' run.first ((run.last - run.first) / run.step + 1) run.step

/-- The code point is one of the run. -/
def holds (run : CaseRun) (code : Nat) : Bool :=
  Nat.ble run.first code && Nat.ble code run.last && Nat.beq ((code - run.first) % run.step) 0

/-- The code point of the lower-case partner of one of the run. -/
def partner (run : CaseRun) (code : Nat) : Nat := (code + run.shift).toNat

/-- Every code point of a range, each its own partner. -/
def ofRange (range : Nat × Nat) : CaseRun :=
  { first := range.1, last := range.2, step := 1, shift := 0 }

/-- No partner of the one run is in the other. -/
def apart (run other : CaseRun) : Bool :=
  Nat.blt (run.partner run.last) other.first || Nat.blt other.last (run.partner run.first)
    || run.codes.all fun code => !other.holds (run.partner code)

/-- The partners of the run are characters. -/
def hasChars (run : CaseRun) : Bool :=
  Nat.blt (run.partner run.last) 0xD800
    || (Nat.blt 0xDFFF (run.partner run.first) && Nat.blt (run.partner run.last) 0x110000)

variable {run other : CaseRun} {code : Nat}

theorem holds_iff : run.holds code = true ↔
    run.first ≤ code ∧ code ≤ run.last ∧ (code - run.first) % run.step = 0 := by
  simp [holds, and_assoc]

theorem mem_codes_of_holds (hholds : run.holds code = true) : code ∈ run.codes := by
  obtain ⟨hfirst, hlast, hstep⟩ := holds_iff.mp hholds
  have hsteps : (code - run.first) / run.step ≤ (run.last - run.first) / run.step :=
    Nat.div_le_div_right (by omega)
  have hplace := Nat.div_add_mod (code - run.first) run.step
  exact List.mem_range'.mpr ⟨(code - run.first) / run.step, by omega, by omega⟩

theorem not_holds_partner (hapart : run.apart other = true) (hholds : run.holds code = true) :
    other.holds (run.partner code) = false := by
  obtain ⟨hfirst, hlast, -⟩ := holds_iff.mp hholds
  rw [apart, Bool.or_eq_true, Bool.or_eq_true, Nat.blt_eq, Nat.blt_eq] at hapart
  rcases hapart with (hbelow | habove) | hchecked
  · rw [Bool.eq_false_iff, ne_eq, holds_iff]
    unfold partner at hbelow ⊢
    omega
  · rw [Bool.eq_false_iff, ne_eq, holds_iff]
    unfold partner at habove ⊢
    omega
  · simpa using List.all_eq_true.mp hchecked code (mem_codes_of_holds hholds)

theorem toNat_partner (hchars : run.hasChars = true) (hholds : run.holds code = true) :
    (Char.ofNat (run.partner code)).toNat = run.partner code := by
  obtain ⟨hfirst, hlast, -⟩ := holds_iff.mp hholds
  simp only [hasChars, Bool.or_eq_true, Bool.and_eq_true, Nat.blt_eq] at hchars
  have hvalid : (run.partner code).isValidChar := by
    unfold partner at hchars ⊢
    unfold Nat.isValidChar
    omega
  rw [Char.ofNat, dif_pos hvalid]
  rfl

end CaseRun

/-- The capitals of ASCII, which the table leaves out. -/
def asciiRun : CaseRun := { first := 0x41, last := 0x5A, step := 1, shift := 32 }

/-- The capital I with a dot above, which has no single partner. -/
def dottedRun : CaseRun := .ofRange (0x130, 0x130)

/-- The runs of capitals, those without a single partner included. -/
def capitals : List CaseRun := dottedRun :: asciiRun :: caseRuns

/-- The blanks as runs. -/
def blankRuns : List CaseRun := blankRanges.map .ofRange

/-- What the table of capitals keeps to: partners are characters, and neither capitals nor blanks;
and no capital is a blank. -/
theorem capitals_checked : ((asciiRun :: caseRuns).all fun run =>
    run.hasChars && (capitals ++ blankRuns).all run.apart
      && blankRuns.all (CaseRun.apart { run with shift := 0 })) = true := by
  decide +kernel

/-! ## Characters -/

/-- Lower-casing leaves the character alone wherever it stands. -/
def IsSettled (c : Char) : Prop := c ≠ 'Σ' ∧ c ≠ 'İ' ∧ lowerChar c = c

instance (c : Char) : Decidable (IsSettled c) :=
  inferInstanceAs (Decidable (c ≠ 'Σ' ∧ c ≠ 'İ' ∧ lowerChar c = c))

variable {c : Char} {cs before : List Char}

theorem isBlank_eq_any_holds (c : Char) :
    isBlank c = blankRuns.any fun run => run.holds c.toNat := by
  rw [isBlank, inRanges, blankRuns, List.any_map]
  congr 1
  funext range
  rw [Function.comp_apply, Bool.eq_iff_iff, CaseRun.holds_iff]
  simp [CaseRun.ofRange, Nat.mod_one]

/-- A character is lowered by the run that holds it, if any. -/
theorem lowerChar_eq (c : Char) :
    lowerChar c = (((asciiRun :: caseRuns).find? fun run => run.holds c.toNat).map fun run =>
      Char.ofNat (run.partner c.toNat)).getD c := by
  have hascii : ∀ code < 0x80, (Char.ofNat code).toLower =
      if asciiRun.holds code then Char.ofNat (asciiRun.partner code) else Char.ofNat code := by
    decide +kernel
  have hbeyond : ∀ run ∈ caseRuns, 0x80 ≤ run.first := by decide +kernel
  rw [lowerChar, List.find?_cons]
  by_cases hsmall : c.toNat < 0x80
  · have hnone : (caseRuns.find? fun run => run.holds c.toNat) = none := by
      rw [List.find?_eq_none]
      intro run hrun hholds
      have hfirst := hbeyond run hrun
      have hcode := (CaseRun.holds_iff.mp hholds).1
      omega
    have hlower := hascii c.toNat hsmall
    rw [Char.ofNat_toNat] at hlower
    rw [if_pos hsmall, hlower, hnone]
    cases asciiRun.holds c.toNat <;> rfl
  · have hlarge : asciiRun.holds c.toNat = false := by
      rw [Bool.eq_false_iff, ne_eq, CaseRun.holds_iff]
      intro hholds
      have hcode : c.toNat ≤ 0x5A := hholds.2.1
      omega
    have htest (run : CaseRun) :
        (decide (run.first ≤ c.toNat) && decide (c.toNat ≤ run.last)
          && (c.toNat - run.first) % run.step == 0) = run.holds c.toNat := by
      rw [Bool.eq_iff_iff, CaseRun.holds_iff]
      simp [and_assoc]
    rw [if_neg hsmall, hlarge]
    simp only [htest]
    cases caseRuns.find? fun run => run.holds c.toNat <;> rfl

/-- What no run holds is settled. -/
theorem isSettled_of_not_holds (hnone : ∀ run ∈ capitals, run.holds c.toNat = false) :
    IsSettled c := by
  refine ⟨?_, ?_, ?_⟩
  · rintro rfl
    exact absurd hnone (by decide +kernel)
  · rintro rfl
    exact absurd hnone (by decide +kernel)
  · have hfind : ((asciiRun :: caseRuns).find? fun run => run.holds c.toNat) = none := by
      rw [List.find?_eq_none]
      intro run hrun
      simp [hnone run (List.mem_cons_of_mem _ hrun)]
    rw [lowerChar_eq, hfind]
    rfl

/-- A character whose lower case does not depend on where it stands is settled once it is lowered,
and it is a blank just if it was one. -/
theorem lowerChar_settled (hsigma : c ≠ 'Σ') (hdotted : c ≠ 'İ') :
    IsSettled (lowerChar c) ∧ isBlank (lowerChar c) = isBlank c := by
  cases hfind : (asciiRun :: caseRuns).find? fun run => run.holds c.toNat with
  | none =>
      have hsame : lowerChar c = c := by rw [lowerChar_eq, hfind]; rfl
      rw [IsSettled, hsame]
      exact ⟨⟨hsigma, hdotted, hsame⟩, rfl⟩
  | some run =>
      have hlower : lowerChar c = Char.ofNat (run.partner c.toNat) := by
        rw [lowerChar_eq, hfind]
        rfl
      have hholds : run.holds c.toNat = true := by simpa using List.find?_some hfind
      have hchecked := List.all_eq_true.mp capitals_checked run (List.mem_of_find?_eq_some hfind)
      rw [Bool.and_eq_true, Bool.and_eq_true, List.all_append, Bool.and_eq_true] at hchecked
      obtain ⟨⟨hchars, hcapitals, hblanks⟩, hcapital⟩ := hchecked
      have hcode := CaseRun.toNat_partner hchars hholds
      have hpartner : isBlank (lowerChar c) = false := by
        rw [isBlank_eq_any_holds, hlower, hcode, List.any_eq_false]
        intro blank hblank
        simp [CaseRun.not_holds_partner (List.all_eq_true.mp hblanks blank hblank) hholds]
      have hitself : isBlank c = false := by
        rw [isBlank_eq_any_holds, List.any_eq_false]
        intro blank hblank
        have hheld : CaseRun.holds { run with shift := 0 } c.toNat = true := hholds
        have hself := CaseRun.not_holds_partner (List.all_eq_true.mp hcapital blank hblank) hheld
        simpa [CaseRun.partner] using hself
      refine ⟨isSettled_of_not_holds fun other hother => ?_, hpartner.trans hitself.symm⟩
      rw [hlower, hcode]
      exact CaseRun.not_holds_partner (List.all_eq_true.mp hcapitals other hother) hholds

/-- A lowered capital is a letter, so a character that stands before all letters is only itself. -/
theorem toLower_eq_iff {c d : Char} (hd : d.toNat < 0x41) : c.toLower = d ↔ c = d := by
  have hlow : d.val.toNat < 0x41 := hd
  constructor
  · intro hlower
    unfold Char.toLower at hlower
    split at hlower
    · rename_i hcapital
      have hnat := congrArg UInt32.toNat (congrArg Char.val hlower)
      simp only [ge_iff_le, UInt32.le_iff_toNat_le] at hcapital
      simp at hnat hcapital
      omega
    · exact hlower
  · rintro rfl
    unfold Char.toLower
    split
    · rename_i hcapital
      simp only [ge_iff_le, UInt32.le_iff_toNat_le] at hcapital
      simp at hcapital
      omega
    · rfl

/-! ## Texts -/

/-- Every character becomes one or more that are settled, and they are blanks just if it is one. -/
theorem exists_lowerFrom_cons (before : List Char) (c : Char) (cs : List Char) :
    ∃ front, lowerFrom before (c :: cs) = front ++ lowerFrom (c :: before) cs ∧ front ≠ [] ∧
      ∀ d ∈ front, IsSettled d ∧ isBlank d = isBlank c := by
  refine ⟨_, rfl, ?_, ?_⟩
  · repeat' split
    all_goals simp
  · intro d hd
    split at hd
    · next hsigma =>
      subst hsigma
      have hform : d = 'ς' ∨ d = 'σ' := by
        split at hd <;> simp_all
      rcases hform with rfl | rfl <;> decide +kernel
    · next hsigma =>
      split at hd
      · next hdotted =>
        subst hdotted
        have hform : d = 'i' ∨ d = '\u0307' := by simpa using hd
        rcases hform with rfl | rfl <;> decide +kernel
      · next hdotted =>
        obtain rfl : d = lowerChar c := by simpa using hd
        exact lowerChar_settled hsigma hdotted

theorem isSettled_of_mem_lowerFrom {d : Char} (hd : d ∈ lowerFrom before cs) : IsSettled d := by
  induction cs generalizing before with
  | nil => cases hd
  | cons c cs ih =>
      obtain ⟨front, hfront, -, hsettled⟩ := exists_lowerFrom_cons before c cs
      rw [hfront] at hd
      rcases List.mem_append.mp hd with hmem | hrest
      · exact (hsettled d hmem).1
      · exact ih hrest

theorem lowerFrom_eq_self (hsettled : ∀ c ∈ cs, IsSettled c) : lowerFrom before cs = cs := by
  induction cs generalizing before with
  | nil => rfl
  | cons c cs ih =>
      obtain ⟨⟨hsigma, hdotted, hlower⟩, hrest⟩ := List.forall_mem_cons.mp hsettled
      simp [lowerFrom, hsigma, hdotted, hlower, ih hrest]

/-- A text in lower case is its own lower case. -/
@[simp]
theorem lower_lower (s : String) : lower (lower s) = lower s := by
  rw [lower, lower, String.toList_ofList]
  rw [lowerFrom_eq_self fun c hc => isSettled_of_mem_lowerFrom hc]

theorem head?_lowerFrom (before cs : List Char) :
    (lowerFrom before cs).head?.map isBlank = cs.head?.map isBlank := by
  cases cs with
  | nil => rfl
  | cons c cs =>
      obtain ⟨front, hfront, hne, hblank⟩ := exists_lowerFrom_cons before c cs
      obtain ⟨d, rest, rfl⟩ := List.exists_cons_of_ne_nil hne
      simp [hfront, (hblank d List.mem_cons_self).2]

theorem getLast?_lowerFrom (before cs : List Char) :
    (lowerFrom before cs).getLast?.map isBlank = cs.getLast?.map isBlank := by
  induction cs generalizing before with
  | nil => rfl
  | cons c cs ih =>
      obtain ⟨front, hfront, hne, hblank⟩ := exists_lowerFrom_cons before c cs
      rw [hfront, List.getLast?_append, List.getLast?_cons]
      cases hlast : cs.getLast? with
      | none =>
          obtain rfl := List.getLast?_eq_none_iff.mp hlast
          simp [lowerFrom, List.getLast?_eq_some_getLast hne,
            (hblank _ (List.getLast_mem hne)).2]
      | some last =>
          have hrest := ih (c :: before)
          rw [hlast] at hrest
          cases hlow : (lowerFrom (c :: before) cs).getLast? with
          | none => simp [hlow] at hrest
          | some d => simpa [hlow] using hrest

/-- Lower-casing leaves a trimmed text trimmed. -/
theorem trim_lower {s : String} (htrim : trim s = s) : trim (lower s) = lower s := by
  rw [trim_eq_self_iff] at htrim ⊢
  have hblank {first second : Option Char} (hsame : first.map isBlank = second.map isBlank)
      (hsecond : ∀ c ∈ second, isBlank c = false) : ∀ c ∈ first, isBlank c = false := by
    cases first <;> cases second <;> simp_all
  rw [lower, String.toList_ofList]
  exact ⟨hblank (head?_lowerFrom [] s.toList) htrim.1,
    hblank (getLast?_lowerFrom [] s.toList) htrim.2⟩

theorem lower_eq_empty_iff {s : String} : lower s = "" ↔ s = "" := by
  rw [lower, String.ofList_eq_empty_iff, ← String.toList_eq_nil_iff]
  cases s.toList with
  | nil => simp [lowerFrom]
  | cons c cs =>
      obtain ⟨front, hfront, hne, -⟩ := exists_lowerFrom_cons [] c cs
      simp [hfront, hne]

end FlowGraph.Text
