/-
# Labels continue a series

A new node is labelled after its type: `AI`, then `AI 2`, `AI 3`, and so on. A label stands in the
series of a base with a number if it is the base alone, which is number one, or the base with a
space and decimal digits of any script behind it. The next label is one past the greatest positive
number of the series, and the base alone if there is none. So it differs from every label there is,
whatever else the labels are like: leading zeros, other scripts and number zero included. Numbers of
more digits than can be converted are the exception. One label with such a number, or a greatest
number whose successor is of this kind, and the series has no next label at all.
-/

import FlowGraph.Edit.Naming
import FlowGraph.Proofs.Trim
import Mathlib.Data.List.MinMax
import Mathlib.Order.Bounds.Basic
import Mathlib.Order.Nat

namespace FlowGraph.Naming

open FlowGraph.Text

universe u v w

/-! ## Readings of a list -/

section MapM

variable {ε : Type u} {α : Type v} {β : Type u} {f : α → Except ε β} {xs : List α}

/-- If every element can be read, the list is read to just the readings of its elements. -/
theorem exists_mapM_eq_ok (hok : ∀ x ∈ xs, ∃ y, f x = .ok y) :
    ∃ ys, xs.mapM f = .ok ys ∧ ∀ y, y ∈ ys ↔ ∃ x ∈ xs, f x = .ok y := by
  induction xs with
  | nil => exact ⟨[], rfl, by simp⟩
  | cons x rest ih =>
      obtain ⟨⟨y, hy⟩, hrest⟩ := List.forall_mem_cons.mp hok
      obtain ⟨ys, hys, hmem⟩ := ih hrest
      refine ⟨y :: ys, ?_, fun z => ?_⟩
      · rw [List.mapM_cons, hy, hys]
        rfl
      · simp [hy, hmem, eq_comm]

/-- If an element cannot be read, the list is not read, for the same cause as one of them. -/
theorem exists_mapM_eq_error {x : α} (hx : x ∈ xs) {cause : ε} (herror : f x = .error cause) :
    ∃ y ∈ xs, ∃ first, f y = .error first ∧ xs.mapM f = .error first := by
  induction xs with
  | nil => cases hx
  | cons head rest ih =>
      cases hhead : f head with
      | error first =>
          refine ⟨head, List.mem_cons_self, first, hhead, ?_⟩
          rw [List.mapM_cons, hhead]
          rfl
      | ok value =>
          have hrest : x ∈ rest := by
            rcases List.mem_cons.mp hx with rfl | hrest
            · rw [hhead] at herror
              cases herror
            · exact hrest
          obtain ⟨y, hy, first, hfirst, hmap⟩ := ih hrest
          refine ⟨y, List.mem_cons_of_mem head hy, first, hfirst, ?_⟩
          rw [List.mapM_cons, hhead, hmap]
          rfl

end MapM

/-! ## Numerals -/

theorem digitValue?_of_isDigit {c : Char} (hc : c.isDigit = true) :
    digitValue? c = some (c.toNat - '0'.toNat) := by
  have hcode : 48 ≤ c.toNat ∧ c.toNat ≤ 57 := by
    simpa [Char.isDigit, UInt32.le_iff_toNat_le] using hc
  have hrange : (decide (48 ≤ c.toNat) && decide (c.toNat < 48 + 10)) = true := by
    simp only [Bool.and_eq_true, decide_eq_true_eq]
    omega
  -- the zero of these digits is the first of all
  have hzero : (zeroDigits.find? fun start => start ≤ c.toNat && c.toNat < start + 10) = some 48 :=
    List.find?_cons_of_pos hrange
  rw [digitValue?, hzero]
  rfl

/-- The digits of a numeral are read as its number. -/
theorem digitsValue_toDigits (n : Nat) : digitsValue (Nat.toDigits 10 n) = n := by
  have hread (cs : List Char) (hcs : ∀ c ∈ cs, c.isDigit = true) (value : Nat) :
      cs.foldl (fun value c => value * 10 + (digitValue? c).getD 0) value =
        Nat.ofDigitChars 10 cs value := by
    induction cs generalizing value with
    | nil => rfl
    | cons c rest ih =>
        obtain ⟨hc, hrest⟩ := List.forall_mem_cons.mp hcs
        rw [List.foldl_cons, ih hrest, digitValue?_of_isDigit hc, Option.getD_some, Nat.mul_comm]
        rfl
  rw [digitsValue, hread _ fun c hc => Nat.isDigit_of_mem_toDigits (by decide) (by decide) hc]
  exact Nat.ofDigitChars_ten_toDigits

/-! ## The series of a base -/

/-- The label is the base with a space and these digits behind it. -/
def IsNumbered (base : String) (digits : List Char) (label : String) : Prop :=
  digits ≠ [] ∧ (∀ c ∈ digits, isDigit c = true) ∧ label = base ++ " " ++ String.ofList digits

/-- The label stands in the series of the base with this number. -/
inductive InSeries (base : String) : String → Nat → Prop
  | alone : InSeries base base 1
  | numbered {label : String} {digits : List Char} (hlabel : IsNumbered base digits label) :
      InSeries base label (digitsValue digits)

variable {base label : String} {digits : List Char}

theorem isNumbered_iff : IsNumbered base digits label ↔
    digits ≠ [] ∧ (∀ c ∈ digits, isDigit c = true) ∧
      label.toList = base.toList ++ ' ' :: digits := by
  rw [IsNumbered, ← String.toList_inj]
  simp

/-- A numeral behind the base is read as its number. -/
theorem inSeries_numeral (base : String) (n : Nat) :
    InSeries base (base ++ " " ++ numeral n) n := by
  have hlabel : IsNumbered base (Nat.toDigits 10 n) (base ++ " " ++ numeral n) := by
    refine ⟨Nat.toDigits_ne_nil, fun c hc => ?_, rfl⟩
    have hdigit := Nat.isDigit_of_mem_toDigits (by decide) (by decide) hc
    rw [isDigit, digitValue?_of_isDigit hdigit]
    rfl
  simpa only [digitsValue_toDigits] using InSeries.numbered hlabel

theorem seriesNumber_self (cs : List Char) : seriesNumber cs cs = .ok 1 := by
  have hrest : cs.isPrefixOf? cs = some [] :=
    List.isPrefixOf?_eq_some_iff_append_eq.mpr (List.append_nil cs)
  rw [seriesNumber, hrest]

theorem seriesNumber_of_isNumbered (hlabel : IsNumbered base digits label) :
    seriesNumber base.toList label.toList =
      if digits.length ≤ Decimal.maxDigits then .ok (digitsValue digits)
      else .error (.tooManyDigits (some digits.length)) := by
  obtain ⟨hne, hdigits, hchars⟩ := isNumbered_iff.mp hlabel
  have hrest : base.toList.isPrefixOf? label.toList = some (' ' :: digits) :=
    List.isPrefixOf?_eq_some_iff_append_eq.mpr hchars.symm
  rw [seriesNumber, hrest]
  exact if_pos ⟨hne, List.all_eq_true.mpr hdigits⟩

/-- A label that is neither the base nor numbered counts as nothing. -/
theorem seriesNumber_cases (base label : String) :
    label = base ∨ (∃ digits, IsNumbered base digits label) ∨
      seriesNumber base.toList label.toList = .ok 0 := by
  rw [seriesNumber]
  split
  · rename_i hrest
    have hchars := List.isPrefixOf?_eq_some_iff_append_eq.mp hrest
    rw [List.append_nil, String.toList_inj] at hchars
    exact Or.inl hchars.symm
  · rename_i digits hrest
    have hchars := List.isPrefixOf?_eq_some_iff_append_eq.mp hrest
    by_cases hdigits : digits ≠ [] ∧ digits.all isDigit = true
    · exact Or.inr (Or.inl ⟨digits, isNumbered_iff.mpr
        ⟨hdigits.1, List.all_eq_true.mp hdigits.2, hchars.symm⟩⟩)
    · exact Or.inr (Or.inr (if_neg hdigits))
  · exact Or.inr (Or.inr rfl)

/-- The number that is behind the base can be converted, if there is one. -/
def IsLegible (base label : String) : Prop :=
  ∀ digits, IsNumbered base digits label → digits.length ≤ Decimal.maxDigits

theorem exists_seriesNumber (hlegible : IsLegible base label) :
    ∃ n, seriesNumber base.toList label.toList = .ok n := by
  rcases seriesNumber_cases base label with rfl | ⟨digits, hlabel⟩ | hnone
  · exact ⟨1, seriesNumber_self _⟩
  · exact ⟨digitsValue digits, by rw [seriesNumber_of_isNumbered hlabel,
      if_pos (hlegible digits hlabel)]⟩
  · exact ⟨0, hnone⟩

/-- Of a legible label the positive numbers are found. -/
theorem inSeries_iff_seriesNumber (hlegible : IsLegible base label) {n : Nat} (hpos : 0 < n) :
    InSeries base label n ↔ seriesNumber base.toList label.toList = .ok n := by
  constructor
  · intro hseries
    cases hseries with
    | alone => exact seriesNumber_self _
    | numbered hlabel => rw [seriesNumber_of_isNumbered hlabel, if_pos (hlegible _ hlabel)]
  · intro hnumber
    rcases seriesNumber_cases base label with rfl | ⟨digits, hlabel⟩ | hnone
    · rw [seriesNumber_self] at hnumber
      cases hnumber
      exact InSeries.alone
    · rw [seriesNumber_of_isNumbered hlabel, if_pos (hlegible digits hlabel)] at hnumber
      cases hnumber
      exact InSeries.numbered hlabel
    · rw [hnone] at hnumber
      cases hnumber
      omega

/-! ## The next label -/

variable {labels : List String} {numbers : List Nat}

/-- The positive numbers that the labels, trimmed, have in the series. -/
def takenNumbers (base : String) (labels : List String) : Set Nat :=
  {n | 0 < n ∧ ∃ label ∈ labels, InSeries (seriesBase base) (trim label) n}

/-- Every number that is met can be converted, and so can the next one. -/
structure CanContinue (base : String) (labels : List String) : Prop where
  legible : ∀ label ∈ labels, IsLegible (seriesBase base) (trim label)
  next_legible : ∀ n, IsGreatest (takenNumbers base labels) n →
    (numeral (n + 1)).length ≤ Decimal.maxDigits

/-- The text is what comes next: the base alone if no label has a positive number, and otherwise the
base with one more than the greatest. -/
def IsNextLabel (base : String) (labels : List String) (text : String) : Prop :=
  takenNumbers base labels = ∅ ∧ text = seriesBase base ∨
    ∃ n, IsGreatest (takenNumbers base labels) n ∧ text = seriesBase base ++ " " ++ numeral (n + 1)

/-- What comes next is no label yet. -/
theorem IsNextLabel.trim_ne {text : String} (hnext : IsNextLabel base labels text) :
    ∀ label ∈ labels, trim label ≠ text := by
  rintro label hlabel rfl
  rcases hnext with ⟨hnone, halone⟩ | ⟨n, hgreatest, hnumbered⟩
  · have hone : 1 ∈ takenNumbers base labels :=
      ⟨Nat.one_pos, label, hlabel, halone ▸ InSeries.alone⟩
    rw [hnone] at hone
    exact hone
  · have hmore : n + 1 ∈ takenNumbers base labels :=
      ⟨Nat.succ_pos n, label, hlabel, hnumbered ▸ inSeries_numeral _ (n + 1)⟩
    exact absurd (hgreatest.2 hmore) (Nat.not_succ_le_self n)

theorem isGreatest_foldr_max (hmax : numbers.foldr max 0 ≠ 0) :
    IsGreatest {n | 0 < n ∧ n ∈ numbers} (numbers.foldr max 0) := by
  have hne : numbers ≠ [] := by
    rintro rfl
    exact hmax rfl
  refine ⟨⟨Nat.pos_of_ne_zero hmax, ?_⟩, fun n hn => List.le_max_of_le hn.2 (Nat.le_refl n)⟩
  exact List.maximum_mem (List.foldr_max_of_ne_nil hne).symm

/-- The numbers that are found decide what happens. -/
theorem nextLabel_of_numbers
    (hnumbers : labels.mapM (fun label =>
      seriesNumber (seriesBase base).toList (trim label).toList) = .ok numbers) :
    nextLabel base labels =
      if numbers.foldr max 0 = 0 then .ok (seriesBase base)
      else if (numeral (numbers.foldr max 0 + 1)).length ≤ Decimal.maxDigits then
        .ok (seriesBase base ++ " " ++ numeral (numbers.foldr max 0 + 1))
      else .error (.tooManyDigits none) := by
  rw [nextLabel]
  dsimp only
  rw [hnumbers]
  cases hmax : numbers.foldr max 0 with
  | zero => simp [bind, Except.bind, hmax, pure, Except.pure]
  | succ n => simp [bind, Except.bind, hmax, pure, Except.pure]

/-- Every label can be read, and the positive numbers that are found are just those of the
series. -/
theorem exists_numbers
    (hlegible : ∀ label ∈ labels, IsLegible (seriesBase base) (trim label)) :
    ∃ numbers, labels.mapM (fun label =>
        seriesNumber (seriesBase base).toList (trim label).toList) = .ok numbers ∧
      takenNumbers base labels = {n | 0 < n ∧ n ∈ numbers} := by
  obtain ⟨numbers, hnumbers, hmem⟩ :=
    exists_mapM_eq_ok fun label hlabel => exists_seriesNumber (hlegible label hlabel)
  refine ⟨numbers, hnumbers, Set.ext fun n => and_congr_right fun hpos => ?_⟩
  rw [hmem]
  refine exists_congr fun label => and_congr_right fun hlabel => ?_
  exact inSeries_iff_seriesNumber (hlegible label hlabel) hpos

/-- Reading the number of a label fails for its digits only. -/
theorem exists_digits_of_seriesNumber {first second : List Char} {cause : Failure}
    (herror : seriesNumber first second = .error cause) :
    ∃ digits, cause = .tooManyDigits digits := by
  rw [seriesNumber] at herror
  split at herror
  · cases herror
  · split at herror
    · split at herror
      · cases herror
      · cases herror
        exact ⟨_, rfl⟩
    · cases herror
  · cases herror

/-- A label of the series whose number has too many digits stops it. -/
theorem nextLabel_of_not_isLegible {label : String} (hlabel : label ∈ labels)
    (hillegible : ¬IsLegible (seriesBase base) (trim label)) :
    ∃ digits, nextLabel base labels = .error (.tooManyDigits digits) := by
  obtain ⟨digits, hnumbered, hlong⟩ :
      ∃ digits, IsNumbered (seriesBase base) digits (trim label) ∧
        ¬digits.length ≤ Decimal.maxDigits := by
    simpa only [IsLegible, not_forall, exists_prop] using hillegible
  have hlabelError := seriesNumber_of_isNumbered hnumbered
  rw [if_neg hlong] at hlabelError
  obtain ⟨other, -, cause, hother, hlabels⟩ := exists_mapM_eq_error
    (f := fun label => seriesNumber (seriesBase base).toList (trim label).toList) hlabel hlabelError
  obtain ⟨count, rfl⟩ := exists_digits_of_seriesNumber hother
  refine ⟨count, ?_⟩
  rw [nextLabel]
  dsimp only
  rw [hlabels]
  rfl

/-- So does a greatest number whose successor has too many. -/
theorem nextLabel_of_not_canContinue (hstops : ¬CanContinue base labels) :
    ∃ digits, nextLabel base labels = .error (.tooManyDigits digits) := by
  by_cases hlegible : ∀ label ∈ labels, IsLegible (seriesBase base) (trim label)
  · obtain ⟨n, hgreatest, hlong⟩ : ∃ n, IsGreatest (takenNumbers base labels) n ∧
        ¬(numeral (n + 1)).length ≤ Decimal.maxDigits := by
      by_contra hshort
      refine hstops ⟨hlegible, fun n hgreatest => ?_⟩
      by_contra hlong
      exact hshort ⟨n, hgreatest, hlong⟩
    obtain ⟨numbers, hnumbers, htaken⟩ := exists_numbers hlegible
    have hmax : numbers.foldr max 0 ≠ 0 := by
      obtain ⟨hpos, hmem⟩ : n ∈ {n | 0 < n ∧ n ∈ numbers} := htaken ▸ hgreatest.1
      have hle : n ≤ numbers.foldr max 0 := List.le_max_of_le hmem (Nat.le_refl n)
      omega
    have hsame : numbers.foldr max 0 = n := (htaken ▸ isGreatest_foldr_max hmax).unique hgreatest
    rw [nextLabel_of_numbers hnumbers, if_neg hmax, hsame, if_neg hlong]
    exact ⟨none, rfl⟩
  · simp only [not_forall] at hlegible
    obtain ⟨label, hlabel, hillegible⟩ := hlegible
    exact nextLabel_of_not_isLegible hlabel hillegible

theorem nextLabel_of_canContinue (hcontinue : CanContinue base labels) :
    ∃ text, nextLabel base labels = .ok text ∧ IsNextLabel base labels text := by
  obtain ⟨numbers, hnumbers, htaken⟩ := exists_numbers hcontinue.legible
  rw [nextLabel_of_numbers hnumbers]
  by_cases hmax : numbers.foldr max 0 = 0
  · refine ⟨_, if_pos hmax, Or.inl ⟨?_, rfl⟩⟩
    rw [htaken, Set.eq_empty_iff_forall_notMem]
    rintro n ⟨hpos, hmem⟩
    have hle : n ≤ numbers.foldr max 0 := List.le_max_of_le hmem (Nat.le_refl n)
    omega
  · have hgreatest := isGreatest_foldr_max hmax
    rw [← htaken] at hgreatest
    rw [if_neg hmax, if_pos (hcontinue.next_legible _ hgreatest)]
    exact ⟨_, rfl, Or.inr ⟨_, hgreatest, rfl⟩⟩

/-- If every number of a series can be converted, the series has a next label. It is the base if no
label has a positive number, and otherwise the base with one more than the greatest; and no label
there is, trimmed, is the same. If not, the series has none. -/
theorem nextLabel_continues_series (base : String) (labels : List String) :
    (CanContinue base labels ∧ ∃ text, nextLabel base labels = .ok text ∧
        IsNextLabel base labels text ∧ ∀ label ∈ labels, trim label ≠ text) ∨
      ¬CanContinue base labels ∧
        ∃ digits, nextLabel base labels = .error (.tooManyDigits digits) := by
  by_cases hcontinue : CanContinue base labels
  · obtain ⟨text, htext, hnext⟩ := nextLabel_of_canContinue hcontinue
    exact Or.inl ⟨hcontinue, text, htext, hnext, hnext.trim_ne⟩
  · exact Or.inr ⟨hcontinue, nextLabel_of_not_canContinue hcontinue⟩

/-- Leading zeros, a digit of another script, number zero, and labels of other series. -/
theorem strange_labels_continue :
    let labels := ["AI 0", " AI 007\n", "AI ٣", "AI", "AI -9", "AIR 9", "ai 12", "AI 9 9"]
    nextLabel " AI " labels = .ok "AI 8" ∧ CanContinue " AI " labels ∧
      IsNextLabel " AI " labels "AI 8" ∧ ∀ label ∈ labels, trim label ≠ "AI 8" := by
  intro labels
  have hok : nextLabel " AI " labels = .ok "AI 8" := by decide +kernel
  rcases nextLabel_continues_series " AI " labels with
    ⟨hcontinue, text, htext, hnext, hfresh⟩ | ⟨-, digits, herror⟩
  · obtain rfl : "AI 8" = text := Except.ok.inj (hok.symm.trans htext)
    exact ⟨hok, hcontinue, hnext, hfresh⟩
  · rw [hok] at herror
    cases herror

/-- A label with a number of too many ones leaves the series without a next label. -/
theorem nextLabel_of_ones {count : Nat} (hcount : Decimal.maxDigits < count) :
    nextLabel "AI" ["AI " ++ String.ofList (List.replicate count '1')] =
      .error (.tooManyDigits (some count)) := by
  have hsome : count ≠ 0 := Nat.ne_zero_of_lt hcount
  have htrimmed : trim ("AI " ++ String.ofList (List.replicate count '1')) =
      "AI " ++ String.ofList (List.replicate count '1') := by
    refine trim_eq_self_iff.mpr ⟨fun c hc => ?_, fun c hc => ?_⟩
    · obtain rfl : 'A' = c := by simpa using hc
      rfl
    · obtain rfl : '1' = c := by
        simpa [List.getLast?_cons, List.getLast?_replicate, hsome] using hc
      rfl
  have hlabel : IsNumbered "AI" (List.replicate count '1')
      ("AI " ++ String.ofList (List.replicate count '1')) := by
    refine ⟨by simpa using hsome, fun c hc => ?_, rfl⟩
    rw [List.eq_of_mem_replicate hc]
    rfl
  have hnumber := seriesNumber_of_isNumbered hlabel
  rw [List.length_replicate, if_neg (Nat.not_le_of_lt hcount)] at hnumber
  have hbase : seriesBase "AI" = "AI" := by decide +kernel
  rw [nextLabel]
  dsimp only
  rw [hbase, List.mapM_cons, htrimmed, hnumber]
  rfl

/-- One digit more than can be converted, and there is no next label. -/
theorem overlong_number_stops_series :
    nextLabel "AI" ["AI " ++ String.ofList (List.replicate 4301 '1')] =
      .error (.tooManyDigits (some 4301)) :=
  nextLabel_of_ones (by decide)

end FlowGraph.Naming
