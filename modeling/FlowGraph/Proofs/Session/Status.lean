/-
# Final statuses

A run has ended when its status is one of a few words, in whatever case it is written. The status is
free-form, and what is compared is its text; but the text of nothing else than a text begins like
one of the words. Numbers are written with digits, a point, signs and the letter of an exponent,
lists and mappings in brackets.
-/

import FlowGraph.Proofs.Case
import FlowGraph.Session.Turns

namespace FlowGraph

open Text

/-! ## How numbers are written -/

namespace Decimal

/-- The characters that finite numbers are written with. -/
def isNumberChar (c : Char) : Bool := c.isDigit || ['.', 'e', '+', '-'].contains c

theorem isNumberChar_of_mem_toDigits {n : Nat} {c : Char} (hc : c ∈ Nat.toDigits 10 n) :
    isNumberChar c = true := by
  rw [isNumberChar, Nat.isDigit_of_mem_toDigits (by decide) (by decide) hc, Bool.true_or]

theorem isNumberChar_of_mem_exponentText {exponent : Int} {c : Char}
    (hc : c ∈ exponentText exponent) : isNumberChar c = true := by
  simp only [exponentText, List.cons_append, List.mem_cons, List.mem_append,
    List.mem_replicate] at hc
  rcases hc with rfl | hsign | ⟨-, rfl⟩ | hdigit
  · rfl
  · split at hsign <;> subst hsign <;> rfl
  · rfl
  · exact isNumberChar_of_mem_toDigits hdigit

theorem isNumberChar_of_mem_layout {d : Numeral} {c : Char} (hc : c ∈ d.layout) :
    isNumberChar c = true := by
  have hdigits (c : Char) (hc : c ∈ Nat.toDigits 10 d.digits) : isNumberChar c = true :=
    isNumberChar_of_mem_toDigits hc
  rw [Numeral.layout] at hc
  generalize Nat.toDigits 10 d.digits = digits at hc hdigits
  dsimp only at hc
  split at hc
  · split at hc
    · simp only [List.cons_append, List.mem_cons, List.mem_append, List.mem_replicate] at hc
      rcases hc with rfl | rfl | ⟨-, rfl⟩ | hdigit
      · rfl
      · rfl
      · rfl
      · exact hdigits c hdigit
    · split at hc
      · simp only [List.mem_cons, List.mem_append, List.mem_replicate, List.not_mem_nil,
          or_false] at hc
        rcases hc with (hdigit | ⟨-, rfl⟩) | rfl | rfl
        · exact hdigits c hdigit
        · rfl
        · rfl
        · rfl
      · rcases List.mem_append.mp hc with hdigit | hrest
        · exact hdigits c (List.mem_of_mem_take hdigit)
        · rcases List.mem_cons.mp hrest with rfl | hdigit
          · rfl
          · exact hdigits c (List.mem_of_mem_drop hdigit)
  · split at hc
    · cases hc
    · rcases List.mem_cons.mp hc with rfl | hexponent
      · exact hdigits c List.mem_cons_self
      · exact isNumberChar_of_mem_exponentText hexponent
    · simp only [List.cons_append, List.mem_cons, List.mem_append] at hc
      rcases hc with rfl | rfl | hdigit | hexponent
      · exact hdigits c List.mem_cons_self
      · rfl
      · exact hdigits c (List.mem_cons_of_mem _ hdigit)
      · exact isNumberChar_of_mem_exponentText hexponent

theorem isSettled_of_isNumberChar {c : Char} (hc : isNumberChar c = true) : IsSettled c := by
  have hascii : ∀ code < 0x80, isNumberChar (Char.ofNat code) = true →
      IsSettled (Char.ofNat code) := by decide +kernel
  have hsmall : c.toNat < 0x80 := by
    rw [isNumberChar, Bool.or_eq_true, List.contains_iff_mem] at hc
    rcases hc with hdigit | hsign
    · simp only [Char.isDigit, Bool.and_eq_true, decide_eq_true_iff,
        UInt32.le_iff_toNat_le] at hdigit
      exact Nat.lt_of_le_of_lt hdigit.2 (by decide)
    · simp only [List.mem_cons, List.not_mem_nil, or_false] at hsign
      rcases hsign with rfl | rfl | rfl | rfl <;> decide
  have hsettled := hascii c.toNat hsmall
  rw [Char.ofNat_toNat] at hsettled
  exact hsettled hc

theorem isNumberChar_of_mem_intText {n : Int} {c : Char} (hc : c ∈ (intText n).toList) :
    isNumberChar c = true := by
  cases n with
  | ofNat m => exact isNumberChar_of_mem_toDigits (by simpa [intText] using hc)
  | negSucc m =>
      rw [intText, String.toList_ofList] at hc
      rcases List.mem_cons.mp hc with rfl | hdigit
      · rfl
      · exact isNumberChar_of_mem_toDigits hdigit

/-- A double is not a number, or infinite, or written with number characters. -/
theorem floatText_cases (x : Float) :
    floatText x ∈ ["nan", "inf", "-inf"] ∨ ∀ c ∈ (floatText x).toList, isNumberChar c = true := by
  rw [floatText]
  split
  · exact .inl (List.mem_cons_self)
  · dsimp only
    have hsign : ∀ c ∈ (if x.toBits >>> 63 = 1 then ['-'] else []), isNumberChar c = true := by
      intro c hc
      split at hc
      · obtain rfl := List.mem_singleton.mp hc
        rfl
      · cases hc
    have hzero : ∀ c ∈ ['0', '.', '0'], isNumberChar c = true := by
      intro c hc
      simp only [List.mem_cons, List.not_mem_nil, or_false] at hc
      rcases hc with rfl | rfl | rfl <;> rfl
    by_cases hinf : x.isInf = true
    · left
      rw [if_pos hinf]
      split <;> decide
    · right
      rw [if_neg hinf, String.toList_ofList]
      intro c hc
      rcases List.mem_append.mp hc with hmem | hmem
      · exact hsign c hmem
      · split at hmem
        · exact hzero c hmem
        · exact isNumberChar_of_mem_layout hmem

end Decimal

/-! ## The status of a run -/

namespace Session

/-- The detail is that of a run with a final status, in whatever case it is written. -/
def IsFinal (detail : Value) : Prop :=
  ∃ status, (detail.field "run").field "status" = .text status ∧ lower status ∈ finalStatuses

/-- A text that begins with none of the letters that a final status begins with is none. -/
theorem lower_not_final_of_head {s : String}
    (hhead : ∀ c ∈ s.toList.head?, IsSettled c ∧ c ∉ ['s', 'c', 'f']) :
    lower s ∉ finalStatuses := by
  have hheads : ∀ status ∈ finalStatuses,
      status.toList.head? ∈ ['s', 'c', 'f'].map some := by decide +kernel
  intro hfinal
  obtain ⟨c, hc, hfirst⟩ := List.mem_map.mp (hheads _ hfinal)
  rw [lower, String.toList_ofList] at hfirst
  cases hs : s.toList with
  | nil =>
      rw [hs] at hfirst
      cases hfirst
  | cons d rest =>
      obtain ⟨⟨hsigma, hdotted, hlower⟩, hne⟩ := hhead d (by rw [hs, List.head?_cons]; rfl)
      rw [hs, lowerFrom, if_neg hsigma, if_neg hdotted, hlower] at hfirst
      cases hfirst
      exact hne hc

theorem lower_not_final_of_numberChars {s : String}
    (hs : ∀ c ∈ s.toList, Decimal.isNumberChar c = true) : lower s ∉ finalStatuses := by
  refine lower_not_final_of_head fun c hc => ?_
  have hnumber := hs c (List.mem_of_mem_head? hc)
  refine ⟨Decimal.isSettled_of_isNumberChar hnumber, fun hletter => ?_⟩
  simp only [List.mem_cons, List.not_mem_nil, or_false] at hletter
  rcases hletter with rfl | rfl | rfl <;> cases hnumber

/-- Only a text can be a final status. -/
theorem lower_filledText_not_final {value : Value} (htext : ∀ s, value ≠ .text s) :
    lower value.filledText ∉ finalStatuses := by
  have hempty : lower "" ∉ finalStatuses := by decide +kernel
  rw [Value.filledText]
  split
  case isFalse => exact hempty
  case isTrue htruthy =>
    cases value with
    | text s => exact absurd rfl (htext s)
    | null => cases htruthy
    | bool b =>
        cases b
        · cases htruthy
        · decide +kernel
    | int n => exact lower_not_final_of_numberChars fun c => Decimal.isNumberChar_of_mem_intText
    | float x =>
        have hwords : ∀ word ∈ ["nan", "inf", "-inf"], lower word ∉ finalStatuses := by
          decide +kernel
        rcases Decimal.floatText_cases x with hword | hnumber
        · exact hwords _ hword
        · exact lower_not_final_of_numberChars hnumber
    | list items =>
        refine lower_not_final_of_head fun c hc => ?_
        obtain rfl : '[' = c := by simpa [Value.display, Value.nested] using hc
        decide +kernel
    | object fields =>
        refine lower_not_final_of_head fun c hc => ?_
        obtain rfl : '\x7b' = c := by simpa [Value.display, Value.nested] using hc
        decide +kernel

theorem field_part (fields : Fields Value) (outer inner : String) :
    (part fields outer).field inner = ((Value.object fields).field outer).field inner := rfl

/-- A run has ended just if its status is final. -/
theorem hasEnded_iff {fields : Fields Value} :
    hasEnded fields = true ↔ IsFinal (.object fields) := by
  rw [hasEnded, List.contains_iff_mem, field_part, IsFinal]
  generalize ((Value.object fields).field "run").field "status" = status
  cases status with
  | text s =>
      have hfilled : (Value.text s).filledText = s := by
        by_cases hs : s = "" <;> simp [Value.filledText, Value.isTruthy, hs, Value.display]
      rw [hfilled]
      simp
  | _ =>
      refine iff_of_false (lower_filledText_not_final nofun) ?_
      rintro ⟨s, hs, -⟩
      cases hs

end Session

end FlowGraph
