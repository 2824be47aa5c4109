/-
# Stable sorting

Sorting is by insertion, so what is known of insertion sort holds of it. Where the comparison reads
a key in a linear order and different elements have different keys, the keys alone decide who
stands in front of whom.
-/

import FlowGraph.Order
import Mathlib.Data.List.Nodup
import Mathlib.Data.List.Sort

namespace FlowGraph.Order

universe u v

variable {α : Type u} {κ : Type v} {le : α → α → Bool} {elements : List α}

theorem sortBy_eq_insertionSort (le : α → α → Bool) (elements : List α) :
    sortBy le elements = elements.insertionSort fun a b => le a b = true := by
  have hinsert (a : α) (rest : List α) :
      insertBy le a rest = rest.orderedInsert (fun a b => le a b = true) a := by
    induction rest with
    | nil => rfl
    | cons b rest ih => rw [insertBy, List.orderedInsert_cons, ih]
  induction elements with
  | nil => rfl
  | cons a rest ih => rw [sortBy, List.foldr_cons, ← sortBy, ih, List.insertionSort_cons, hinsert]

/-- Sorting changes nothing where the elements ascend already. -/
theorem sortBy_eq_self (hascending : elements.Pairwise fun a b => le a b = true) :
    sortBy le elements = elements := by
  rw [sortBy_eq_insertionSort]
  exact hascending.insertionSort_eq

theorem sortBy_perm (le : α → α → Bool) (elements : List α) :
    (sortBy le elements).Perm elements := by
  rw [sortBy_eq_insertionSort]
  exact List.perm_insertionSort _ _

section Keys

variable [LinearOrder κ] {key : α → κ}

/-- Sorted by a key that tells its elements apart, a list climbs in that key. -/
theorem pairwise_sortBy_lt (hle : ∀ a b, le a b = true ↔ key a ≤ key b)
    (hdistinct : elements.Nodup) (hkey : Set.InjOn key {a | a ∈ elements}) :
    (sortBy le elements).Pairwise fun a b => key a < key b := by
  have hperm := sortBy_perm le elements
  have hascending : (sortBy le elements).Pairwise fun a b => key a ≤ key b := by
    have htotal : Std.Total fun a b => le a b = true :=
      ⟨fun a b => by simpa only [hle] using le_total (key a) (key b)⟩
    have htrans : IsTrans α fun a b => le a b = true :=
      ⟨fun a b c => by simpa only [hle] using le_trans⟩
    rw [sortBy_eq_insertionSort]
    exact (List.pairwise_insertionSort _ elements).imp (hle _ _).mp
  refine (hascending.and (hperm.nodup_iff.mpr hdistinct)).imp_of_mem ?_
  rintro a b ha hb ⟨hordered, hne⟩
  apply lt_of_le_of_ne hordered
  exact fun hsame => hne (hkey (hperm.mem_iff.mp ha) (hperm.mem_iff.mp hb) hsame)

/-- In a list that climbs in a key, who comes first is who has the lower key. -/
theorem idxOf_lt_idxOf_iff [BEq α] [LawfulBEq α]
    (hclimbs : elements.Pairwise fun a b => key a < key b) {a b : α} (ha : a ∈ elements)
    (hb : b ∈ elements) : elements.idxOf a < elements.idxOf b ↔ key a < key b := by
  have hdistinct : elements.Nodup := hclimbs.imp fun hlt hsame => hlt.ne (congrArg key hsame)
  obtain ⟨i, hi, rfl⟩ := List.getElem_of_mem ha
  obtain ⟨j, hj, rfl⟩ := List.getElem_of_mem hb
  rw [hdistinct.idxOf_getElem, hdistinct.idxOf_getElem]
  rw [List.pairwise_iff_getElem] at hclimbs
  refine ⟨hclimbs i j hi hj, fun hlt => ?_⟩
  rcases lt_trichotomy i j with hij | rfl | hji
  · exact hij
  · exact absurd hlt (lt_irrefl _)
  · exact absurd hlt (hclimbs j i hj hi hji).asymm

end Keys

end FlowGraph.Order
