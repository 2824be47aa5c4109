/-
# Directed graphs given by their arrows

Edges of a document, links of a definition and the links that stages are counted along are all
lists of pairs of ids, so what it means to be free of cycles is said once, for any list of pairs.
A list is finite: without cycles its arrows are well-founded, every point has a root behind it, and
whether one more arrow closes a cycle depends only on a path back. With cycles the points split in
two: those that a cycle leads to, and those that are accessible along the arrows.
-/

import Mathlib.Logic.Relation
import Mathlib.Order.WellFoundedSet

namespace FlowGraph.Arrows

open Relation

universe u v

variable {α : Type u} {β : Type v}

/-- An arrow leads from the first point to the second. -/
def Leads (arrows : List (α × α)) (source target : α) : Prop := (source, target) ∈ arrows

/-- No point leads back to itself along one or more arrows. -/
def Acyclic (arrows : List (α × α)) : Prop := ∀ point, ¬ TransGen (Leads arrows) point point

/-- The point lies on a cycle or can be reached from one. -/
def BehindCycle (arrows : List (α × α)) (point : α) : Prop :=
  ∃ turn, TransGen (Leads arrows) turn turn ∧ ReflTransGen (Leads arrows) turn point

/-- A walk of so many arrows from the first point to the second. -/
inductive Walk (arrows : List (α × α)) : ℕ → α → α → Prop
  | refl (point : α) : Walk arrows 0 point point
  | tail {length : ℕ} {first middle last : α} (hwalk : Walk arrows length first middle)
      (hstep : Leads arrows middle last) : Walk arrows (length + 1) first last

/-- The lengths of the walks that end at a point. Away from cycles these walks are paths, because
one that met a point twice would have gone round a cycle. -/
def walkLengths (arrows : List (α × α)) (point : α) : Set ℕ :=
  {length | ∃ first, Walk arrows length first point}

variable {arrows : List (α × α)} {source target : α}

theorem acyclic_nil : Acyclic ([] : List (α × α)) := by
  intro point hcycle
  obtain ⟨next, hstep, -⟩ := TransGen.head'_iff.mp hcycle
  exact List.not_mem_nil hstep

theorem Walk.mono {more : List (α × α)} (hstep : ∀ a b, Leads arrows a b → Leads more a b)
    {length : ℕ} {first last : α} (hwalk : Walk arrows length first last) :
    Walk more length first last := by
  induction hwalk with
  | refl point => exact Walk.refl point
  | tail _ hlast ih => exact ih.tail (hstep _ _ hlast)

theorem walkLengths_congr {other : List (α × α)} (hsame : Leads arrows = Leads other) (point : α) :
    walkLengths arrows point = walkLengths other point := by
  ext length
  constructor
  · rintro ⟨first, hwalk⟩
    exact ⟨first, hwalk.mono fun _ _ hstep => hsame ▸ hstep⟩
  · rintro ⟨first, hwalk⟩
    exact ⟨first, hwalk.mono fun _ _ hstep => hsame ▸ hstep⟩

/-- A map that takes every arrow to a path takes cycles to cycles. -/
theorem Acyclic.of_map {image : List (β × β)} (hacyclic : Acyclic image) (f : α → β)
    (hpath : ∀ a b, Leads arrows a b → TransGen (Leads image) (f a) (f b)) : Acyclic arrows :=
  fun point hcycle => hacyclic (f point) (hcycle.lift' f hpath)

theorem Acyclic.of_subset {fewer : List (α × α)} (hacyclic : Acyclic arrows)
    (hsubset : fewer ⊆ arrows) : Acyclic fewer :=
  hacyclic.of_map id fun _ _ hstep => TransGen.single (hsubset hstep)

/-- Arrows that all climb in some rank never return. -/
theorem acyclic_of_rank (rank : α → ℕ) (hrank : ∀ a b, Leads arrows a b → rank a < rank b) :
    Acyclic arrows := by
  intro point hcycle
  have hclimb : TransGen (· < ·) (rank point) (rank point) := hcycle.lift rank hrank
  rw [transGen_eq_self] at hclimb
  exact lt_irrefl _ hclimb

/-- A chain through distinct points never returns. -/
theorem acyclic_zip_tail [DecidableEq α] {points : List α} (hdistinct : points.Nodup) :
    Acyclic (points.zip points.tail) := by
  refine acyclic_of_rank (fun point => points.idxOf point) fun a b hstep => ?_
  obtain ⟨i, hi, heq⟩ := List.getElem_of_mem hstep
  simp only [List.length_zip, List.length_tail] at hi
  simp only [List.getElem_zip, List.getElem_tail, Prod.mk.injEq] at heq
  obtain ⟨rfl, rfl⟩ := heq
  rw [hdistinct.idxOf_getElem, hdistinct.idxOf_getElem]
  exact Nat.lt_succ_self i

/-- A chain enters every point but the first. -/
theorem leads_zip_tail_iff {points : List α} {point : α} :
    (∃ before, Leads (points.zip points.tail) before point) ↔ point ∈ points.tail := by
  constructor
  · rintro ⟨before, hleads⟩
    exact (List.of_mem_zip hleads).2
  · intro hmem
    obtain ⟨i, hi, rfl⟩ := List.getElem_of_mem hmem
    have hlength : i < points.length := by
      rw [List.length_tail] at hi
      omega
    have hzip : i < (points.zip points.tail).length := by
      rw [List.length_zip]
      omega
    refine ⟨points[i], ?_⟩
    rw [Leads, ← List.getElem_zip (h := hzip)]
    exact List.getElem_mem hzip

/-- Renaming the points of a graph closes no cycle as long as different points get different
names. -/
theorem Acyclic.map {f : α → β} {points : Set α} (hacyclic : Acyclic arrows)
    (hpoints : ∀ arrow ∈ arrows, arrow.1 ∈ points ∧ arrow.2 ∈ points)
    (hinj : Set.InjOn f points) : Acyclic (arrows.map fun arrow => (f arrow.1, f arrow.2)) := by
  have hback {a b : β} (hpath : TransGen (Leads (arrows.map fun arrow => (f arrow.1, f arrow.2)))
      a b) : ∃ first ∈ points, ∃ last ∈ points,
        f first = a ∧ f last = b ∧ TransGen (Leads arrows) first last := by
    have hstep {a b : β} (hleads : Leads (arrows.map fun arrow => (f arrow.1, f arrow.2)) a b) :
        ∃ first ∈ points, ∃ last ∈ points, f first = a ∧ f last = b ∧ Leads arrows first last := by
      obtain ⟨⟨first, last⟩, harrow, heq⟩ := List.mem_map.mp hleads
      cases heq
      exact ⟨first, (hpoints _ harrow).1, last, (hpoints _ harrow).2, rfl, rfl, harrow⟩
    induction hpath with
    | single hleads =>
        obtain ⟨first, hfirst, last, hlast, rfl, rfl, harrow⟩ := hstep hleads
        exact ⟨first, hfirst, last, hlast, rfl, rfl, TransGen.single harrow⟩
    | tail _ hleads ih =>
        obtain ⟨first, hfirst, middle, hmiddle, rfl, rfl, hpath⟩ := ih
        obtain ⟨middle', hmiddle', last, hlast, hsame, rfl, harrow⟩ := hstep hleads
        obtain rfl := hinj hmiddle' hmiddle hsame
        exact ⟨first, hfirst, last, hlast, rfl, rfl, hpath.tail harrow⟩
  intro point hcycle
  obtain ⟨first, hfirst, last, hlast, rfl, hsame, hpath⟩ := hback hcycle
  obtain rfl := hinj hlast hfirst hsame
  exact hacyclic _ hpath

/-- A path that uses a new arrow reaches the arrow's source and goes on from its target. -/
theorem transGen_append_arrow {first last : α}
    (hpath : TransGen (Leads (arrows ++ [(source, target)])) first last) :
    TransGen (Leads arrows) first last ∨
      ReflTransGen (Leads arrows) first source ∧ ReflTransGen (Leads arrows) target last := by
  have hcases {a b : α} (hstep : Leads (arrows ++ [(source, target)]) a b) :
      Leads arrows a b ∨ a = source ∧ b = target := by
    simpa [Leads] using hstep
  induction hpath with
  | single hstep =>
      rcases hcases hstep with hold | ⟨rfl, rfl⟩
      · exact Or.inl (TransGen.single hold)
      · exact Or.inr ⟨ReflTransGen.refl, ReflTransGen.refl⟩
  | tail _ hstep ih =>
      rcases hcases hstep with hold | ⟨rfl, rfl⟩
      · rcases ih with hpath | ⟨hbefore, hafter⟩
        · exact Or.inl (hpath.tail hold)
        · exact Or.inr ⟨hbefore, hafter.tail hold⟩
      · rcases ih with hpath | ⟨hbefore, -⟩
        · exact Or.inr ⟨hpath.to_reflTransGen, ReflTransGen.refl⟩
        · exact Or.inr ⟨hbefore, ReflTransGen.refl⟩

/-- One more arrow keeps a graph free of cycles exactly when there is no path back. -/
theorem acyclic_append_arrow_iff :
    Acyclic (arrows ++ [(source, target)]) ↔
      Acyclic arrows ∧ ¬ ReflTransGen (Leads arrows) target source := by
  have hgrow : ∀ a b, Leads arrows a b → Leads (arrows ++ [(source, target)]) a b :=
    fun a b hstep => List.mem_append_left _ hstep
  constructor
  · refine fun hacyclic => ⟨hacyclic.of_subset (List.subset_append_left _ _), fun hback => ?_⟩
    have harrow : Leads (arrows ++ [(source, target)]) source target := by simp [Leads]
    exact hacyclic source (TransGen.head' harrow (ReflTransGen.mono hgrow _ _ hback))
  · rintro ⟨hacyclic, hback⟩ point hcycle
    rcases transGen_append_arrow hcycle with hold | ⟨hbefore, hafter⟩
    · exact hacyclic point hold
    · exact hback (hafter.trans hbefore)

/-- Finitely many arrows without a cycle are well-founded. -/
theorem Acyclic.wellFounded (hacyclic : Acyclic arrows) : WellFounded (Leads arrows) := by
  let points : Set α := {point | point ∈ arrows.flatMap fun arrow => [arrow.1, arrow.2]}
  have hstrict : IsStrictOrder α (TransGen (Leads arrows)) := { irrefl := hacyclic }
  have hfinite : points.Finite := List.finite_toSet _
  have hpoints : points.WellFoundedOn (TransGen (Leads arrows)) := hfinite.wellFoundedOn
  refine Subrelation.wf ?_ (Set.wellFoundedOn_iff.mp hpoints)
  intro a b hstep
  refine ⟨TransGen.single hstep, ?_, ?_⟩ <;>
    exact List.mem_flatMap.mpr ⟨(a, b), hstep, by simp⟩

/-- What a cycle leads to is entered from a point that a cycle leads to. -/
theorem BehindCycle.exists_before {point : α} (hbehind : BehindCycle arrows point) :
    ∃ before, Leads arrows before point ∧ BehindCycle arrows before := by
  obtain ⟨turn, hcycle, hpath⟩ := hbehind
  rcases hpath.cases_tail with rfl | ⟨before, hpath, hstep⟩
  · obtain ⟨before, hpath, hstep⟩ := TransGen.tail'_iff.mp hcycle
    exact ⟨before, hstep, point, hcycle, hpath⟩
  · exact ⟨before, hstep, turn, hcycle, hpath⟩

theorem BehindCycle.not_acc {point : α} (hbehind : BehindCycle arrows point) :
    ¬ Acc (Leads arrows) point := by
  intro haccessible
  induction haccessible with
  | intro point _ ih =>
      obtain ⟨before, hstep, hbefore⟩ := hbehind.exists_before
      exact ih before hstep hbefore

/-- A point that no cycle leads to is accessible: the arrows on the way to it have no cycle. -/
theorem acc_of_not_behindCycle {point : α} (hbehind : ¬ BehindCycle arrows point) :
    Acc (Leads arrows) point := by
  classical
  let onTheWay := arrows.filter fun arrow => ReflTransGen (Leads arrows) arrow.2 point
  have hkept {a b : α} (hstep : Leads onTheWay a b) :
      Leads arrows a b ∧ ReflTransGen (Leads arrows) b point := by
    simpa [onTheWay, Leads] using hstep
  have hacyclic : Acyclic onTheWay := by
    intro turn hcycle
    obtain ⟨before, -, hstep⟩ := TransGen.tail'_iff.mp hcycle
    exact hbehind ⟨turn, hcycle.lift id fun _ _ hstep => (hkept hstep).1, (hkept hstep).2⟩
  have hback : ∀ start, ReflTransGen (Leads arrows) start point → Acc (Leads arrows) start := by
    intro start
    induction start using hacyclic.wellFounded.induction with
    | _ start ih =>
        intro hpath
        refine Acc.intro start fun before hstep => ih before ?_ (hpath.head hstep)
        exact List.mem_filter.mpr ⟨hstep, decide_eq_true hpath⟩
  exact hback point ReflTransGen.refl

/-- Along finitely many arrows, what is not accessible is what a cycle leads to. -/
theorem not_acc_iff_behindCycle {point : α} :
    ¬ Acc (Leads arrows) point ↔ BehindCycle arrows point :=
  ⟨fun hcyclic => by_contra fun hnone => hcyclic (acc_of_not_behindCycle hnone),
    BehindCycle.not_acc⟩

theorem acyclic_iff_forall_not_behindCycle :
    Acyclic arrows ↔ ∀ point, ¬ BehindCycle arrows point := by
  constructor
  · rintro hacyclic point ⟨turn, hcycle, -⟩
    exact hacyclic turn hcycle
  · intro hnone point hcycle
    exact hnone point ⟨point, hcycle, ReflTransGen.refl⟩

/-- Walking backwards along well-founded arrows ends at a point that nothing leads to. -/
theorem exists_root {r : α → α → Prop} (hwf : WellFounded r) (point : α) :
    ∃ root, (∀ before, ¬ r before root) ∧ ReflTransGen r root point := by
  induction point using hwf.induction with
  | _ point ih =>
      by_cases hbefore : ∃ before, r before point
      · obtain ⟨before, hstep⟩ := hbefore
        obtain ⟨root, hroot, hpath⟩ := ih before hstep
        exact ⟨root, hroot, hpath.tail hstep⟩
      · exact ⟨point, not_exists.mp hbefore, ReflTransGen.refl⟩

end FlowGraph.Arrows
