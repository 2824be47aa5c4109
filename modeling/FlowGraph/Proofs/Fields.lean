/-
# Looking up what was stored

A mapping is a list of pairs in which the first pair of a key counts, and storing keeps that pair
unique only for the keys that storing itself brought in. The lemmas here therefore speak of
look-ups, not of the lists: what a look-up finds after one store, after a row of stores, and in a
mapping whose keys are distinct. Building a mapping lists each key once, in its first place, which
is also what listing texts without repeats comes to.
-/

import FlowGraph.Document.Basic
import Mathlib.Data.List.Nodup

namespace FlowGraph.Fields

universe u v

variable {α : Type u} {β : Type v}

@[simp]
theorem get?_nil (key : String) : get? ([] : Fields α) key = none := rfl

theorem get?_cons (pair : String × α) (rest : Fields α) (key : String) :
    get? (pair :: rest) key = if pair.1 = key then some pair.2 else get? rest key := rfl

/-- Storing decides the look-up of its own key and of no other. -/
theorem get?_set (fields : Fields α) (name key : String) (held : α) :
    get? (set fields name held) key = if name = key then some held else get? fields key := by
  induction fields with
  | nil => rfl
  | cons pair rest ih =>
      obtain ⟨other, old⟩ := pair
      by_cases hother : other = name
      · subst hother
        by_cases hkey : other = key <;> simp [set, get?_cons, hkey]
      · rw [set, if_neg hother, get?_cons, get?_cons, ih]
        by_cases hkey : other = key
        · have hname : name ≠ key := fun hsame => hother (hkey.trans hsame.symm)
          simp [hkey, hname]
        · simp [hkey]

theorem get?_append (front back : Fields α) (key : String) :
    get? (front ++ back) key = (get? front key).or (get? back key) := by
  induction front with
  | nil => simp
  | cons pair rest ih =>
      by_cases hkey : pair.1 = key <;> simp [get?_cons, hkey, ih]

/-- After a row of stores the last pair of a key counts, and what was there before only if there
is none. -/
theorem get?_setAll (fields pairs : Fields α) (key : String) :
    get? (setAll fields pairs) key = (get? pairs.reverse key).or (get? fields key) := by
  induction pairs generalizing fields with
  | nil => simp [setAll]
  | cons pair rest ih =>
      rw [setAll, List.foldl_cons, ← setAll, ih, List.reverse_cons, get?_append, get?_set,
        get?_cons]
      by_cases hkey : pair.1 = key
      · cases get? rest.reverse key <;> simp [hkey]
      · simp [hkey]

theorem get?_ofPairs (pairs : Fields α) (key : String) :
    get? (ofPairs pairs) key = get? pairs.reverse key := by
  rw [ofPairs, get?_setAll, get?_nil, Option.or_none]

theorem mem_of_get? {fields : Fields α} {key : String} {held : α}
    (hfound : get? fields key = some held) : (key, held) ∈ fields := by
  induction fields with
  | nil => simp at hfound
  | cons pair rest ih =>
      rw [get?_cons] at hfound
      by_cases hkey : pair.1 = key
      · rw [if_pos hkey, Option.some.injEq] at hfound
        exact List.mem_cons.mpr (Or.inl (Prod.ext hkey.symm hfound.symm))
      · rw [if_neg hkey] at hfound
        exact List.mem_cons_of_mem _ (ih hfound)

theorem get?_eq_none_iff {fields : Fields α} {key : String} :
    get? fields key = none ↔ key ∉ keys fields := by
  induction fields with
  | nil => simp [keys]
  | cons pair rest ih =>
      by_cases hkey : pair.1 = key
      · simp [get?_cons, keys, hkey]
      · have hkey' : key ≠ pair.1 := fun hsame => hkey hsame.symm
        rw [get?_cons, if_neg hkey, ih]
        simp [keys, hkey']

@[simp]
theorem keys_mapValues (f : α → β) (fields : Fields α) :
    keys (mapValues f fields) = keys fields := by
  simp [keys, mapValues, Function.comp_def]

theorem get?_mapValues (f : α → β) (fields : Fields α) (key : String) :
    get? (mapValues f fields) key = (get? fields key).map f := by
  induction fields with
  | nil => rfl
  | cons pair rest ih =>
      rw [mapValues, List.map_cons, ← mapValues, get?_cons, get?_cons, ih]
      by_cases hkey : pair.1 = key <;> simp [hkey]

theorem get?_ofPairs_mapValues (f : α → β) (pairs : Fields α) (key : String) :
    get? (ofPairs (mapValues f pairs)) key = (get? (ofPairs pairs) key).map f := by
  rw [get?_ofPairs, get?_ofPairs, ← get?_mapValues, mapValues, mapValues, List.map_reverse]

/-- A look-up in the pairs whose keys pass a test. -/
theorem get?_filter_keys (p : String → Bool) (fields : Fields α) (key : String) :
    get? (fields.filter fun pair => p pair.1) key = if p key then get? fields key else none := by
  induction fields with
  | nil => simp
  | cons pair rest ih =>
      by_cases hkey : pair.1 = key
      · by_cases hkept : p key <;> simp [get?_cons, hkey, hkept, ih]
      · by_cases hkept : p pair.1 <;> simp [get?_cons, hkey, hkept, ih]

theorem get?_erase_of_ne {fields : Fields α} {name key : String} (hne : name ≠ key) :
    get? (erase fields name) key = get? fields key := by
  rw [erase, get?_filter_keys (fun other => other ≠ name), if_pos (by simpa using hne.symm)]

/-- With distinct keys the order of the pairs does not matter to a look-up. -/
theorem get?_eq_some_iff_mem {fields : Fields α} (hkeys : (keys fields).Nodup) {key : String}
    {held : α} : get? fields key = some held ↔ (key, held) ∈ fields := by
  refine ⟨mem_of_get?, fun hmem => ?_⟩
  induction fields with
  | nil => simp at hmem
  | cons pair rest ih =>
      obtain ⟨hfresh, hrest⟩ := List.nodup_cons.mp hkeys
      rw [get?_cons]
      rcases List.mem_cons.mp hmem with hhead | htail
      · rw [← hhead, if_pos rfl]
      · have hkey : pair.1 ≠ key := by
          rintro rfl
          exact hfresh (List.mem_map.mpr ⟨_, htail, rfl⟩)
        rw [if_neg hkey, ih hrest htail]

/-- Storing pairs with distinct keys decides the look-up of these keys and of no others. -/
theorem get?_setAll_of_nodup {pairs : Fields α} (hkeys : (keys pairs).Nodup) (fields : Fields α)
    (key : String) : get? (setAll fields pairs) key = (get? pairs key).or (get? fields key) := by
  have hreverse : (keys pairs.reverse).Nodup := by
    simpa [keys] using hkeys
  have hsame : get? pairs.reverse key = get? pairs key := by
    ext held
    rw [get?_eq_some_iff_mem hreverse, get?_eq_some_iff_mem hkeys, List.mem_reverse]
  rw [get?_setAll, hsame]

/-- Building a mapping from pairs with distinct keys loses none of them. -/
theorem get?_ofPairs_eq_some_iff_mem {pairs : Fields α} (hkeys : (keys pairs).Nodup)
    {key : String} {held : α} : get? (ofPairs pairs) key = some held ↔ (key, held) ∈ pairs := by
  rw [ofPairs, get?_setAll_of_nodup hkeys, get?_nil, Option.or_none, get?_eq_some_iff_mem hkeys]

theorem keys_set (fields : Fields α) (name : String) (held : α) :
    keys (set fields name held) =
      if name ∈ keys fields then keys fields else keys fields ++ [name] := by
  induction fields with
  | nil => rfl
  | cons pair rest ih =>
      obtain ⟨other, old⟩ := pair
      simp only [keys, List.map_cons] at ih ⊢
      by_cases hother : other = name
      · simp [set, hother]
      · have hname : name ≠ other := fun hsame => hother hsame.symm
        rw [set, if_neg hother, List.map_cons, ih]
        by_cases hrest : name ∈ rest.map Prod.fst <;> simp [hname, hrest]

theorem nodup_keys_set {fields : Fields α} (hkeys : (keys fields).Nodup) (name : String)
    (held : α) : (keys (set fields name held)).Nodup := by
  rw [keys_set]
  by_cases hmem : name ∈ keys fields
  · rwa [if_pos hmem]
  · rw [if_neg hmem]
    simpa using hkeys.concat hmem

/-- A mapping built from pairs holds every key once. -/
theorem nodup_keys_ofPairs (pairs : Fields α) : (keys (ofPairs pairs)).Nodup := by
  have hstored (fields : Fields α) (hkeys : (keys fields).Nodup) :
      (keys (setAll fields pairs)).Nodup := by
    induction pairs generalizing fields with
    | nil => exact hkeys
    | cons pair rest ih => exact ih _ (nodup_keys_set hkeys _ _)
  exact hstored [] List.nodup_nil

theorem mem_keys_ofPairs_iff {pairs : Fields α} {key : String} :
    key ∈ keys (ofPairs pairs) ↔ key ∈ keys pairs := by
  have habsent : key ∉ keys (ofPairs pairs) ↔ key ∉ keys pairs.reverse := by
    rw [← get?_eq_none_iff, ← get?_eq_none_iff, get?_ofPairs]
  simpa [keys] using not_iff_not.mp habsent

/-- Storing what is there already changes nothing. -/
theorem set_eq_self {fields : Fields α} {name : String} {held : α}
    (hfound : get? fields name = some held) : set fields name held = fields := by
  induction fields with
  | nil => simp at hfound
  | cons pair rest ih =>
      obtain ⟨other, old⟩ := pair
      rw [get?_cons] at hfound
      by_cases hother : other = name
      · obtain rfl : old = held := by simpa [hother] using hfound
        simp [set, hother]
      · rw [set, if_neg hother, ih (by simpa [hother] using hfound)]

/-- Of two stores under one key the last counts. -/
theorem set_set (fields : Fields α) (name : String) (first second : α) :
    set (set fields name first) name second = set fields name second := by
  induction fields with
  | nil => simp [set]
  | cons pair rest ih =>
      obtain ⟨other, old⟩ := pair
      by_cases hother : other = name
      · simp [set, hother]
      · simp [set, hother, ih]

/-- Storing pairs that are there already changes nothing. -/
theorem setAll_eq_self {fields pairs : Fields α}
    (hheld : ∀ pair ∈ pairs, get? fields pair.1 = some pair.2) : setAll fields pairs = fields := by
  induction pairs with
  | nil => rfl
  | cons pair rest ih =>
      rw [setAll, List.foldl_cons, set_eq_self (hheld pair List.mem_cons_self)]
      exact ih fun other hother => hheld other (List.mem_cons_of_mem _ hother)

/-- Storing pairs with distinct keys a second time changes nothing. -/
theorem setAll_setAll {pairs : Fields α} (hkeys : (keys pairs).Nodup) (fields : Fields α) :
    setAll (setAll fields pairs) pairs = setAll fields pairs := by
  apply setAll_eq_self
  intro pair hpair
  rw [get?_setAll_of_nodup hkeys, (get?_eq_some_iff_mem hkeys).mpr hpair, Option.some_or]

theorem set_eq_append {fields : Fields α} {name : String} (hname : name ∉ keys fields)
    (held : α) : set fields name held = fields ++ [(name, held)] := by
  induction fields with
  | nil => rfl
  | cons pair rest ih =>
      obtain ⟨other, old⟩ := pair
      obtain ⟨hne, hrest⟩ : name ≠ other ∧ name ∉ keys rest := by simpa [keys] using hname
      rw [set, if_neg hne.symm, ih hrest, List.cons_append]

/-- Pairs with distinct keys are a mapping already. -/
theorem ofPairs_eq_self {pairs : Fields α} (hkeys : (keys pairs).Nodup) :
    ofPairs pairs = pairs := by
  have hstored (front back : Fields α) (hdistinct : (keys (front ++ back)).Nodup) :
      setAll front back = front ++ back := by
    induction back generalizing front with
    | nil => simp [setAll]
    | cons pair rest ih =>
        have hassoc : front ++ pair :: rest = front ++ [(pair.1, pair.2)] ++ rest := by simp
        have hfresh : pair.1 ∉ keys front := by
          simp only [keys, List.map_append, List.map_cons] at hdistinct
          intro hmem
          exact List.disjoint_of_nodup_append hdistinct hmem List.mem_cons_self
        rw [setAll, List.foldl_cons, ← setAll, set_eq_append hfresh, ih _ (hassoc ▸ hdistinct),
          hassoc]
  simpa [ofPairs] using hstored [] pairs hkeys

theorem get?_map_pair (value : String → α) (ids : List String) (key : String) :
    get? (ids.map fun id => (id, value id)) key = if key ∈ ids then some (value key) else none := by
  induction ids with
  | nil => rfl
  | cons id rest ih =>
      rw [List.map_cons, get?_cons, ih]
      by_cases hid : id = key
      · simp [hid]
      · simp [hid, Ne.symm hid]

/-- When what a key holds is a function of the key, repeats among the pairs do no harm. -/
theorem get?_ofPairs_map (value : String → α) (ids : List String) {key : String}
    (hmem : key ∈ ids) :
    get? (ofPairs (ids.map fun id => (id, value id))) key = some (value key) := by
  rw [get?_ofPairs, ← List.map_reverse, get?_map_pair, if_pos (List.mem_reverse.mpr hmem)]

/-! ## Listing each key once -/

/-- A mapping built from pairs has their keys, each in its first place. -/
theorem keys_ofPairs (pairs : Fields α) :
    keys (ofPairs pairs) = Document.distinct (keys pairs) := by
  have hstored (fields : Fields α) :
      keys (setAll fields pairs) =
        (keys pairs).foldl (fun seen id => if seen.contains id then seen else seen ++ [id])
          (keys fields) := by
    induction pairs generalizing fields with
    | nil => rfl
    | cons pair rest ih =>
        have hset : keys (set fields pair.1 pair.2) =
            if (keys fields).contains pair.1 then keys fields else keys fields ++ [pair.1] := by
          rw [keys_set]
          by_cases hmem : pair.1 ∈ keys fields <;> simp [hmem]
        rw [setAll, List.foldl_cons, ← setAll, ih, hset]
        rfl
  exact hstored []

/-- Where what a key holds is a function of the key, building a mapping only drops repeats. -/
theorem ofPairs_map (value : String → α) (ids : List String) :
    ofPairs (ids.map fun id => (id, value id)) =
      (Document.distinct ids).map fun id => (id, value id) := by
  have hkeys : keys (ids.map fun id => (id, value id)) = ids := by simp [keys, Function.comp_def]
  have hpairs : ∀ pair ∈ ofPairs (ids.map fun id => (id, value id)),
      (pair.1, value pair.1) = pair := by
    intro pair hpair
    have hmem := mem_keys_ofPairs_iff.mp (List.mem_map_of_mem (f := Prod.fst) hpair)
    have hheld := get?_ofPairs_map value ids (hkeys ▸ hmem)
    rw [(get?_eq_some_iff_mem (nodup_keys_ofPairs _)).mpr hpair] at hheld
    exact Prod.ext rfl (Option.some.inj hheld).symm
  conv_rhs => rw [← hkeys, ← keys_ofPairs, keys, List.map_map]
  exact ((List.map_congr_left hpairs).trans (List.map_id _)).symm

end FlowGraph.Fields

namespace FlowGraph.Document

theorem distinct_eq_keys (ids : List String) :
    distinct ids = Fields.keys (Fields.ofPairs (ids.map fun id => (id, ()))) := by
  rw [Fields.keys_ofPairs]
  simp [Fields.keys, Function.comp_def]

theorem mem_distinct_iff {ids : List String} {id : String} : id ∈ distinct ids ↔ id ∈ ids := by
  rw [distinct_eq_keys, Fields.mem_keys_ofPairs_iff]
  simp [Fields.keys]

theorem nodup_distinct (ids : List String) : (distinct ids).Nodup := by
  rw [distinct_eq_keys]
  exact Fields.nodup_keys_ofPairs _

/-- Leaving out repeats leaves nothing out altogether. -/
theorem distinct_eq_nil_iff {ids : List String} : distinct ids = [] ↔ ids = [] := by
  simp only [List.eq_nil_iff_forall_not_mem, mem_distinct_iff]

end FlowGraph.Document
