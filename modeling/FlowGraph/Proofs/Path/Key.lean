/-
# The key of a path

A path reads a key if it is the key, or the key with a dot and anything behind it, and then the key
is what the path is reduced to. Behind the key indexes may stand, any number of them, and a path is
reduced to the key without its last index: one is dropped, and every other one stays in what is
taken for the key. Reducing once more drops one more. So the reduction is settled exactly if no
index is left, which this module tells from the path itself: an index is left if another one comes
after it, or blanks that are only trimmed when the index has already been passed.
-/

import FlowGraph.Binding.Path
import FlowGraph.Proofs.Trim
import Mathlib.Logic.Function.Iterate

namespace FlowGraph.Path

open FlowGraph.Text

/-! ## Keys -/

/-- A key as paths can spell it: without dots, brackets, and blanks at its ends. -/
structure IsKey (key : String) : Prop where
  ne_empty : key ≠ ""
  trimmed : trim key = key
  chars : key.toList.all isIdChar = true

/-- The path reads the key, or something inside of what the key holds. -/
def ReadsKey (path key : String) : Prop := path = key ∨ ∃ rest, path = key ++ "." ++ rest

instance (key : String) : Decidable (IsKey key) :=
  decidable_of_iff (key ≠ "" ∧ trim key = key ∧ key.toList.all isIdChar = true)
    ⟨fun hkey => ⟨hkey.1, hkey.2.1, hkey.2.2⟩, fun hkey => ⟨hkey.1, hkey.2, hkey.3⟩⟩

theorem ReadsKey.refl (key : String) : ReadsKey key key := .inl rfl

/-- Without a bracket there is no index to drop. -/
theorem dropIndex_eq_self {cs : List Char} (htrimmed : Trimmed cs) (hbracket : ']' ∉ cs) :
    dropIndex cs = cs := by
  have hline : cs.getLast? ≠ some '\n' := by
    intro hlast
    exact absurd (htrimmed.2 '\n' hlast) (by decide)
  rw [dropIndex, if_neg hline, dropIndexAtEnd]
  split
  · next rest hreverse =>
    refine absurd ?_ hbracket
    rw [← List.mem_reverse, hreverse]
    exact List.mem_cons_self
  · rfl

variable {key path : String}

theorem IsKey.ne_dot (hkey : IsKey key) {c : Char} (hc : c ∈ key.toList) : c ≠ '.' := by
  rintro rfl
  exact absurd (List.all_eq_true.mp hkey.chars '.' hc) (by decide)

theorem IsKey.not_mem_bracket (hkey : IsKey key) : ']' ∉ key.toList := by
  intro hbracket
  exact absurd (List.all_eq_true.mp hkey.chars ']' hbracket) (by decide)

/-- What stands before the first dot of a path is what the path reads, if that has neither dots nor
blanks at its ends. -/
theorem ReadsKey.headSegment_eq (hpath : ReadsKey path key) (htrimmed : Trimmed key.toList)
    (hdots : ∀ c ∈ key.toList, c ≠ '.') : headSegment (trimChars path.toList) = key.toList := by
  have hchars : ∀ c ∈ key.toList, decide (c ≠ '.') = true := fun c hc =>
    decide_eq_true (hdots c hc)
  obtain rfl | ⟨rest, rfl⟩ := hpath
  · rw [trimChars_eq_self htrimmed, headSegment, List.takeWhile_eq_self_iff.mpr hchars]
  · have hsplit : (key ++ "." ++ rest).toList = key.toList ++ '.' :: rest.toList := by simp
    have hhead : ∀ c ∈ (key.toList ++ '.' :: rest.toList).head?, isBlank c = false := by
      intro c hc
      rw [List.head?_append] at hc
      cases hfirst : key.toList.head? with
      | none =>
          obtain rfl : '.' = c := by simpa [hfirst] using hc
          rfl
      | some first =>
          obtain rfl : first = c := by simpa [hfirst] using hc
          exact htrimmed.1 first hfirst
    rw [hsplit, trimChars, trimStart_eq_self hhead, trimEnd_append_cons (by decide), headSegment,
      List.takeWhile_append_of_pos hchars, List.takeWhile_cons_of_neg (by decide), List.append_nil]

/-- A path that reads a key has it as its first key. -/
theorem IsKey.firstKey_eq (hkey : IsKey key) (hpath : ReadsKey path key) : firstKey path = key := by
  have htrimmed := trim_eq_self_iff.mp hkey.trimmed
  rw [firstKey, hpath.headSegment_eq htrimmed fun c hc => hkey.ne_dot hc,
    dropIndex_eq_self htrimmed hkey.not_mem_bracket, trimChars_eq_self htrimmed,
    String.ofList_toList]

/-! ## Indexes -/

/-- An index of a path: decimal digits of any script, in brackets. -/
structure Index where
  digits : List Char
  digits_ne_nil : digits ≠ []
  isDigit_of_mem : ∀ c ∈ digits, isDigit c = true

/-- The index as it is written. -/
def Index.chars (index : Index) : List Char := '[' :: (index.digits ++ [']'])

/-- The characters end in an index. -/
def EndsInIndex (cs : List Char) : Prop := ∃ front index, cs = front ++ Index.chars index

variable {cs front blanks : List Char}

theorem getLast?_append_index (front : List Char) (index : Index) :
    (front ++ index.chars).getLast? = some ']' := by
  simp [Index.chars, List.getLast?_cons]

/-- The index at the very end is dropped. -/
theorem dropIndexAtEnd_append (front : List Char) (index : Index) :
    dropIndexAtEnd (front ++ index.chars) = front := by
  have hreverse : (front ++ index.chars).reverse =
      ']' :: (index.digits.reverse ++ '[' :: front.reverse) := by simp [Index.chars]
  have hdigits : ∀ c ∈ index.digits.reverse, isDigit c = true := fun c hc =>
    index.isDigit_of_mem c (List.mem_reverse.mp hc)
  have htake : (index.digits.reverse ++ '[' :: front.reverse).takeWhile isDigit =
      index.digits.reverse := by
    rw [List.takeWhile_append_of_pos hdigits, List.takeWhile_cons_of_neg (by decide),
      List.append_nil]
  have hdrop : (index.digits.reverse ++ '[' :: front.reverse).dropWhile isDigit =
      '[' :: front.reverse := by
    rw [List.dropWhile_append_of_pos hdigits, List.dropWhile_cons_of_neg (by decide)]
  obtain ⟨c, rest, hsome⟩ := List.exists_cons_of_ne_nil
    (mt List.reverse_eq_nil_iff.mp index.digits_ne_nil)
  rw [dropIndexAtEnd, hreverse]
  simp only [htake.trans hsome, hdrop, List.reverse_reverse]

/-- What is dropped at the end is an index, or nothing. -/
theorem dropIndexAtEnd_cases (cs : List Char) :
    (∃ index : Index, cs = dropIndexAtEnd cs ++ index.chars) ∨ dropIndexAtEnd cs = cs := by
  rw [dropIndexAtEnd]
  split
  · rename_i rest hreverse
    split
    · rename_i c digits front htake hdrop
      have hdigits : ∀ d ∈ (c :: digits).reverse, isDigit d = true := fun d hd =>
        List.mem_takeWhile_imp (htake ▸ List.mem_reverse.mp hd)
      refine Or.inl ⟨⟨(c :: digits).reverse, by simp, hdigits⟩, ?_⟩
      have hrest : rest = c :: digits ++ '[' :: front := by
        rw [← htake, ← hdrop, List.takeWhile_append_dropWhile]
      rw [← List.reverse_inj, hreverse, hrest]
      simp [Index.chars]
    · exact Or.inr rfl
  · exact Or.inr rfl

theorem dropIndexAtEnd_eq_self_iff : dropIndexAtEnd cs = cs ↔ ¬EndsInIndex cs := by
  constructor
  · rintro hself ⟨front, index, rfl⟩
    rw [dropIndexAtEnd_append] at hself
    have hlength := congrArg List.length hself
    simp [Index.chars] at hlength
  · intro hnone
    rcases dropIndexAtEnd_cases cs with ⟨index, hindex⟩ | hself
    · exact absurd ⟨_, index, hindex⟩ hnone
    · exact hself

theorem dropIndex_line (cs : List Char) :
    dropIndex (cs ++ ['\n']) = dropIndexAtEnd cs ++ ['\n'] := by
  simp [dropIndex]

theorem dropIndex_of_getLast? (hline : cs.getLast? ≠ some '\n') :
    dropIndex cs = dropIndexAtEnd cs := if_neg hline

theorem dropIndex_append (front : List Char) (index : Index) :
    dropIndex (front ++ index.chars) = front := by
  have hline : (front ++ index.chars).getLast? ≠ some '\n' := by
    rw [getLast?_append_index]
    decide
  rw [dropIndex_of_getLast? hline, dropIndexAtEnd_append]

/-! ## What is settled -/

/-- The segment has an index that is not dropped: another one follows it, with blanks between them
or none, or only blanks follow. A single line break at the very end hides nothing. -/
inductive KeepsIndex : List Char → Prop
  | followed (front : List Char) (index : Index) {blanks : List Char} (last : Index)
      (hblanks : ∀ c ∈ blanks, isBlank c = true) :
      KeepsIndex (front ++ index.chars ++ blanks ++ last.chars)
  | followedOnLine (front : List Char) (index : Index) {blanks : List Char} (last : Index)
      (hblanks : ∀ c ∈ blanks, isBlank c = true) :
      KeepsIndex (front ++ index.chars ++ blanks ++ last.chars ++ ['\n'])
  | padded (front : List Char) (index : Index) {blanks : List Char}
      (hblanks : ∀ c ∈ blanks, isBlank c = true) (hsome : blanks ≠ []) (hline : blanks ≠ ['\n']) :
      KeepsIndex (front ++ index.chars ++ blanks)

/-- The characters end in an index with blanks behind it, or with none. -/
def EndsInBlankedIndex (cs : List Char) : Prop :=
  ∃ front index blanks, cs = front ++ Index.chars index ++ blanks ∧ ∀ c ∈ blanks, isBlank c = true

/-- After trimming an index is at the end if before only blanks were behind it. -/
theorem endsInIndex_trimChars_iff : EndsInIndex (trimChars cs) ↔ EndsInBlankedIndex cs := by
  constructor
  · rintro ⟨front, index, htrimmed⟩
    obtain ⟨before, after, hcs, -, hafter⟩ := exists_eq_append_trimChars cs
    refine ⟨before ++ front, index, after, ?_, hafter⟩
    rw [hcs, htrimmed]
    simp
  · rintro ⟨front, index, blanks, rfl, hblanks⟩
    have hchars : front ++ index.chars ++ blanks =
        front ++ '[' :: (index.digits ++ ']' :: blanks) := by simp [Index.chars]
    have hnone : trimEnd blanks = [] := by
      rw [trimEnd, List.dropWhile_eq_nil_iff.mpr fun c hc => hblanks c (List.mem_reverse.mp hc),
        List.reverse_nil]
    refine ⟨trimStart front, index, ?_⟩
    rw [trimChars, hchars, trimStart_append_cons (by decide), ← List.cons_append,
      ← List.append_assoc, trimEnd_append_cons (by decide), hnone]
    simp [Index.chars]

theorem getLast?_append_blanks (front : List Char) (hblanks : ∀ c ∈ blanks, isBlank c = true)
    (hsome : blanks ≠ []) : ∃ c, (front ++ blanks).getLast? = some c ∧ isBlank c = true := by
  obtain ⟨c, hc⟩ := Option.isSome_iff_exists.mp (List.getLast?_isSome.mpr hsome)
  refine ⟨c, ?_, hblanks c (List.mem_of_getLast? hc)⟩
  rw [List.getLast?_append, hc, Option.some_or]

/-- Behind an index blanks hide it. -/
theorem dropIndexAtEnd_append_blanks (front : List Char)
    (hblanks : ∀ c ∈ blanks, isBlank c = true) (hsome : blanks ≠ []) :
    dropIndexAtEnd (front ++ blanks) = front ++ blanks := by
  refine dropIndexAtEnd_eq_self_iff.mpr ?_
  rintro ⟨rest, index, hends⟩
  obtain ⟨c, hlast, hblank⟩ := getLast?_append_blanks front hblanks hsome
  rw [hends, getLast?_append_index] at hlast
  cases hlast
  exact absurd hblank (by decide)

/-- Blanks behind an index hide it, all but a single line break. -/
theorem dropIndex_append_blanks (front : List Char) (hblanks : ∀ c ∈ blanks, isBlank c = true)
    (hsome : blanks ≠ []) (hline : blanks ≠ ['\n']) :
    dropIndex (front ++ blanks) = front ++ blanks := by
  by_cases hlast : (front ++ blanks).getLast? = some '\n'
  · obtain ⟨c, hc⟩ := Option.isSome_iff_exists.mp (List.getLast?_isSome.mpr hsome)
    rw [List.getLast?_append, hc] at hlast
    cases hlast
    obtain ⟨more, rfl⟩ := List.getLast?_eq_some_iff.mp hc
    have hmore : more ≠ [] := by
      rintro rfl
      exact hline rfl
    rw [← List.append_assoc, dropIndex_line, dropIndexAtEnd_append_blanks front
      (fun c hc => hblanks c (List.mem_append_left _ hc)) hmore]
  · rw [dropIndex_of_getLast? hlast, dropIndexAtEnd_append_blanks front hblanks hsome]

/-- An index that is still there after dropping is one that the segment keeps. -/
theorem keepsIndex_of_dropIndex (hleft : EndsInBlankedIndex (dropIndex cs)) : KeepsIndex cs := by
  obtain ⟨front, index, blanks, hleft, hblanks⟩ := hleft
  -- an index is dropped in front of a line break at the end, and otherwise only at the very end
  by_cases hline : cs.getLast? = some '\n'
  · obtain ⟨body, rfl⟩ := List.getLast?_eq_some_iff.mp hline
    rw [dropIndex_line] at hleft
    have hsome : blanks ≠ [] := by
      rintro rfl
      have hlast := congrArg List.getLast? hleft
      rw [List.append_nil, getLast?_append_index] at hlast
      simp at hlast
    obtain ⟨more, c, rfl⟩ := (List.eq_nil_or_concat' blanks).resolve_left hsome
    rw [← List.append_assoc] at hleft
    obtain ⟨hbody, hc⟩ := List.append_inj' hleft rfl
    obtain rfl : '\n' = c := List.singleton_inj.mp hc
    rcases dropIndexAtEnd_cases body with ⟨last, hlast⟩ | hself
    · rw [hlast, hbody]
      exact KeepsIndex.followedOnLine front index last fun c hc =>
        hblanks c (List.mem_append_left _ hc)
    · rw [← hself, hbody, List.append_assoc]
      refine KeepsIndex.padded front index hblanks hsome fun hsingle => ?_
      obtain rfl : more = [] := by simpa using hsingle
      rw [List.append_nil] at hbody
      exact dropIndexAtEnd_eq_self_iff.mp hself ⟨front, index, hself.symm.trans hbody⟩
  · rw [dropIndex_of_getLast? hline] at hleft
    rcases dropIndexAtEnd_cases cs with ⟨last, hlast⟩ | hself
    · rw [hlast, hleft]
      exact KeepsIndex.followed front index last hblanks
    · obtain rfl : cs = front ++ index.chars ++ blanks := hself.symm.trans hleft
      refine KeepsIndex.padded front index hblanks ?_ ?_
      · rintro rfl
        exact dropIndexAtEnd_eq_self_iff.mp hself ⟨front, index, List.append_nil _⟩
      · rintro rfl
        exact hline List.getLast?_concat

theorem KeepsIndex.dropIndex (hkeeps : KeepsIndex cs) : EndsInBlankedIndex (dropIndex cs) := by
  cases hkeeps with
  | followed front index last hblanks =>
      rw [dropIndex_append]
      exact ⟨front, index, _, rfl, hblanks⟩
  | followedOnLine front index last hblanks =>
      rw [dropIndex_line, dropIndexAtEnd_append, List.append_assoc _ _ ['\n']]
      refine ⟨front, index, _, rfl, fun c hc => ?_⟩
      rcases List.mem_append.mp hc with hblank | hline
      · exact hblanks c hblank
      · obtain rfl := List.mem_singleton.mp hline
        rfl
  | padded front index hblanks hsome hline =>
      rw [dropIndex_append_blanks _ hblanks hsome hline]
      exact ⟨front, index, _, rfl, hblanks⟩

theorem endsInBlankedIndex_dropIndex_iff : EndsInBlankedIndex (dropIndex cs) ↔ KeepsIndex cs :=
  ⟨keepsIndex_of_dropIndex, KeepsIndex.dropIndex⟩

theorem toList_firstKey (path : String) :
    (firstKey path).toList = trimChars (dropIndex (headSegment (trimChars path.toList))) := by
  rw [firstKey, String.toList_ofList]

theorem dropIndexAtEnd_isPrefix (cs : List Char) : dropIndexAtEnd cs <+: cs := by
  rcases dropIndexAtEnd_cases cs with ⟨index, hindex⟩ | hself
  · exact ⟨index.chars, hindex.symm⟩
  · exact ⟨[], by rw [hself, List.append_nil]⟩

theorem dropIndex_sublist (cs : List Char) : (dropIndex cs).Sublist cs := by
  by_cases hline : cs.getLast? = some '\n'
  · obtain ⟨body, rfl⟩ := List.getLast?_eq_some_iff.mp hline
    rw [dropIndex_line]
    exact (dropIndexAtEnd_isPrefix body).sublist.append_right ['\n']
  · rw [dropIndex_of_getLast? hline]
    exact (dropIndexAtEnd_isPrefix cs).sublist

/-- What a path is reduced to has no dots. -/
theorem ne_dot_of_mem_firstKey {c : Char} (hc : c ∈ (firstKey path).toList) : c ≠ '.' := by
  rw [toList_firstKey] at hc
  have hsegment := (dropIndex_sublist _).subset ((trimChars_sublist _).subset hc)
  rw [headSegment] at hsegment
  simpa using List.mem_takeWhile_imp hsegment

/-- Of a text without dots and without blanks at its ends an index at the end is dropped. -/
theorem toList_firstKey_of_trimmed (htrimmed : Trimmed key.toList)
    (hdots : ∀ c ∈ key.toList, c ≠ '.') :
    (firstKey key).toList = trimChars (dropIndexAtEnd key.toList) := by
  have hline : key.toList.getLast? ≠ some '\n' := fun hlast =>
    absurd (htrimmed.2 '\n' hlast) (by decide)
  rw [toList_firstKey, (ReadsKey.refl key).headSegment_eq htrimmed hdots,
    dropIndex_of_getLast? hline]

theorem firstKey_eq_self_iff (htrimmed : Trimmed key.toList) (hdots : ∀ c ∈ key.toList, c ≠ '.') :
    firstKey key = key ↔ ¬EndsInIndex key.toList := by
  rw [← String.toList_inj, toList_firstKey_of_trimmed htrimmed hdots]
  constructor
  · rintro hself ⟨front, index, hkey⟩
    rw [hkey, dropIndexAtEnd_append] at hself
    have hshorter := (trimChars_sublist front).length_le
    rw [hself] at hshorter
    simp only [Index.chars, List.length_append, List.length_cons] at hshorter
    omega
  · intro hnone
    rw [dropIndexAtEnd_eq_self_iff.mpr hnone, trimChars_eq_self htrimmed]

/-- Reducing a path twice is reducing it once if its first segment keeps no index. -/
theorem firstKey_firstKey_iff (path : String) :
    firstKey (firstKey path) = firstKey path ↔
      ¬KeepsIndex (headSegment (trimChars path.toList)) := by
  have htrimmed : Trimmed (firstKey path).toList := by
    rw [toList_firstKey]
    exact trimmed_trimChars _
  rw [firstKey_eq_self_iff htrimmed fun c hc => ne_dot_of_mem_firstKey hc, toList_firstKey,
    endsInIndex_trimChars_iff, endsInBlankedIndex_dropIndex_iff]

/-! ## Keys with indexes -/

/-- The key with indexes behind it. -/
def indexed (key : String) (indexes : List Index) : String :=
  String.ofList (key.toList ++ indexes.flatMap Index.chars)

@[simp]
theorem indexed_nil (key : String) : indexed key [] = key := by simp [indexed]

variable {indexes : List Index}

theorem Index.ne_dot (index : Index) {c : Char} (hc : c ∈ index.chars) : c ≠ '.' := by
  have hmem : c = '[' ∨ c ∈ index.digits ∨ c = ']' := by simpa [Index.chars] using hc
  rintro rfl
  rcases hmem with hopen | hdigit | hclose
  · cases hopen
  · exact absurd (index.isDigit_of_mem '.' hdigit) (by decide)
  · cases hclose

/-- The key is empty, or one that paths can spell. -/
def IsPlain (key : String) : Prop := key = "" ∨ IsKey key

theorem IsPlain.trimmed (hkey : IsPlain key) : Trimmed key.toList := by
  rcases hkey with rfl | hkey
  · exact ⟨by simp, by simp⟩
  · exact trim_eq_self_iff.mp hkey.trimmed

theorem IsPlain.chars (hkey : IsPlain key) : ∀ c ∈ key.toList, isIdChar c = true := by
  rcases hkey with rfl | hkey
  · simp
  · exact List.all_eq_true.mp hkey.chars

theorem trimmed_indexed (hkey : IsPlain key) (indexes : List Index) :
    Trimmed (indexed key indexes).toList := by
  rw [indexed, String.toList_ofList]
  refine ⟨fun c hc => ?_, fun c hc => ?_⟩
  · rw [List.head?_append] at hc
    cases hfirst : key.toList.head? with
    | some first =>
        obtain rfl : first = c := by simpa [hfirst] using hc
        exact hkey.trimmed.1 first hfirst
    | none =>
        cases indexes with
        | nil => simp [hfirst] at hc
        | cons index rest =>
            obtain rfl : '[' = c := by simpa [hfirst, Index.chars] using hc
            rfl
  · rcases List.eq_nil_or_concat' indexes with rfl | ⟨front, last, rfl⟩
    · exact hkey.trimmed.2 c (by simpa using hc)
    · rw [List.flatMap_append, List.flatMap_singleton, ← List.append_assoc,
        getLast?_append_index] at hc
      cases hc
      rfl

theorem IsPlain.ne_dot_of_mem_indexed (hkey : IsPlain key) {c : Char}
    (hc : c ∈ (indexed key indexes).toList) : c ≠ '.' := by
  rw [indexed, String.toList_ofList] at hc
  rcases List.mem_append.mp hc with hmem | hmem
  · rintro rfl
    exact absurd (hkey.chars '.' hmem) (by decide)
  · obtain ⟨index, -, hindex⟩ := List.mem_flatMap.mp hmem
    exact index.ne_dot hindex

/-- Reducing a path drops the last of the indexes behind its key. -/
theorem firstKey_of_indexed (hkey : IsPlain key) (hpath : ReadsKey path (indexed key indexes)) :
    firstKey path = indexed key indexes.dropLast := by
  have hsegment := hpath.headSegment_eq (trimmed_indexed hkey indexes)
    fun c hc => hkey.ne_dot_of_mem_indexed hc
  rw [← String.toList_inj, toList_firstKey, hsegment]
  rcases List.eq_nil_or_concat' indexes with rfl | ⟨front, last, rfl⟩
  · have hbracket : ']' ∉ key.toList := fun hmem => absurd (hkey.chars ']' hmem) (by decide)
    rw [List.dropLast_nil, indexed_nil, dropIndex_eq_self hkey.trimmed hbracket,
      trimChars_eq_self hkey.trimmed]
  · have hchars : (indexed key (front ++ [last])).toList =
        (indexed key front).toList ++ last.chars := by simp [indexed]
    rw [List.dropLast_concat, hchars, dropIndex_append,
      trimChars_eq_self (trimmed_indexed hkey front)]

/-- Reducing it again and again drops one after another. -/
theorem iterate_firstKey_of_indexed (hkey : IsPlain key)
    (hpath : ReadsKey path (indexed key indexes)) (n : Nat) :
    firstKey^[n + 1] path = indexed key (indexes.take (indexes.length - (n + 1))) := by
  induction n with
  | zero => rw [Function.iterate_one, firstKey_of_indexed hkey hpath, List.dropLast_eq_take]
  | succ n ih =>
      rw [Function.iterate_succ_apply', ih, firstKey_of_indexed hkey (ReadsKey.refl _),
        List.dropLast_eq_take, List.take_take, List.length_take]
      congr 2
      omega

theorem indexed_eq_self_iff : indexed key indexes = key ↔ indexes = [] := by
  constructor
  · intro hself
    have hchars : indexes.flatMap Index.chars = [] := by
      rw [← String.toList_inj, indexed, String.toList_ofList] at hself
      exact List.append_right_eq_self.mp hself
    cases indexes with
    | nil => rfl
    | cons index rest => simp [Index.chars] at hchars
  · rintro rfl
    exact indexed_nil key

/-- Reducing a path is settled exactly if its first segment keeps no index. A path that has indexes
behind its key is reduced to the key with all of them but the last; that is the key exactly if there
is just one, and in general it takes as many reductions as there are indexes. -/
theorem firstKey_drops_one_index (path : String) :
    (firstKey (firstKey path) = firstKey path ↔
        ¬KeepsIndex (headSegment (trimChars path.toList))) ∧
      ∀ key indexes, IsPlain key → indexes ≠ [] → ReadsKey path (indexed key indexes) →
        firstKey path = indexed key indexes.dropLast ∧
          (firstKey path = key ↔ indexes.length = 1) ∧ firstKey^[indexes.length] path = key := by
  refine ⟨firstKey_firstKey_iff path, fun key indexes hkey hsome hpath => ?_⟩
  have hfirst := firstKey_of_indexed hkey hpath
  have hpos := List.length_pos_iff.mpr hsome
  refine ⟨hfirst, ?_, ?_⟩
  · rw [hfirst, indexed_eq_self_iff, ← List.length_eq_zero_iff, List.length_dropLast]
    omega
  · have hall := iterate_firstKey_of_indexed hkey hpath (indexes.length - 1)
    rw [Nat.sub_add_cancel hpos] at hall
    rw [hall, Nat.sub_self, List.take_zero, indexed_nil]

/-- With two indexes, one of them in digits of another script, it takes two reductions. -/
theorem firstKey_of_two_indexes :
    let path := "docs[0][٣].title"
    let indexes : List Index :=
      [⟨['0'], by decide, List.all_eq_true.mp (by decide)⟩,
        ⟨['٣'], by decide, List.all_eq_true.mp (by decide)⟩]
    ReadsKey path (indexed "docs" indexes) ∧ firstKey path = "docs[0]" ∧
      firstKey path ≠ "docs" ∧ firstKey^[2] path = "docs" ∧
      KeepsIndex (headSegment (trimChars path.toList)) := by
  intro path indexes
  have hkey : IsPlain "docs" := Or.inr (by decide +kernel)
  have hpath : ReadsKey path (indexed "docs" indexes) := Or.inr ⟨"title", by decide +kernel⟩
  obtain ⟨hsettled, hindexed⟩ := firstKey_drops_one_index path
  obtain ⟨hfirst, hone, hall⟩ := hindexed "docs" indexes hkey (by simp [indexes]) hpath
  refine ⟨hpath, hfirst.trans (by decide +kernel), fun hdone => ?_, hall, ?_⟩
  · exact absurd (hone.mp hdone) (by decide)
  · by_contra hkeeps
    exact absurd (hsettled.mpr hkeeps) (by decide +kernel)

/-- The second index from the end is left in what is taken for the key. -/
theorem second_index_is_left :
    firstKey "docs[0][1]" = "docs[0]" ∧ firstKey (firstKey "docs[0][1]") = "docs" ∧
      inputKey? "$.input.docs[0][1].title" = some "docs[0]" := by
  decide +kernel

end FlowGraph.Path
