/-
# Texts as content

What is sent as a text arrives as bytes. Each character is written with one to four of them, and the
first tells how many; so the bytes are read one by one, and the characters come back. The bytes of a
text do not look like another encoding unless there is a zero or a byte order mark in them. So the
content of an answer that is sent as a text is read as just that text.
-/

import FlowGraph.Backend.Client

namespace FlowGraph

namespace Json

/-! ## From bytes to characters -/

variable {missing code least byte : Nat}

theorem toNat_lt (c : Char) : c.toNat < 0x110000 :=
  c.valid.elim (fun hlow => Nat.lt_trans hlow (by decide)) And.right

theorem charOf?_toNat (c : Char) : charOf? c.toNat = some c := by
  have hvalid : c.toNat.isValidChar := c.valid
  rw [charOf?, if_pos (toNat_lt c), if_pos hvalid, Char.ofNat_toNat]

/-- The first byte of a character of two. -/
theorem charsOfBytes?_two (hcode : code < 0x20) (rest : List Nat) :
    charsOfBytes? none ((code + 0xC0) :: rest) =
      charsOfBytes? (some { missing := 1, code, least := 0x80 }) rest := by
  have hbegun : Begun.ofByte? (code + 0xC0) = some { missing := 1, code, least := 0x80 } := by
    rw [Begun.ofByte?, if_pos (by omega), Nat.add_sub_cancel]
  simp only [charsOfBytes?, hbegun, Option.bind_some]
  rw [if_neg (by omega)]

/-- The first byte of a character of three. -/
theorem charsOfBytes?_three (hcode : code < 0x10) (rest : List Nat) :
    charsOfBytes? none ((code + 0xE0) :: rest) =
      charsOfBytes? (some { missing := 2, code, least := 0x800 }) rest := by
  have hbegun : Begun.ofByte? (code + 0xE0) = some { missing := 2, code, least := 0x800 } := by
    rw [Begun.ofByte?, if_neg (by omega), if_pos (by omega), Nat.add_sub_cancel]
  simp only [charsOfBytes?, hbegun, Option.bind_some]
  rw [if_neg (by omega)]

/-- The first byte of a character of four. -/
theorem charsOfBytes?_four (hcode : code < 8) (rest : List Nat) :
    charsOfBytes? none ((code + 0xF0) :: rest) =
      charsOfBytes? (some { missing := 3, code, least := 0x10000 }) rest := by
  have hbegun : Begun.ofByte? (code + 0xF0) = some { missing := 3, code, least := 0x10000 } := by
    rw [Begun.ofByte?, if_neg (by omega), if_neg (by omega), if_pos (by omega),
      Nat.add_sub_cancel]
  simp only [charsOfBytes?, hbegun, Option.bind_some]
  rw [if_neg (by omega)]

/-- A byte in the middle of a character. -/
theorem charsOfBytes?_next (hbyte : byte < 0x40) (hmissing : missing ≠ 1) (rest : List Nat) :
    charsOfBytes? (some { missing, code, least }) ((byte + 0x80) :: rest) =
      charsOfBytes? (some { missing := missing - 1, code := code * 0x40 + byte, least }) rest := by
  simp only [charsOfBytes?, hmissing, if_false, Nat.add_sub_cancel]
  rw [if_pos (by omega)]

/-- The last byte of a character. -/
theorem charsOfBytes?_last (c : Char) (hbyte : byte < 0x40)
    (hcode : code * 0x40 + byte = c.toNat) (hleast : least ≤ c.toNat) (rest : List Nat) :
    charsOfBytes? (some { missing := 1, code, least }) ((byte + 0x80) :: rest) =
      (charsOfBytes? none rest).map (c :: ·) := by
  simp only [charsOfBytes?, if_true, Nat.add_sub_cancel, hcode, hleast, charOf?_toNat]
  rw [if_pos (by omega)]
  cases charsOfBytes? none rest <;> rfl

/-- A character is read back from its bytes. -/
theorem charsOfBytes?_char (c : Char) (rest : List Nat) :
    charsOfBytes? none ((String.utf8EncodeChar c).map UInt8.toNat ++ rest) =
      (charsOfBytes? none rest).map (c :: ·) := by
  have hbound := toNat_lt c
  have hsize : UInt8.size = 256 := rfl
  have hval : c.val.toNat = c.toNat := rfl
  rw [String.utf8EncodeChar]
  simp only [hval]
  split
  · next hone =>
    simp only [List.map_cons, List.map_nil, List.cons_append, List.nil_append, charsOfBytes?]
    rw [UInt8.toNat_ofNat_of_lt' (by omega), if_pos (by omega), Char.ofNat_toNat]
  split
  · next hone htwo =>
    simp (disch := omega) only [List.map_cons, List.map_nil, List.cons_append, List.nil_append,
      UInt8.toNat_ofNat_of_lt']
    rw [charsOfBytes?_two (by omega), charsOfBytes?_last c (by omega) (by omega) (by omega)]
  split
  · next hone htwo hthree =>
    simp (disch := omega) only [List.map_cons, List.map_nil, List.cons_append, List.nil_append,
      UInt8.toNat_ofNat_of_lt']
    rw [charsOfBytes?_three (by omega), charsOfBytes?_next (by omega) (by omega),
      charsOfBytes?_last c (by omega) (by omega) (by omega)]
  · next hone htwo hthree =>
    simp (disch := omega) only [List.map_cons, List.map_nil, List.cons_append, List.nil_append,
      UInt8.toNat_ofNat_of_lt']
    rw [charsOfBytes?_four (by omega), charsOfBytes?_next (by omega) (by omega),
      charsOfBytes?_next (by omega) (by omega),
      charsOfBytes?_last c (by omega) (by omega) (by omega)]

/-- A text is read back from its bytes. -/
theorem charsOfBytes?_utf8 (cs : List Char) :
    charsOfBytes? none ((cs.flatMap String.utf8EncodeChar).map UInt8.toNat) = some cs := by
  induction cs with
  | nil => rfl
  | cons c cs ih =>
      rw [List.flatMap_cons, List.map_append, charsOfBytes?_char, ih, Option.map_some]

/-! ## Which encoding it is -/

/-- No byte of a text is as high as those of a mark of the wider encodings, and only the zero
character has a zero in it. -/
theorem bounds_of_mem_bytes {c : Char}
    (hbyte : byte ∈ (String.utf8EncodeChar c).map UInt8.toNat) :
    byte < 0xF8 ∧ (byte = 0 → c = Char.ofNat 0) := by
  have hbound := toNat_lt c
  have hsize : UInt8.size = 256 := rfl
  have hval : c.val.toNat = c.toNat := rfl
  obtain ⟨sent, hsent, rfl⟩ := List.mem_map.mp hbyte
  rw [String.utf8EncodeChar] at hsent
  simp only [hval] at hsent
  have hbytes : ∃ n, sent = UInt8.ofNat n ∧ n < 0xF8 ∧ (n = 0 → c.toNat = 0) := by
    split at hsent
    · simp only [List.mem_cons, List.not_mem_nil, or_false] at hsent
      exact ⟨_, hsent, by omega, id⟩
    split at hsent
    · simp only [List.mem_cons, List.not_mem_nil, or_false] at hsent
      rcases hsent with h | h <;> exact ⟨_, h, by omega, by omega⟩
    split at hsent
    · simp only [List.mem_cons, List.not_mem_nil, or_false] at hsent
      rcases hsent with h | h | h <;> exact ⟨_, h, by omega, by omega⟩
    · simp only [List.mem_cons, List.not_mem_nil, or_false] at hsent
      rcases hsent with h | h | h | h <;> exact ⟨_, h, by omega, by omega⟩
  obtain ⟨n, rfl, hn, hzero⟩ := hbytes
  rw [UInt8.toNat_ofNat_of_lt' (by omega)]
  refine ⟨hn, fun hnil => ?_⟩
  rw [← hzero hnil, Char.ofNat_toNat]

theorem ofBytes_eq {bytes : List Nat} (hzero : 0 ∉ bytes) :
    Encoding.ofBytes bytes = { width := 1 } := by
  rw [Encoding.ofBytes.eq_def]
  split <;> simp_all

/-- Bytes that are neither zero nor as high as those of other marks can only begin with this one. -/
theorem mark_eq_of_fits {bytes mark : List Nat} {encoding : Encoding}
    (hmark : (mark, encoding) ∈ Encoding.marks) (hfits : mark <+: bytes)
    (hbytes : ∀ byte ∈ bytes, byte < 0xF8 ∧ byte ≠ 0) : mark = [0xEF, 0xBB, 0xBF] := by
  obtain ⟨rest, rfl⟩ := hfits
  simp only [Encoding.marks, List.mem_cons, Prod.mk.injEq, List.not_mem_nil, or_false] at hmark
  rcases hmark with ⟨rfl, -⟩ | ⟨rfl, -⟩ | ⟨rfl, -⟩ | ⟨rfl, -⟩ | ⟨rfl, -⟩
  · exact absurd rfl (hbytes 0 (by simp)).2
  · exact absurd rfl (hbytes 0 (by simp)).2
  · exact absurd (hbytes 0xFE (by simp)).1 (by decide)
  · exact absurd (hbytes 0xFF (by simp)).1 (by decide)
  · rfl

/-- The bytes of a text do not look like another encoding. -/
theorem detect_utf8 {cs : List Char} (hzero : Char.ofNat 0 ∉ cs)
    (hmark : cs.head? ≠ some '\uFEFF') :
    Encoding.detect ((cs.flatMap String.utf8EncodeChar).map UInt8.toNat) =
      ({ width := 1 }, (cs.flatMap String.utf8EncodeChar).map UInt8.toNat) := by
  have hbytes : ∀ byte ∈ (cs.flatMap String.utf8EncodeChar).map UInt8.toNat,
      byte < 0xF8 ∧ byte ≠ 0 := by
    intro byte hbyte
    rw [List.map_flatMap, List.mem_flatMap] at hbyte
    obtain ⟨c, hc, hmem⟩ := hbyte
    obtain ⟨hlow, hnonzero⟩ := bounds_of_mem_bytes hmem
    exact ⟨hlow, fun hnil => hzero (hnonzero hnil ▸ hc)⟩
  have hchars := charsOfBytes?_utf8 cs
  generalize (cs.flatMap String.utf8EncodeChar).map UInt8.toNat = bytes at hbytes hchars ⊢
  have hnone : (Encoding.marks.find? fun entry => entry.1.isPrefixOf bytes) = none := by
    rw [List.find?_eq_none]
    rintro ⟨mark, encoding⟩ hmem hfits
    have hprefix := List.isPrefixOf_iff_prefix.mp hfits
    obtain rfl := mark_eq_of_fits hmem hprefix hbytes
    obtain ⟨rest, rfl⟩ := hprefix
    -- these bytes are those of the mark as a character
    have hbom : [0xEF, 0xBB, 0xBF] = (String.utf8EncodeChar '\uFEFF').map UInt8.toNat := by
      decide
    rw [hbom, charsOfBytes?_char] at hchars
    obtain ⟨tail, -, htail⟩ := Option.map_eq_some_iff.mp hchars
    exact hmark (by rw [← htail, List.head?_cons])
  rw [Encoding.detect, hnone, ofBytes_eq fun hmem => (hbytes 0 hmem).2 rfl]

end Json

namespace Body

variable {s : String}

/-- Only the empty text has no bytes. -/
theorem bytes_ofText_eq_nil_iff : (Body.ofText s).bytes = [] ↔ s = "" := by
  rw [Body.ofText, List.flatMap_eq_nil_iff]
  constructor
  · intro hbytes
    refine String.toList_eq_nil_iff.mp (List.eq_nil_iff_forall_not_mem.mpr fun c hc => ?_)
    exact String.utf8EncodeChar_ne_nil (hbytes c hc)
  · rintro rfl c hc
    simp at hc

/-- Content that is sent as a text is read as that text. -/
theorem json?_ofText (hzero : Char.ofNat 0 ∉ s.toList)
    (hmark : s.toList.head? ≠ some '\uFEFF') : (Body.ofText s).json? = Json.read? s := by
  rw [Body.json?, Body.ofText, Json.readArrived?, Json.arrived?, Json.detect_utf8 hzero hmark]
  simp [Json.charsOfBytes?_utf8]

end Body

end FlowGraph
