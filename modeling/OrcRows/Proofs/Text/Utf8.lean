import OrcRows.Text.Utf8

/-!
# Text survives its encoding

The bytes of a text are well-formed, so nothing of them is replaced when they are decoded: the text
comes back. A character has at most four bytes. Each range of characters fixes the number of bytes,
and the bounds that the decoder puts on the second byte hold of all characters of the range.
-/

namespace OrcRows.Utf8

/-- A character is not a surrogate and lies below the end of the code space. -/
theorem toNat_bounds (c : Char) : c.toNat < 0xd800 ∨ 0xdfff < c.toNat ∧ c.toNat < 0x110000 :=
  c.valid

/-- A continuation byte has the value of its six bits. -/
theorem toNat_continued (bits : Nat) :
    (UInt8.ofNat (0x80 + bits % 64)).toNat = 0x80 + bits % 64 := by
  rw [UInt8.toNat_ofNat']
  omega

/-- The first byte of two. -/
theorem lead_two {byte : Nat} (hl : 0xc2 ≤ byte) (hu : byte < 0xe0) :
    lead byte = ([], some ⟨1, byte - 0xc0, 0x80, 0xbf⟩) := by
  rw [lead, if_neg (by omega), if_neg (by omega), if_pos hu]

/-- The first byte of three bounds the second one. -/
theorem lead_three {byte : Nat} (hl : 0xe0 ≤ byte) (hu : byte < 0xf0) :
    lead byte = ([], some ⟨2, byte - 0xe0, if byte = 0xe0 then 0xa0 else 0x80,
      if byte = 0xed then 0x9f else 0xbf⟩) := by
  rw [lead, if_neg (by omega), if_neg (by omega), if_neg (by omega), if_pos hu]

/-- The first byte of four bounds the second one. -/
theorem lead_four {byte : Nat} (hl : 0xf0 ≤ byte) (hu : byte < 0xf5) :
    lead byte = ([], some ⟨3, byte - 0xf0, if byte = 0xf0 then 0x90 else 0x80,
      if byte = 0xf4 then 0x8f else 0xbf⟩) := by
  rw [lead, if_neg (by omega), if_neg (by omega), if_neg (by omega), if_neg (by omega), if_pos hu]

/-- The first byte of a sequence is followed by the others. -/
theorem decodeFrom_lead {byte : UInt8} {pending : Pending} (rest : List UInt8)
    (h : lead byte.toNat = ([], some pending)) :
    decodeFrom none (byte :: rest) = decodeFrom (some pending) rest := by
  rw [decodeFrom, h]
  rfl

/-- The last byte of a sequence ends it with its character. -/
theorem decodeFrom_last {bits least greatest : Nat} {byte : UInt8} (rest : List UInt8)
    (hl : least ≤ byte.toNat) (hu : byte.toNat ≤ greatest) :
    decodeFrom (some ⟨1, bits, least, greatest⟩) (byte :: rest) =
      Char.ofNat (bits * 64 + (byte.toNat - 0x80)) :: decodeFrom none rest := by
  rw [decodeFrom, if_pos ⟨hl, hu⟩]
  rfl

/-- Any other byte of a sequence adds its bits. -/
theorem decodeFrom_middle {missing bits least greatest : Nat} {byte : UInt8} (rest : List UInt8)
    (hl : least ≤ byte.toNat) (hu : byte.toNat ≤ greatest) :
    decodeFrom (some ⟨missing + 2, bits, least, greatest⟩) (byte :: rest) =
      decodeFrom (some ⟨missing + 1, bits * 64 + (byte.toNat - 0x80), 0x80, 0xbf⟩) rest := by
  rw [decodeFrom, if_pos ⟨hl, hu⟩]
  exact if_neg (by simp)

/-- The bytes of a character are decoded to the character. -/
theorem decodeFrom_encodeChar (c : Char) (rest : List UInt8) :
    decodeFrom none (encodeChar c ++ rest) = c :: decodeFrom none rest := by
  have hrange := toNat_bounds c
  have hback : ∀ code, code = c.toNat → Char.ofNat code = c := by
    intro code h
    rw [h, Char.ofNat_toNat]
  have hlast := toNat_continued (c.toNat / 1)
  have hthird := toNat_continued (c.toNat / 64)
  have hsecond := toNat_continued (c.toNat / 4096)
  simp only [encodeChar]
  by_cases h1 : c.toNat < 0x80
  · have hfirst : (UInt8.ofNat c.toNat).toNat = c.toNat := by
      rw [UInt8.toNat_ofNat']
      omega
    rw [if_pos h1, List.singleton_append, decodeFrom, hfirst, lead, if_pos h1, hback _ rfl]
    rfl
  by_cases h2 : c.toNat < 0x800
  · have hfirst : (UInt8.ofNat (0xc0 + c.toNat / 64)).toNat = 0xc0 + c.toNat / 64 := by
      rw [UInt8.toNat_ofNat']
      omega
    rw [if_neg h1, if_pos h2, List.cons_append, List.singleton_append,
      decodeFrom_lead _ (lead_two (by omega) (by omega)),
      decodeFrom_last _ (by omega) (by omega), hback _ (by omega)]
  by_cases h3 : c.toNat < 0x10000
  · have hfirst : (UInt8.ofNat (0xe0 + c.toNat / 4096)).toNat = 0xe0 + c.toNat / 4096 := by
      rw [UInt8.toNat_ofNat']
      omega
    rw [if_neg h1, if_neg h2, if_pos h3, List.cons_append, List.cons_append,
      List.singleton_append, decodeFrom_lead _ (lead_three (by omega) (by omega)),
      decodeFrom_middle _ (by split <;> omega) (by split <;> omega),
      decodeFrom_last _ (by omega) (by omega), hback _ (by omega)]
  · have hfirst : (UInt8.ofNat (0xf0 + c.toNat / 262144)).toNat = 0xf0 + c.toNat / 262144 := by
      rw [UInt8.toNat_ofNat']
      omega
    rw [if_neg h1, if_neg h2, if_neg h3, List.cons_append, List.cons_append, List.cons_append,
      List.singleton_append, decodeFrom_lead _ (lead_four (by omega) (by omega)),
      decodeFrom_middle _ (by split <;> omega) (by split <;> omega),
      decodeFrom_middle _ (by omega) (by omega),
      decodeFrom_last _ (by omega) (by omega), hback _ (by omega)]

/-- Text survives its encoding. -/
theorem decode_encode (text : List Char) : decode (encode text) = text := by
  induction text with
  | nil => rfl
  | cons c text ih =>
    rw [decode, encode, List.flatMap_cons, decodeFrom_encodeChar]
    exact congrArg (c :: ·) ih

end OrcRows.Utf8
