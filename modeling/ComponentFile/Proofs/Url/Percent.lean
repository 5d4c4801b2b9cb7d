import ComponentFile.Proofs.Text.Decoding
import ComponentFile.Url.Basic

/-!
# Percent encoding and its inverse

Whatever a name holds, its percent encoding is made of characters that have no meaning in the path
of a URL, and decoding it gives the bytes of the name.  Dots are not encoded, but `%2e` is read as a
dot in the path of a URL.  Such a segment is decoded to the same bytes as the dots, so no other name
is encoded to one.

## Main definitions

* `Url.isSegmentChar` : the characters that are read as part of a segment.

## Main results

* `Url.isSegmentChar_of_mem_percentEncode` : an encoded name is a part of one segment.
* `Url.percentDecode_percentEncode` : decoding gives the bytes that were encoded.
* `Url.isSingleDot_percentEncode`, `Url.isDoubleDot_percentEncode` : no name but dots is encoded to
  a segment that is read as dots.
* `Url.isDrive_percentEncode` : no name but a drive letter is encoded to a drive letter.
-/

namespace ComponentFile.Url

open Text

variable {b : UInt8} {c d : Char} {s t u : Text}

/-- Whether a character is read as part of a segment: it is no control and no space, and it does not
end a segment or the path. -/
def isSegmentChar (c : Char) : Bool :=
  0x20 < c.toNat && !("/\\?#".toList.contains c)

/-! ### Single bytes -/

theorem isPlain_bounds (h : isPlain b = true) : 0x20 < b.toNat ∧ b.toNat < 0x7F := by
  simp only [isPlain, Bool.and_eq_true, decide_eq_true_eq] at h
  exact ⟨UInt8.lt_iff_toNat_lt.mp h.1.1, UInt8.lt_iff_toNat_lt.mp h.1.2⟩

theorem toNat_ofNat_of_isPlain (h : isPlain b = true) : (Char.ofNat b.toNat).toNat = b.toNat := by
  have hlt := (isPlain_bounds h).2
  rw [Char.toNat_ofNat, if_pos (.inl (by omega))]

theorem ofNat_notMem_of_isPlain (h : isPlain b = true) :
    Char.ofNat b.toNat ∉ "\"#%/<>?\\\x60\x7b\x7d".toList := by
  simp only [isPlain, Bool.and_eq_true, Bool.not_eq_true', List.contains_eq_mem,
    decide_eq_false_iff_not] at h
  exact h.2

theorem isSegmentChar_of_isPlain (h : isPlain b = true) :
    isSegmentChar (Char.ofNat b.toNat) = true := by
  have hsub : "/\\?#".toList ⊆ "\"#%/<>?\\\x60\x7b\x7d".toList := by decide
  simp only [isSegmentChar, Bool.and_eq_true, decide_eq_true_eq, Bool.not_eq_true',
    List.contains_eq_mem, decide_eq_false_iff_not, toNat_ofNat_of_isPlain h]
  exact ⟨(isPlain_bounds h).1, fun hmem ↦ ofNat_notMem_of_isPlain h (hsub hmem)⟩

theorem isSegmentChar_hexDigit : ∀ n < 16, isSegmentChar (hexDigit n) = true := by
  decide

theorem hexDigit?_hexDigit : ∀ n < 16, Text.hexDigit? (hexDigit n) = some n := by
  decide

theorem div_lt_sixteen (b : UInt8) : b.toNat / 16 < 16 :=
  Nat.div_lt_of_lt_mul b.toNat_lt

theorem mod_lt_sixteen (b : UInt8) : b.toNat % 16 < 16 :=
  Nat.mod_lt _ (by decide)

/-- A byte is read from its two digits. -/
theorem hexByte?_hexDigit (b : UInt8) :
    hexByte? (hexDigit (b.toNat / 16)) (hexDigit (b.toNat % 16)) = some b := by
  rw [hexByte?, hexDigit?_hexDigit _ (div_lt_sixteen b), hexDigit?_hexDigit _ (mod_lt_sixteen b)]
  change some (UInt8.ofNat (b.toNat / 16 * 16 + b.toNat % 16)) = some b
  rw [Nat.div_add_mod', UInt8.ofNat_toNat]

/-! ### Decoding -/

theorem percentDecode_escape (h : hexByte? c d = some b) (t : Text) :
    percentDecode ('%' :: c :: d :: t) = b :: percentDecode t := by
  rw [percentDecode, h]

theorem percentDecode_cons_of_ne (h : c ≠ '%') (t : Text) :
    percentDecode (c :: t) = String.utf8EncodeChar c ++ percentDecode t :=
  percentDecode.eq_3 c t fun _ _ _ hc ↦ absurd hc h

/-- A byte is decoded from what it was encoded to. -/
theorem percentDecode_percentEncodeByte_append (b : UInt8) (t : Text) :
    percentDecode (percentEncodeByte b ++ t) = b :: percentDecode t := by
  rw [percentEncodeByte]
  split
  · next h =>
    have hne : Char.ofNat b.toNat ≠ '%' := fun heq ↦ ofNat_notMem_of_isPlain h (by simp [heq])
    have hlt : (Char.ofNat b.toNat).toNat < 128 := by
      rw [toNat_ofNat_of_isPlain h]
      exact (isPlain_bounds h).2.trans (by decide)
    have hbyte : (Char.ofNat b.toNat).toUInt8 = b := by
      rw [← UInt8.toNat_inj, toNat_toUInt8 hlt, toNat_ofNat_of_isPlain h]
    rw [List.singleton_append, percentDecode_cons_of_ne hne, utf8EncodeChar_of_lt hlt, hbyte]
    rfl
  · exact percentDecode_escape (hexByte?_hexDigit b) t

/-- Decoding gives the bytes that were encoded. -/
theorem percentDecode_percentEncode (s : Text) : percentDecode (percentEncode s) = encode s := by
  have hall (bytes : Bytes) : percentDecode (bytes.flatMap percentEncodeByte) = bytes := by
    induction bytes with
    | nil => rfl
    | cons b bytes ih => rw [List.flatMap_cons, percentDecode_percentEncodeByte_append, ih]
  exact hall (encode s)

theorem percentEncode_ne_nil (h : s ≠ []) : percentEncode s ≠ [] := by
  intro hnil
  have hbytes : encode s = encode [] := by rw [← percentDecode_percentEncode, hnil]; rfl
  exact h (encode_injective hbytes)

/-! ### Segments -/

/-- An encoded name is a part of one segment. -/
theorem isSegmentChar_of_mem_percentEncode (h : c ∈ percentEncode s) : isSegmentChar c = true := by
  obtain ⟨b, -, hc⟩ := List.mem_flatMap.mp h
  rw [percentEncodeByte] at hc
  split at hc
  · next hplain =>
    rw [List.mem_singleton.mp hc]
    exact isSegmentChar_of_isPlain hplain
  · simp only [List.mem_cons, List.not_mem_nil, or_false] at hc
    obtain rfl | rfl | rfl := hc
    · rfl
    · exact isSegmentChar_hexDigit _ (div_lt_sixteen b)
    · exact isSegmentChar_hexDigit _ (mod_lt_sixteen b)

theorem eq_or_eq_of_toLower_eq (h : c.toLower = 'e') : c = 'e' ∨ c = 'E' := by
  by_cases hlower : c.isLower = true
  · have hupper : ¬c.isUpper = true := Char.not_isUpper_of_isLower hlower
    exact .inl ((Char.toLower_eq_of_not_isUpper hupper).symm.trans h)
  · right
    calc c = c.toUpper := (Char.toUpper_eq_of_not_isLower hlower).symm
      _ = c.toLower.toUpper := (Char.toUpper_toLower_eq_toUpper c).symm
      _ = 'E' := by rw [h]; rfl

/-- A dot is decoded to the same byte whether it is encoded or not. -/
theorem exists_percentDecode_of_lower_eq (h : lower s = '.' :: u ∨ lower s = "%2e".toList ++ u) :
    ∃ t, lower t = u ∧ percentDecode s = 0x2E :: percentDecode t := by
  obtain h | h := h
  · obtain ⟨c, t, rfl, hc, ht⟩ := List.map_eq_cons_iff.mp h
    obtain rfl := (toLower_eq_iff (by decide)).mp hc
    exact ⟨t, ht, percentDecode_cons_of_ne (by decide) t⟩
  · obtain ⟨c₁, s₁, rfl, hc₁, h₁⟩ := List.map_eq_cons_iff.mp h
    obtain ⟨c₂, s₂, rfl, hc₂, h₂⟩ := List.map_eq_cons_iff.mp h₁
    obtain ⟨c₃, t, rfl, hc₃, ht⟩ := List.map_eq_cons_iff.mp h₂
    obtain rfl := (toLower_eq_iff (by decide)).mp hc₁
    obtain rfl := (toLower_eq_iff (by decide)).mp hc₂
    refine ⟨t, ht, percentDecode_escape ?_ t⟩
    obtain rfl | rfl := eq_or_eq_of_toLower_eq hc₃ <;> rfl

/-- A segment that means to stay is decoded to one dot. -/
theorem percentDecode_of_isSingleDot (h : isSingleDot s = true) :
    percentDecode s = encode ['.'] := by
  simp only [isSingleDot, List.contains_iff_mem, List.mem_cons, List.not_mem_nil, or_false] at h
  obtain ⟨t, ht, hs⟩ := exists_percentDecode_of_lower_eq (u := []) h
  rw [hs, List.map_eq_nil_iff.mp ht]
  rfl

/-- A segment that means to go up is decoded to two dots. -/
theorem percentDecode_of_isDoubleDot (h : isDoubleDot s = true) :
    percentDecode s = encode ['.', '.'] := by
  simp only [isDoubleDot, List.contains_iff_mem, List.mem_cons, List.not_mem_nil, or_false] at h
  have hfirst : ∃ u, (u = ['.'] ∨ u = "%2e".toList) ∧
      (lower s = '.' :: u ∨ lower s = "%2e".toList ++ u) := by
    obtain h | h | h | h := h
    · exact ⟨_, .inl rfl, .inl h⟩
    · exact ⟨_, .inr rfl, .inl h⟩
    · exact ⟨_, .inl rfl, .inr h⟩
    · exact ⟨_, .inr rfl, .inr h⟩
  obtain ⟨u, hu, hlower⟩ := hfirst
  obtain ⟨t, rfl, hs⟩ := exists_percentDecode_of_lower_eq hlower
  obtain ⟨v, hv, ht⟩ := exists_percentDecode_of_lower_eq (u := []) hu
  rw [hs, ht, List.map_eq_nil_iff.mp hv]
  rfl

/-- No other name is encoded to a segment that means to stay. -/
theorem isSingleDot_percentEncode (h : s ≠ ['.']) : isSingleDot (percentEncode s) = false := by
  cases hdot : isSingleDot (percentEncode s) with
  | false => rfl
  | true =>
    have hbytes := percentDecode_of_isSingleDot hdot
    rw [percentDecode_percentEncode] at hbytes
    exact absurd (encode_injective hbytes) h

/-- No other name is encoded to a segment that means to go up. -/
theorem isDoubleDot_percentEncode (h : s ≠ ['.', '.']) :
    isDoubleDot (percentEncode s) = false := by
  cases hdot : isDoubleDot (percentEncode s) with
  | false => rfl
  | true =>
    have hbytes := percentDecode_of_isDoubleDot hdot
    rw [percentDecode_percentEncode] at hbytes
    exact absurd (encode_injective hbytes) h

/-! ### Drive letters -/

theorem exists_eq_of_isDrive (h : isDrive s = true) :
    ∃ c d, s = [c, d] ∧ c ≠ '%' ∧ d ≠ '%' := by
  rw [isDrive, Bool.and_eq_true, beq_iff_eq] at h
  obtain ⟨c, d, rfl⟩ := List.length_eq_two.mp h.1
  refine ⟨c, d, rfl, ?_, ?_⟩
  · rintro rfl
    exact Bool.false_ne_true h.2
  · rintro rfl
    simp [beginsWithDrive] at h

/-- No name but a drive letter is encoded to a drive letter. -/
theorem isDrive_percentEncode (h : isDrive s = false) : isDrive (percentEncode s) = false := by
  refine Bool.eq_false_iff.mpr fun hdrive ↦ Bool.eq_false_iff.mp h ?_
  obtain ⟨c, d, hencoded, hc, hd⟩ := exists_eq_of_isDrive hdrive
  -- neither character is a percent sign, so that both are decoded to themselves
  have hbytes : encode s = encode [c, d] := by
    rw [← percentDecode_percentEncode, hencoded, percentDecode_cons_of_ne hc,
      percentDecode_cons_of_ne hd]
    rfl
  rwa [encode_injective hbytes, ← hencoded]

end ComponentFile.Url
