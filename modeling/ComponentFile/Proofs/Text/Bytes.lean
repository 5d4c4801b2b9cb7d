import ComponentFile.Proofs.Text.Case
import ComponentFile.Proofs.Text.Offsets

/-!
# Texts byte by byte

A text may be read through its bytes: at an offset that stands between two characters the bytes go
on with those of the remaining text, and a byte that is no letter, space or sign of ASCII never
looks like one.  A class of ASCII characters can therefore be told from single bytes, also in the
middle of a longer character.

## Main definitions

* `Text.IsAt` : the text that remains at a byte offset.
* `Text.startOf` : the byte offset at which a remaining text begins.
* `Text.IsByteClass` : a class of characters that can be told from each of their bytes.
* `Text.lowerByte` : a byte with an ASCII letter in lower case.

## Main results

* `Text.isAt_startOf` : a text that remains is found at the offset where it begins.
* `Text.takeWhile_encode` : a run of bytes of a class is a run of characters.
* `Text.map_lowerByte_encode` : lower case can be taken byte by byte.
* `Text.isPrefix_of_encode_isPrefix` : a text whose bytes come first comes first itself.
* `Text.getElem?_encode_eq_some_iff` : a byte of ASCII is a character wherever it stands.
-/

namespace ComponentFile.Text

variable {b : UInt8} {c d : Char} {offset : Nat} {p q : UInt8 → Bool} {P Q : Char → Bool}
  {r s t u : Text}

/-! ### The text at an offset -/

/-- At the byte offset `offset` the text `t` goes on with `r`. -/
def IsAt (t : Text) (offset : Nat) (r : Text) : Prop :=
  ∃ s, t = s ++ r ∧ byteLength s = offset

theorem isBoundary_iff : IsBoundary t offset ↔ ∃ r, IsAt t offset r :=
  exists_comm

theorem isAt_zero (t : Text) : IsAt t 0 t :=
  ⟨[], rfl, rfl⟩

/-- The byte offset at which the remaining text `r` of `t` begins. -/
def startOf (t r : Text) : Nat :=
  byteLength t - byteLength r

theorem isAt_startOf (h : r <:+ t) : IsAt t (startOf t r) r := by
  obtain ⟨s, rfl⟩ := h
  exact ⟨s, rfl, by simp [startOf]⟩

theorem utf8Size_of_lt (hc : c.toNat < 128) : c.utf8Size = 1 :=
  Char.utf8Size_eq_one_iff.mpr (UInt32.le_iff_toNat_le.mpr (Nat.le_of_lt_succ hc))

namespace IsAt

theorem isBoundary (h : IsAt t offset r) : IsBoundary t offset :=
  isBoundary_iff.mpr ⟨r, h⟩

theorem isSuffix (h : IsAt t offset r) : r <:+ t := by
  obtain ⟨s, rfl, -⟩ := h
  exact List.suffix_append s r

theorem add_byteLength (h : IsAt t offset r) : offset + byteLength r = byteLength t := by
  obtain ⟨s, rfl, rfl⟩ := h
  rw [byteLength_append]

theorem eq_startOf (h : IsAt t offset r) : offset = startOf t r := by
  have hlen := h.add_byteLength
  rw [startOf]
  omega

theorem append (h : IsAt t offset (s ++ r)) : IsAt t (offset + byteLength s) r := by
  obtain ⟨a, rfl, rfl⟩ := h
  exact ⟨a ++ s, by simp, by simp⟩

/-- What remains behind a part of the text is found where it begins. -/
theorem startOf_append (h : IsAt t offset (s ++ r)) : IsAt t (startOf t r) r :=
  isAt_startOf ((List.suffix_append s r).trans h.isSuffix)

theorem le_startOf (h : IsAt t offset (s ++ r)) : offset ≤ startOf t r := by
  rw [← h.append.eq_startOf]
  exact Nat.le_add_right _ _

theorem lt_startOf (h : IsAt t offset (s ++ r)) (hs : s ≠ []) : offset < startOf t r := by
  rw [← h.append.eq_startOf]
  exact Nat.lt_add_of_pos_right (byteLength_pos hs)

theorem takeWhile_append_dropWhile (h : IsAt t offset r) (P : Char → Bool) :
    IsAt t offset (r.takeWhile P ++ r.dropWhile P) := by
  rwa [List.takeWhile_append_dropWhile]

/-- Behind a character of ASCII the text goes on at the next byte. -/
theorem of_cons (h : IsAt t offset (c :: r)) (hc : c.toNat < 128) : IsAt t (offset + 1) r := by
  have happ := append (s := [c]) h
  rwa [byteLength_cons, byteLength_nil, utf8Size_of_lt hc] at happ

theorem slice?_eq (h : IsAt t offset (s ++ r)) :
    slice? t offset (offset + byteLength s) = some s := by
  obtain ⟨a, rfl, rfl⟩ := h
  exact slice?_append a s r

theorem slice?_byteLength (h : IsAt t offset r) : slice? t offset (byteLength t) = some r := by
  have hall : IsAt t offset (r ++ []) := by rwa [List.append_nil]
  rw [← h.add_byteLength, hall.slice?_eq]

/-- What remains at a later offset is a part of what remains at an earlier one. -/
theorem exists_eq_append {later : Nat} (h : IsAt t offset r) (hlater : IsAt t later s)
    (hle : offset ≤ later) : ∃ p, r = p ++ s ∧ later = offset + byteLength p := by
  obtain ⟨a, rfl, rfl⟩ := h
  obtain ⟨b, happ, rfl⟩ := hlater
  obtain ⟨p, rfl, rfl⟩ | ⟨p, rfl, rfl⟩ := List.append_eq_append_iff.mp happ
  · exact ⟨p, rfl, byteLength_append a p⟩
  · -- the text in front of the earlier offset cannot be the longer one
    rw [byteLength_append] at hle
    have hnil : p = [] := by
      by_contra hne
      have hpos := byteLength_pos hne
      omega
    exact ⟨[], by simp [hnil], by simp [hnil]⟩

theorem cons (h : IsAt t offset r) (c : Char) : IsAt (c :: t) (c.utf8Size + offset) r := by
  obtain ⟨s, rfl, rfl⟩ := h
  exact ⟨c :: s, rfl, rfl⟩

end IsAt

/-! ### The bytes of a text -/

@[simp] theorem encode_cons (c : Char) (t : Text) :
    encode (c :: t) = String.utf8EncodeChar c ++ encode t := rfl

@[simp] theorem length_encode (t : Text) : (encode t).length = byteLength t := by
  induction t with
  | nil => rfl
  | cons c t ih => simp [ih]

/-- At the offset of a remaining text the bytes go on with the bytes of that. -/
theorem IsAt.drop_encode (h : IsAt t offset r) : (encode t).drop offset = encode r := by
  obtain ⟨s, rfl, rfl⟩ := h
  rw [encode_append, ← length_encode, List.drop_left]

theorem IsAt.getElem?_encode (h : IsAt t offset r) : (encode t)[offset]? = (encode r).head? := by
  rw [← h.drop_encode, List.head?_drop]

theorem exists_head?_utf8EncodeChar (c : Char) :
    ∃ b ∈ String.utf8EncodeChar c, (String.utf8EncodeChar c).head? = some b := by
  obtain ⟨b, bs, hbs⟩ := List.exists_cons_of_length_pos
    (l := String.utf8EncodeChar c) (by simpa using c.utf8Size_pos)
  exact ⟨b, by simp [hbs], by simp [hbs]⟩

/-- The characters of ASCII are bytes, and no other character has a byte of ASCII. -/
theorem toNat_of_mem_utf8EncodeChar (h : b ∈ String.utf8EncodeChar c) :
    (c.toNat < 128 ∧ b.toNat = c.toNat) ∨ (128 ≤ c.toNat ∧ 128 ≤ b.toNat) := by
  have hnat : c.toNat = c.val.toNat := rfl
  rw [hnat]
  revert h
  fun_cases String.utf8EncodeChar c <;>
  · simp only [List.mem_cons, List.not_mem_nil, or_false]
    intro h
    rcases h with rfl | rfl | rfl | rfl <;> simp only [UInt8.toNat_ofNat'] <;> omega

/-! ### Classes of bytes -/

/-- The class `p` of bytes tells from each byte of a character whether that belongs to `P`. -/
def IsByteClass (p : UInt8 → Bool) (P : Char → Bool) : Prop :=
  ∀ c, ∀ b ∈ String.utf8EncodeChar c, p b = P c

theorem toNat_toUInt8 (hc : c.toNat < 128) : c.toUInt8.toNat = c.toNat :=
  Nat.mod_eq_of_lt (hc.trans (by decide))

/-- A character of ASCII is told from each byte of another one. -/
theorem eq_toUInt8_iff (hb : b ∈ String.utf8EncodeChar d) (hc : c.toNat < 128) :
    b = c.toUInt8 ↔ d = c := by
  rw [← UInt8.toNat_inj, ← Char.toNat_inj, toNat_toUInt8 hc]
  obtain ⟨hd, heq⟩ | ⟨hd, hle⟩ := toNat_of_mem_utf8EncodeChar hb <;> omega

theorem isByteClass_beq (hc : c.toNat < 128) : IsByteClass (· == c.toUInt8) (· == c) := by
  intro d b hb
  rw [Bool.eq_iff_iff, beq_iff_eq, beq_iff_eq, eq_toUInt8_iff hb hc]

theorem isByteClass_range {low high : Char} (hlow : low.toNat < 128) (hhigh : high.toNat < 128) :
    IsByteClass (fun b ↦ decide (b ≥ low.toUInt8 ∧ b ≤ high.toUInt8))
      fun c ↦ decide (c.val ≥ low.val ∧ c.val ≤ high.val) := by
  intro c b hb
  have hchar : (c.val ≥ low.val ∧ c.val ≤ high.val) ↔
      (low.toNat ≤ c.toNat ∧ c.toNat ≤ high.toNat) := by
    rw [ge_iff_le, UInt32.le_iff_toNat_le, UInt32.le_iff_toNat_le]
    rfl
  rw [decide_eq_decide, hchar, ge_iff_le, UInt8.le_iff_toNat_le, UInt8.le_iff_toNat_le,
    toNat_toUInt8 hlow, toNat_toUInt8 hhigh]
  obtain ⟨hc, heq⟩ | ⟨hc, hle⟩ := toNat_of_mem_utf8EncodeChar hb <;> omega

theorem IsByteClass.not (h : IsByteClass p P) : IsByteClass (fun b ↦ !p b) fun c ↦ !P c :=
  fun c b hb ↦ congrArg Bool.not (h c b hb)

theorem IsByteClass.or (hp : IsByteClass p P) (hq : IsByteClass q Q) :
    IsByteClass (fun b ↦ p b || q b) fun c ↦ P c || Q c :=
  fun c b hb ↦ congrArg₂ Bool.or (hp c b hb) (hq c b hb)

theorem IsByteClass.and (hp : IsByteClass p P) (hq : IsByteClass q Q) :
    IsByteClass (fun b ↦ p b && q b) fun c ↦ P c && Q c :=
  fun c b hb ↦ congrArg₂ Bool.and (hp c b hb) (hq c b hb)

/-- A run of bytes of a class is a run of characters. -/
theorem takeWhile_encode (h : IsByteClass p P) (t : Text) :
    (encode t).takeWhile p = encode (t.takeWhile P) := by
  induction t with
  | nil => rfl
  | cons c t ih =>
    cases hc : P c with
    | true =>
      have hall : ∀ b ∈ String.utf8EncodeChar c, p b = true := fun b hb ↦ (h c b hb).trans hc
      rw [encode_cons, List.takeWhile_append_of_pos hall, ih, List.takeWhile_cons_of_pos hc,
        encode_cons]
    | false =>
      obtain ⟨b, hb, hhead⟩ := exists_head?_utf8EncodeChar c
      obtain ⟨bs, hbs⟩ := List.head?_eq_some_iff.mp hhead
      have hpb : ¬p b = true := by rw [h c b hb, hc]; exact Bool.false_ne_true
      rw [encode_cons, hbs, List.cons_append, List.takeWhile_cons_of_neg hpb,
        List.takeWhile_cons_of_neg (by rw [hc]; exact Bool.false_ne_true), encode_nil]

/-! ### Lower case -/

/-- A byte with `A`–`Z` replaced by `a`–`z`. -/
def lowerByte (b : UInt8) : UInt8 :=
  if 'A'.toUInt8 ≤ b ∧ b ≤ 'Z'.toUInt8 then b + 32 else b

theorem utf8EncodeChar_of_lt (hc : c.toNat < 128) : String.utf8EncodeChar c = [c.toUInt8] :=
  String.utf8EncodeChar_eq_singleton (utf8Size_of_lt hc)

theorem toUInt8_toLower (hc : c.toNat < 128) : c.toLower.toUInt8 = lowerByte c.toUInt8 := by
  have hcond : ('A'.toUInt8 ≤ c.toUInt8 ∧ c.toUInt8 ≤ 'Z'.toUInt8) ↔
      (c.val ≥ 'A'.val ∧ c.val ≤ 'Z'.val) := by
    rw [UInt8.le_iff_toNat_le, UInt8.le_iff_toNat_le, toNat_toUInt8 hc, ge_iff_le,
      UInt32.le_iff_toNat_le, UInt32.le_iff_toNat_le]
    rfl
  unfold Char.toLower lowerByte
  by_cases h : c.val ≥ 'A'.val ∧ c.val ≤ 'Z'.val
  · rw [dif_pos h, if_pos (hcond.mpr h)]
    exact UInt32.toUInt8_add c.val 32
  · rw [dif_neg h, if_neg (mt hcond.mp h)]

theorem lowerByte_of_le (hb : 128 ≤ b.toNat) : lowerByte b = b := by
  have hZ : 'Z'.toUInt8.toNat = 90 := rfl
  rw [lowerByte, if_neg]
  rintro ⟨-, hle⟩
  rw [UInt8.le_iff_toNat_le] at hle
  omega

theorem toNat_le_of_isUpper (h : c.isUpper = true) : c.toNat ≤ 90 := by
  simp only [Char.isUpper, decide_eq_true_eq] at h
  exact UInt32.le_iff_toNat_le.mp h.2

theorem toNat_toLower_lt (hc : c.toNat < 128) : c.toLower.toNat < 128 := by
  by_cases h : c.isUpper = true
  · have hle := toNat_le_of_isUpper h
    rw [Char.toLower_eq_of_isUpper h, Char.toNat_ofNat, if_pos (.inl (by omega))]
    omega
  · rwa [Char.toLower_eq_of_not_isUpper h]

theorem map_lowerByte_utf8EncodeChar (c : Char) :
    (String.utf8EncodeChar c).map lowerByte = String.utf8EncodeChar c.toLower := by
  by_cases hc : c.toNat < 128
  · rw [utf8EncodeChar_of_lt hc, utf8EncodeChar_of_lt (toNat_toLower_lt hc),
      toUInt8_toLower hc, List.map_singleton]
  · have hupper : ¬c.isUpper = true := fun h ↦ by
      have hle := toNat_le_of_isUpper h
      omega
    have hbytes : ∀ b ∈ String.utf8EncodeChar c, lowerByte b = b := fun b hb ↦ by
      obtain ⟨hlt, -⟩ | ⟨-, hle⟩ := toNat_of_mem_utf8EncodeChar hb
      · exact absurd hlt hc
      · exact lowerByte_of_le hle
    rw [Char.toLower_eq_of_not_isUpper hupper, List.map_congr_left hbytes, List.map_id']

/-- Lower case can be taken byte by byte. -/
theorem map_lowerByte_encode (t : Text) : (encode t).map lowerByte = encode (lower t) := by
  induction t with
  | nil => rfl
  | cons c t ih => rw [encode_cons, List.map_append, map_lowerByte_utf8EncodeChar, ih, lower_cons,
      encode_cons]

/-- Lower case takes as many bytes. -/
@[simp] theorem byteLength_lower (t : Text) : byteLength (lower t) = byteLength t := by
  rw [← length_encode, ← map_lowerByte_encode, List.length_map, length_encode]

/-- Texts that differ in case only take as many bytes. -/
theorem byteLength_eq_of_lower_eq (h : lower s = lower t) : byteLength s = byteLength t := by
  rw [← byteLength_lower s, h, byteLength_lower]

/-! ### Parts of the bytes -/

/-- A text whose bytes come first comes first itself: no character begins another one. -/
theorem isPrefix_of_encode_isPrefix (h : encode s <+: encode t) : s <+: t := by
  induction s generalizing t with
  | nil => exact List.nil_prefix
  | cons c s ih =>
    cases t with
    | nil =>
      have hnil := List.prefix_nil.mp h
      have hpos := byteLength_pos (List.cons_ne_nil c s)
      rw [← length_encode, hnil] at hpos
      exact absurd hpos (lt_irrefl 0)
    | cons d t =>
      obtain ⟨rest, hrest⟩ := h
      have hc := List.utf8DecodeChar?_utf8Encode_cons (l := s) (c := c)
      have hd := List.utf8DecodeChar?_utf8Encode_cons (l := t) (c := d)
      have hbytes : (d :: t).utf8Encode = (c :: s).utf8Encode ++ rest.toByteArray := by
        rw [List.utf8Encode, List.utf8Encode, ← List.toByteArray_append]
        exact congrArg List.toByteArray hrest.symm
      rw [hbytes, ByteArray.utf8DecodeChar?_append_eq_some hc, Option.some.injEq] at hd
      subst hd
      rw [encode_cons, encode_cons, List.append_assoc] at hrest
      exact List.cons_prefix_cons.mpr ⟨rfl, ih ⟨rest, List.append_cancel_left hrest⟩⟩

/-- A byte of ASCII is a character wherever it stands in a text. -/
theorem exists_isAt_of_getElem?_encode (hc : c.toNat < 128)
    (h : (encode t)[offset]? = some c.toUInt8) : ∃ r, IsAt t offset (c :: r) := by
  induction t generalizing offset with
  | nil => cases h
  | cons d t ih =>
    rw [encode_cons] at h
    obtain hlt | hle := Nat.lt_or_ge offset d.utf8Size
    · have hlt' : offset < (String.utf8EncodeChar d).length := by simpa using hlt
      rw [List.getElem?_append_left hlt'] at h
      obtain rfl : d = c := (eq_toUInt8_iff (List.mem_of_getElem? h) hc).mp rfl
      rw [utf8Size_of_lt hc, Nat.lt_one_iff] at hlt
      exact ⟨t, hlt ▸ isAt_zero (d :: t)⟩
    · rw [List.getElem?_append_right (by simpa using hle), String.length_utf8EncodeChar] at h
      obtain ⟨r, hr⟩ := ih h
      have hcons := hr.cons d
      rw [Nat.add_sub_cancel' hle] at hcons
      exact ⟨r, hcons⟩

theorem getElem?_encode_eq_some_iff (hc : c.toNat < 128) :
    (encode t)[offset]? = some c.toUInt8 ↔ ∃ r, IsAt t offset (c :: r) := by
  refine ⟨exists_isAt_of_getElem?_encode hc, ?_⟩
  rintro ⟨r, hr⟩
  rw [hr.getElem?_encode, encode_cons, utf8EncodeChar_of_lt hc]
  rfl

end ComponentFile.Text
