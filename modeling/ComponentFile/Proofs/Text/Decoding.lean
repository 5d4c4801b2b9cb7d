import ComponentFile.Proofs.Text.Bytes

/-!
# Decoding what was encoded

Lenient decoding puts a replacement character for every faulty part.  In the UTF-8 form of a text
there is none: the first byte of a character says how many bytes follow and which ones, and the
bytes that do follow are within these bounds.

## Main results

* `Text.leadRole_two`, `Text.leadRole_three`, `Text.leadRole_four` : the first byte of a longer
  character.
* `Text.Unfinished.role_ofNat` : the bytes behind it.
* `Text.decodeLossy_encode` : a text is decoded from its UTF-8 form.
-/

namespace ComponentFile.Text

variable {bits k missing n read : Nat} {low high : UInt8} {u : Unfinished}

/-! ### First bytes -/

theorem leadRole_one (h : n < 128) : leadRole (UInt8.ofNat n) = .character (Char.ofNat n) := by
  have hnat : (UInt8.ofNat n).toNat = n := UInt8.toNat_ofNat_of_lt' (h.trans (by decide))
  have hlt : UInt8.ofNat n < 0x80 := UInt8.lt_iff_toNat_lt.mpr (hnat.trans_lt h)
  rw [leadRole, if_pos hlt, hnat]

/-- The first of two bytes has five bits, and they are not 0 or 1. -/
theorem leadRole_two (hlow : 2 ≤ bits) (hhigh : bits < 32) :
    leadRole (UInt8.ofNat (bits + 192)) = .unfinished ⟨bits, 1, 1, 0x80, 0xBF⟩ := by
  interval_cases bits <;> rfl

/-- The first of three bytes has four bits.  The byte behind it is bounded where the same character
would have a shorter form, and where there are no characters. -/
theorem leadRole_three (h : bits < 16) :
    leadRole (UInt8.ofNat (bits + 224)) =
      .unfinished ⟨bits, 1, 2, if bits = 0 then 0xA0 else 0x80,
        if bits = 13 then 0x9F else 0xBF⟩ := by
  interval_cases bits <;> rfl

/-- The first of four bytes has three bits, which are not more than 4. -/
theorem leadRole_four (h : bits < 5) :
    leadRole (UInt8.ofNat (bits + 240)) =
      .unfinished ⟨bits, 1, 3, if bits = 0 then 0x90 else 0x80,
        if bits = 4 then 0x8F else 0xBF⟩ := by
  interval_cases bits <;> rfl

/-! ### Bytes behind the first one -/

/-- A byte within its bounds has six more bits. -/
theorem Unfinished.role_ofNat (h : k < 64) (hlow : u.low.toNat ≤ k + 128)
    (hhigh : k + 128 ≤ u.high.toNat) :
    u.role (UInt8.ofNat (k + 128)) =
      if u.missing ≤ 1 then .character (Char.ofNat (u.bits * 64 + k))
      else .unfinished ⟨u.bits * 64 + k, u.read + 1, u.missing - 1, 0x80, 0xBF⟩ := by
  have hnat : (UInt8.ofNat (k + 128)).toNat = k + 128 :=
    UInt8.toNat_ofNat_of_lt' (Nat.lt_of_lt_of_le (Nat.add_lt_add_right h 128) (by decide))
  have hbounds : u.low ≤ UInt8.ofNat (k + 128) ∧ UInt8.ofNat (k + 128) ≤ u.high := by
    rw [UInt8.le_iff_toNat_le, UInt8.le_iff_toNat_le, hnat]
    exact ⟨hlow, hhigh⟩
  rw [role, if_pos hbounds, hnat, Nat.add_sub_cancel]

/-! ### Characters -/

theorem decodeLossyFrom_first {b : UInt8} (h : leadRole b = .unfinished u) (done : Text)
    (bytes : Bytes) :
    decodeLossyFrom done none (b :: bytes) = decodeLossyFrom done (some u) bytes := by
  rw [decodeLossyFrom, h]

theorem decodeLossyFrom_middle (h : k < 64) (hlow : low.toNat ≤ k + 128)
    (hhigh : k + 128 ≤ high.toNat) (done : Text) (bytes : Bytes) :
    decodeLossyFrom done (some ⟨bits, read, missing + 2, low, high⟩)
        (UInt8.ofNat (k + 128) :: bytes) =
      decodeLossyFrom done (some ⟨bits * 64 + k, read + 1, missing + 1, 0x80, 0xBF⟩) bytes := by
  rw [decodeLossyFrom, Unfinished.role_ofNat h hlow hhigh, if_neg (by simp)]
  rfl

theorem decodeLossyFrom_last (h : k < 64) (hlow : low.toNat ≤ k + 128)
    (hhigh : k + 128 ≤ high.toNat) (done : Text) (bytes : Bytes) :
    decodeLossyFrom done (some ⟨bits, read, 1, low, high⟩) (UInt8.ofNat (k + 128) :: bytes) =
      decodeLossyFrom (Char.ofNat (bits * 64 + k) :: done) none bytes := by
  rw [decodeLossyFrom, Unfinished.role_ofNat h hlow hhigh, if_pos (Nat.le_refl 1)]

/-- A character is read from its bytes. -/
theorem decodeLossyFrom_utf8EncodeChar (c : Char) (done : Text) (bytes : Bytes) :
    decodeLossyFrom done none (String.utf8EncodeChar c ++ bytes) =
      decodeLossyFrom (c :: done) none bytes := by
  have hvalid : c.val.toNat < 55296 ∨ 57343 < c.val.toNat ∧ c.val.toNat < 1114112 := c.valid
  have hchar (m : Nat) (hm : m = c.val.toNat) : Char.ofNat m = c := by
    rw [hm]
    exact Char.ofNat_toNat c
  -- six bits are within the bounds of every byte but the second
  have hbits (m : Nat) : m % 64 < 64 := Nat.mod_lt m (by decide)
  have hlow (m : Nat) : (0x80 : UInt8).toNat ≤ m % 64 + 128 := Nat.le_add_left 128 _
  have hhigh (m : Nat) : m % 64 + 128 ≤ (0xBF : UInt8).toNat :=
    Nat.add_le_add_right (Nat.le_of_lt_succ (hbits m)) 128
  fun_cases String.utf8EncodeChar c with
  | case1 v h =>
    simp only [List.cons_append, List.nil_append, decodeLossyFrom,
      leadRole_one (Nat.lt_succ_of_le h), hchar v rfl]
  | case2 v h h' =>
    simp only [List.cons_append, List.nil_append]
    rw [decodeLossyFrom_first (leadRole_two (by omega) (by omega)),
      decodeLossyFrom_last (hbits v) (hlow v) (hhigh v), hchar _ (by omega)]
  | case3 v h h' h'' =>
    -- below 32 there is a shorter form, and above 31 there are no characters
    have hfirst : (if v / 4096 % 16 = 0 then 0xA0 else 0x80 : UInt8).toNat ≤
        v / 64 % 64 + 128 := by
      split
      · exact Nat.add_le_add_right (by omega : 32 ≤ v / 64 % 64) 128
      · exact hlow _
    have hsecond : v / 64 % 64 + 128 ≤
        (if v / 4096 % 16 = 13 then 0x9F else 0xBF : UInt8).toNat := by
      split
      · exact Nat.add_le_add_right (by omega : v / 64 % 64 ≤ 31) 128
      · exact hhigh _
    simp only [List.cons_append, List.nil_append]
    rw [decodeLossyFrom_first (leadRole_three (by omega)),
      decodeLossyFrom_middle (hbits _) hfirst hsecond,
      decodeLossyFrom_last (hbits v) (hlow v) (hhigh v), hchar _ (by omega)]
  | case4 v h h' h'' =>
    -- below 16 there is a shorter form, and above 15 there are no characters
    have hfirst : (if v / 262144 % 8 = 0 then 0x90 else 0x80 : UInt8).toNat ≤
        v / 4096 % 64 + 128 := by
      split
      · exact Nat.add_le_add_right (by omega : 16 ≤ v / 4096 % 64) 128
      · exact hlow _
    have hsecond : v / 4096 % 64 + 128 ≤
        (if v / 262144 % 8 = 4 then 0x8F else 0xBF : UInt8).toNat := by
      split
      · exact Nat.add_le_add_right (by omega : v / 4096 % 64 ≤ 15) 128
      · exact hhigh _
    simp only [List.cons_append, List.nil_append]
    rw [decodeLossyFrom_first (leadRole_four (by omega)),
      decodeLossyFrom_middle (hbits _) hfirst hsecond,
      decodeLossyFrom_middle (hbits _) (hlow _) (hhigh _),
      decodeLossyFrom_last (hbits v) (hlow v) (hhigh v), hchar _ (by omega)]

/-- A text is decoded from its UTF-8 form. -/
theorem decodeLossy_encode (t : Text) : decodeLossy (encode t) = t := by
  have hall (done : Text) : decodeLossyFrom done none (encode t) = done.reverse ++ t := by
    induction t generalizing done with
    | nil => simp [decodeLossyFrom]
    | cons c t ih => rw [encode_cons, decodeLossyFrom_utf8EncodeChar, ih]; simp
  exact hall []

theorem encode_injective : Function.Injective encode :=
  Function.LeftInverse.injective decodeLossy_encode

end ComponentFile.Text
