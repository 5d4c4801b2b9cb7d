import ComponentFile.Text.Utf8

/-!
# Byte offsets

A byte offset points between two characters of a text exactly when the text falls there into two
parts, of which the first has as many bytes.

## Main definitions

* `Text.IsBoundary` : the offsets between two characters.

## Main results

* `Text.slice?_append` : a part of a text is cut out by the offsets of its ends.
* `Text.slice?_append_of_le`, `Text.slice?_append_add` : what is cut out of one of two parts of a
  text.
* `Text.isSome_slice?_iff` : a part can be cut out exactly between two boundaries in order.
* `Text.infix_of_slice?` : what is cut out of a text is a part of it.
-/

namespace ComponentFile.Text

variable {a b c t : Text} {offset : Nat}

/-- The offsets between two characters of a text, and at its ends. -/
def IsBoundary (t : Text) (offset : Nat) : Prop :=
  ∃ a b, t = a ++ b ∧ byteLength a = offset

theorem byteLength_pos (h : t ≠ []) : 0 < byteLength t := by
  obtain ⟨c, u, rfl⟩ := List.exists_cons_of_ne_nil h
  have hc := Char.utf8Size_pos c
  rw [byteLength_cons]
  omega

/-- A part of a text is cut out by the offsets of its ends. -/
theorem slice?_append (a b c : Text) :
    slice? (a ++ (b ++ c)) (byteLength a) (byteLength a + byteLength b) = some b := by
  have hstop : splitBytes? (byteLength a + byteLength b) (a ++ (b ++ c)) = some (a ++ b, c) := by
    rw [← byteLength_append, ← List.append_assoc, splitBytes?_append]
  simp [slice?, hstop]

/-- Where a text is cut does not depend on the text behind it. -/
theorem splitBytes?_append_of_le {n : Nat} (h : n ≤ byteLength a) (b : Text) :
    splitBytes? n (a ++ b) = (splitBytes? n a).map fun parts ↦ (parts.1, parts.2 ++ b) := by
  induction n, a using splitBytes?.induct with
  | case1 a => simp [splitBytes?]
  | case2 n => exact absurd h (Nat.not_succ_le_zero n)
  | case3 n c a hle ih =>
    rw [byteLength_cons] at h
    rw [List.cons_append, splitBytes?, splitBytes?, if_pos hle, if_pos hle, ih (by omega)]
    simp only [Option.map_map, Function.comp_def]
  | case4 n c a hle =>
    rw [List.cons_append, splitBytes?, splitBytes?, if_neg hle, if_neg hle, Option.map_none]

/-- An offset behind the first part of a text is an offset into the rest. -/
theorem splitBytes?_append_add (a b : Text) (n : Nat) :
    splitBytes? (byteLength a + n) (a ++ b) =
      (splitBytes? n b).map fun parts ↦ (a ++ parts.1, parts.2) := by
  induction a with
  | nil => simp
  | cons c a ih =>
    have hpos := Char.utf8Size_pos c
    obtain ⟨m, hm⟩ : ∃ m, byteLength (c :: a) + n = m + 1 :=
      ⟨byteLength (c :: a) + n - 1, by rw [byteLength_cons]; omega⟩
    rw [byteLength_cons] at hm
    have hsub : m + 1 - c.utf8Size = byteLength a + n := by omega
    rw [byteLength_cons, hm, List.cons_append, splitBytes?, if_pos (by omega), hsub, ih]
    simp only [Option.map_map, Function.comp_def, List.cons_append]

/-- What is cut out of the first part of a text is cut out of that part. -/
theorem slice?_append_of_le {start stop : Nat} (h : stop ≤ byteLength a) (b : Text) :
    slice? (a ++ b) start stop = slice? a start stop := by
  rw [slice?, splitBytes?_append_of_le h, slice?]
  cases splitBytes? stop a <;> rfl

/-- What is cut out of a text behind its first part is cut out of the rest. -/
theorem slice?_append_add (a b : Text) (start stop : Nat) :
    slice? (a ++ b) (byteLength a + start) (byteLength a + stop) = slice? b start stop := by
  rw [slice?, splitBytes?_append_add, slice?]
  cases splitBytes? stop b with
  | none => rfl
  | some parts =>
    simp only [Option.map_some, Option.bind_eq_bind, Option.bind_some, splitBytes?_append_add]
    cases splitBytes? start parts.1 <;> rfl

theorem append_of_splitBytes? {n : Nat} {parts : Text × Text}
    (h : splitBytes? n t = some parts) : parts.1 ++ parts.2 = t := by
  induction n, t using splitBytes?.induct generalizing parts with
  | case1 t =>
    rw [splitBytes?, Option.some.injEq] at h
    rw [← h, List.nil_append]
  | case2 n => cases h
  | case3 n c t hle ih =>
    rw [splitBytes?, if_pos hle] at h
    obtain ⟨inner, hinner, rfl⟩ := Option.map_eq_some_iff.mp h
    rw [List.cons_append, ih hinner]
  | case4 n c t hle =>
    rw [splitBytes?, if_neg hle] at h
    cases h

theorem byteLength_of_splitBytes? {n : Nat} {parts : Text × Text}
    (h : splitBytes? n t = some parts) : byteLength parts.1 = n := by
  induction n, t using splitBytes?.induct generalizing parts with
  | case1 t =>
    rw [splitBytes?, Option.some.injEq] at h
    rw [← h]
    rfl
  | case2 n => cases h
  | case3 n c t hle ih =>
    rw [splitBytes?, if_pos hle] at h
    obtain ⟨inner, hinner, rfl⟩ := Option.map_eq_some_iff.mp h
    rw [byteLength_cons, ih hinner]
    omega
  | case4 n c t hle =>
    rw [splitBytes?, if_neg hle] at h
    cases h

/-- A part can be cut out exactly when its ends are in order and between characters. -/
theorem isSome_slice?_iff {start stop : Nat} :
    (slice? t start stop).isSome ↔ start ≤ stop ∧ IsBoundary t start ∧ IsBoundary t stop := by
  constructor
  · intro h
    obtain ⟨b, hb⟩ := Option.isSome_iff_exists.mp h
    simp only [slice?, bind, pure, Option.bind_eq_some_iff, Option.some.injEq] at hb
    obtain ⟨outer, houter, inner, hinner, rfl⟩ := hb
    have hstop := byteLength_of_splitBytes? houter
    have hstart := byteLength_of_splitBytes? hinner
    have ht := append_of_splitBytes? houter
    have hhead := append_of_splitBytes? hinner
    have hlen := congrArg byteLength hhead
    rw [byteLength_append] at hlen
    refine ⟨by omega, ⟨inner.1, inner.2 ++ outer.2, ?_, hstart⟩, ⟨outer.1, outer.2, ht.symm, hstop⟩⟩
    rw [← List.append_assoc, hhead, ht]
  · rintro ⟨hle, ⟨a, b, rfl, rfl⟩, ⟨c, d, happ, rfl⟩⟩
    obtain ⟨m, rfl, rfl⟩ | ⟨m, rfl, rfl⟩ := List.append_eq_append_iff.mp happ
    · rw [byteLength_append, slice?_append]
      rfl
    · rw [byteLength_append] at hle
      cases m with
      | nil =>
        have hslice := slice?_append c [] b
        simp only [byteLength_nil, Nat.add_zero, List.nil_append, List.append_nil] at hslice ⊢
        rw [hslice]
        rfl
      | cons e m =>
        -- the part that ends first cannot be the longer one
        have hpos := byteLength_pos (List.cons_ne_nil e m)
        omega

/-- What is cut out of a text occurs in it. -/
theorem infix_of_slice? {start stop : Nat} (h : slice? t start stop = some b) : b <:+: t := by
  simp only [slice?, bind, pure, Option.bind_eq_some_iff, Option.some.injEq] at h
  obtain ⟨outer, houter, inner, hinner, rfl⟩ := h
  refine ⟨inner.1, outer.2, ?_⟩
  rw [append_of_splitBytes? hinner, append_of_splitBytes? houter]

end ComponentFile.Text
