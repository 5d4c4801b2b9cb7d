import ComponentFile.Proofs.Markup.Scanner.Basic
import ComponentFile.Proofs.Text.Search

/-!
# What a scan finds at an offset

A scan goes from one boundary between characters to another.  At a boundary every access succeeds
and finds what a reader of the remaining text finds: the first character shows in one byte, a run of
bytes is a run of characters, and a part of the text is cut out where it stands.  The new offset is
the one at which the text begins that the reader leaves, which is again a boundary.

## Main definitions

* `Scanner.Round.Keeps` : a round that goes forward to a boundary and keeps an invariant.

## Main results

* `Scanner.exists_cut_eq_ok_iff` : which parts are cut out without a fault.
* `Scanner.skipWhile_eq`, `Scanner.skipPast_eq`, `Scanner.readName_eq` : what the parts of a scan
  find.
* `Scanner.exists_repeatRounds_eq_ok` : a loop whose rounds keep an invariant comes to an end.
* `Scanner.repeatRounds_eq` : a loop whose rounds keep the answer finds it.
-/

namespace ComponentFile.Markup.Scanner

open Text

universe u v

variable {c : Char} {n offset : Nat} {p : UInt8 → Bool} {P : Char → Bool} {r s t : Text}

@[simp] theorem ok_bind {α : Type u} {β : Type u} (a : α) (f : α → Checked β) :
    ((Except.ok a : Checked α) >>= f) = f a := rfl

@[simp] theorem return_eq_ok {α : Type u} (a : α) : (pure a : Checked α) = .ok a := rfl

/-! ### Single bytes -/

theorem byteAt?_eq_none (h : IsAt t offset []) : byteAt? t offset = none :=
  h.getElem?_encode

/-- At the offset of a character stands one of its bytes. -/
theorem exists_byteAt?_eq (h : IsAt t offset (c :: r)) :
    ∃ b ∈ String.utf8EncodeChar c, byteAt? t offset = some b := by
  obtain ⟨b, hb, hhead⟩ := exists_head?_utf8EncodeChar c
  exact ⟨b, hb, by rw [byteAt?, h.getElem?_encode, encode_cons, List.head?_append, hhead,
    Option.some_or]⟩

/-- A character of ASCII is found as a byte. -/
theorem byteAt?_eq_some_iff (h : IsAt t offset r) (hc : c.toNat < 128) :
    byteAt? t offset = some c.toUInt8 ↔ r.head? = some c := by
  cases r with
  | nil => simp [byteAt?_eq_none h]
  | cons d r =>
    obtain ⟨b, hb, hbyte⟩ := exists_byteAt?_eq h
    simp [hbyte, eq_toUInt8_iff hb hc]

theorem any_byteAt? (h : IsAt t offset r) (hp : IsByteClass p P) :
    (byteAt? t offset).any p = r.head?.any P := by
  cases r with
  | nil => simp [byteAt?_eq_none h]
  | cons d r =>
    obtain ⟨b, hb, hbyte⟩ := exists_byteAt?_eq h
    simp [hbyte, hp d b hb]

theorem all_byteAt? (h : IsAt t offset r) (hp : IsByteClass p P) :
    (byteAt? t offset).all p = r.head?.all P := by
  cases r with
  | nil => simp [byteAt?_eq_none h]
  | cons d r =>
    obtain ⟨b, hb, hbyte⟩ := exists_byteAt?_eq h
    simp [hbyte, hp d b hb]

/-! ### Classes of bytes -/

theorem isByteClass_isSpaceByte : IsByteClass isSpaceByte isSpace :=
  ((((isByteClass_beq (by decide)).or (isByteClass_beq (by decide))).or
    (isByteClass_beq (by decide))).or (isByteClass_beq (by decide))).or
    (isByteClass_beq (by decide))

theorem isByteClass_isNameEndByte : IsByteClass isNameEndByte isNameEnd :=
  (isByteClass_isSpaceByte.or (isByteClass_beq (by decide))).or (isByteClass_beq (by decide))

theorem isByteClass_isAlphaByte : IsByteClass isAlphaByte Char.isAlpha := by
  have hupper := @isByteClass_range 'A' 'Z' (by decide) (by decide)
  have hlower : IsByteClass (fun b ↦ decide (b ≥ 'a'.toUInt8 ∧ b ≤ 'z'.toUInt8)) Char.isLower := by
    intro c b hb
    rw [Char.isLower, ← Bool.decide_and]
    exact isByteClass_range (by decide) (by decide) c b hb
  exact hupper.or hlower

/-! ### Parts of the text -/

/-- A part is cut out without a fault exactly when its ends are in order and between characters. -/
theorem exists_cut_eq_ok_iff {start stop : Nat} :
    (∃ part, cut t start stop = .ok part) ↔
      start ≤ stop ∧ IsBoundary t start ∧ IsBoundary t stop := by
  rw [← isSome_slice?_iff, cut]
  cases slice? t start stop with
  | none => simp [throw, throwThe, MonadExceptOf.throw]
  | some part => simp

/-- An offset inside a character is a fault. -/
example : cut ['é', '<'] 1 3 = .error (.noPart 1 3) := by decide

theorem cut_eq (h : IsAt t offset (s ++ r)) : cut t offset (offset + byteLength s) = .ok s := by
  rw [cut, h.slice?_eq]
  rfl

/-- A part of the text is cut out up to where the text behind it begins. -/
theorem cut_startOf (h : IsAt t offset (s ++ r)) : cut t offset (startOf t r) = .ok s := by
  rw [← h.append.eq_startOf, cut_eq h]

theorem cutFrom_eq (h : IsAt t offset r) : cutFrom t offset = .ok r := by
  rw [cutFrom, cut, h.slice?_byteLength]
  rfl

theorem bytesBetween_eq (h : IsAt t offset r) (hn : n ≤ byteLength r) :
    bytesBetween t offset (offset + n) = .ok ((encode r).take n) := by
  have hlen := h.add_byteLength
  rw [bytesBetween, if_pos ⟨by omega, by omega⟩, List.drop_take, h.drop_encode,
    Nat.add_sub_cancel_left]
  rfl

/-- The bytes of a class behind an offset are passed over. -/
theorem skipWhile_eq_add (t : Text) (p : UInt8 → Bool) (offset : Nat) :
    skipWhile t p offset =
      .ok (offset + (((encode t).drop offset).takeWhile p).length) := by
  fun_induction skipWhile t p offset with
  | case1 offset h ih =>
    have hlt : offset < (encode t).length := by rwa [length_encode]
    have hbyte : byteAt t offset = .ok (encode t)[offset] := by
      rw [byteAt, List.getElem?_eq_getElem hlt]
      rfl
    rw [hbyte, ok_bind, List.drop_eq_getElem_cons hlt]
    cases hp : p (encode t)[offset] with
    | true =>
      rw [if_pos rfl, ih, List.takeWhile_cons_of_pos hp, List.length_cons, Nat.add_right_comm,
        Nat.add_assoc]
    | false =>
      rw [if_neg Bool.false_ne_true, List.takeWhile_cons_of_neg (by simp [hp])]
      rfl
  | case2 offset h =>
    have hnil : (encode t).drop offset = [] :=
      List.drop_eq_nil_of_le (by rw [length_encode]; exact Nat.le_of_not_lt h)
    rw [hnil]
    rfl

/-- The characters of a class at an offset are passed over. -/
theorem skipWhile_eq (h : IsAt t offset r) (hp : IsByteClass p P) :
    skipWhile t p offset = .ok (startOf t (r.dropWhile P)) := by
  rw [skipWhile_eq_add, h.drop_encode, takeWhile_encode hp, length_encode,
    (h.takeWhile_append_dropWhile P).append.eq_startOf]

/-- The next `c` and everything in front of it is passed over. -/
theorem skipPast_eq (h : IsAt t offset r) (c : Char) :
    skipPast t offset c = .ok (startOf t (through c r).2) := by
  rw [skipPast, cutFrom_eq h, ok_bind, offsetOf?]
  by_cases hc : c ∈ r
  · obtain ⟨s, u, rfl, hs⟩ := List.eq_append_cons_of_mem hc
    have hbehind : IsAt t (offset + byteLength (s ++ [c])) u := IsAt.append (by simpa using h)
    simp [cut?_singleton_append hs, through_append_cons hs, ← hbehind.eq_startOf, Nat.add_assoc]
  · have hnone : cut? [c] r = none := by
      rw [← Option.not_isSome_iff_eq_none, cut?_isSome_iff]
      exact fun hin ↦ hc (hin.subset (List.mem_singleton.mpr rfl))
    simp [hnone, through_of_not_mem hc, startOf]

/-- The name at an offset goes on up to the first character that ends names. -/
theorem readName_eq (h : IsAt t offset r) :
    readName t offset = .ok (lower (r.takeWhile fun c ↦ !isNameEnd c)) := by
  have hlen := h.add_byteLength
  have hbytes : bytesBetween t offset (byteLength t) = .ok (encode r) := by
    rw [← hlen, bytesBetween_eq h le_rfl, ← length_encode, List.take_length]
  -- the search for the end of the name stops behind the bytes of the name
  have hsize : ((encode r).findIdx? isNameEndByte).getD (byteLength t - offset) =
      byteLength (r.takeWhile fun c ↦ !isNameEnd c) := by
    have hrest : byteLength t - offset = (encode r).length := by
      rw [← hlen, Nat.add_sub_cancel_left, length_encode]
    rw [hrest, ← List.findIdx_eq_getD_findIdx?,
      ← length_encode (r.takeWhile fun c ↦ !isNameEnd c),
      ← takeWhile_encode isByteClass_isNameEndByte.not, List.takeWhile_eq_take_findIdx_not,
      List.length_take]
    simp only [Bool.not_not, min_eq_left List.findIdx_le_length]
  rw [readName, hbytes, ok_bind]
  simp only [hsize, cut_eq (h.takeWhile_append_dropWhile _), ok_bind, return_eq_ok]

/-! ### Loops -/

variable {σ : Type u} {α : Type v} {round : Nat → σ → Checked (Round σ α)} {outcome : Round σ α}
  {F G : Nat → Prop} {I J : Nat → σ → Prop} {Q R : α → Prop} {state : σ}

/-- A round goes forward from a place for which `F` holds to a boundary at which `I` holds, or is
done with a result for which `Q` holds. -/
def Round.Keeps (t : Text) (F : Nat → Prop) (I : Nat → σ → Prop) (Q : α → Prop) : Round σ α → Prop
  | .done result => Q result
  | .proceed start next state => F start ∧ start < next ∧ IsBoundary t next ∧ I next state

theorem Round.Keeps.imp (h : outcome.Keeps t F I Q) (hF : ∀ start, F start → G start)
    (hI : ∀ next state, I next state → J next state) (hQ : ∀ result, Q result → R result) :
    outcome.Keeps t G J R := by
  cases outcome with
  | done result => exact hQ result h
  | proceed start next state =>
    obtain ⟨hstart, hlt, hnext, hstate⟩ := h
    exact ⟨hF start hstart, hlt, hnext, hI next state hstate⟩

/-- A loop whose rounds keep an invariant comes to an end without a fault. -/
theorem exists_repeatRounds_eq_ok
    (hround : ∀ offset state, I offset state →
      ∃ outcome, round offset state = .ok outcome ∧ outcome.Keeps t (offset ≤ ·) I Q)
    (h : I offset state) : ∃ result, repeatRounds t round offset state = .ok result ∧ Q result := by
  fun_induction repeatRounds t round offset state with
  | case1 offset state fault hfault =>
    obtain ⟨outcome, hok, -⟩ := hround offset state h
    rw [hfault] at hok
    cases hok
  | case2 offset state result hdone =>
    obtain ⟨outcome, hok, hkeeps⟩ := hround offset state h
    rw [hdone] at hok
    cases hok
    exact ⟨result, rfl, hkeeps⟩
  | case3 offset state start next state' hproceed hforward ih =>
    obtain ⟨outcome, hok, hkeeps⟩ := hround offset state h
    rw [hproceed] at hok
    cases hok
    exact ih hkeeps.2.2.2
  | case4 offset state start next state' hproceed hstall =>
    obtain ⟨outcome, hok, hkeeps⟩ := hround offset state h
    rw [hproceed] at hok
    cases hok
    obtain ⟨hstart, hlt, hnext, -⟩ := hkeeps
    obtain ⟨r, hr⟩ := isBoundary_iff.mp hnext
    have hlen := hr.add_byteLength
    exact absurd ⟨hstart, hlt, by omega⟩ hstall

/-- A loop whose rounds keep the answer that the remaining text gives finds that answer. -/
theorem repeatRounds_eq (answer : σ → Text → α)
    (hround : ∀ offset state r, IsAt t offset r →
      ∃ outcome, round offset state = .ok outcome ∧ outcome.Keeps t (offset ≤ ·)
        (fun next state' ↦ ∃ s, IsAt t next s ∧ answer state' s = answer state r)
        (· = answer state r))
    (h : IsAt t offset r) (state : σ) :
    repeatRounds t round offset state = .ok (answer state r) := by
  obtain ⟨result, hresult, rfl⟩ := exists_repeatRounds_eq_ok
    (I := fun next state' ↦ ∃ s, IsAt t next s ∧ answer state' s = answer state r)
    (Q := (· = answer state r))
    (fun next state' ⟨s, hs, hanswer⟩ ↦ hanswer ▸ hround next state' s hs) ⟨r, h, rfl⟩
  exact hresult

end ComponentFile.Markup.Scanner
