import ComponentFile.Text.Utf8
import Mathlib.Data.List.Basic
import Mathlib.Data.List.TakeWhile

/-!
# Cutting texts

Readers cut a text in front of the first character that has left a class, behind the first
occurrence of a character, or around the first occurrence of a key.  Each of these cuts is
described here by what the two sides look like, so that a reader that is built from them can be
described by what it reads.

## Main results

* `Text.dropWhile_append_eq`, `Text.takeWhile_append_eq` : a run of characters ends where the
  first character outside its class stands.
* `Text.through_eq_iff` : a text is split behind the first occurrence of a character.
* `Text.cut?_isSome_iff` : a key is found exactly when it occurs.
* `Text.cut?_append_of_cut?` : where a key is found does not depend on the text behind it.
-/

namespace ComponentFile.Text

variable {c : Char} {p : Char → Bool} {key s t u : Text}

/-! ### Runs of characters -/

theorem takeWhile_append_eq (hs : ∀ d ∈ s, p d = true) (ht : ∀ d ∈ t.head?, p d = false) :
    (s ++ t).takeWhile p = s := by
  rw [List.takeWhile_append_of_pos hs]
  cases t with
  | nil => simp
  | cons d t => simp [ht d rfl]

theorem dropWhile_append_eq (hs : ∀ d ∈ s, p d = true) (ht : ∀ d ∈ t.head?, p d = false) :
    (s ++ t).dropWhile p = t := by
  rw [List.dropWhile_append_of_pos hs]
  cases t with
  | nil => rfl
  | cons d t => simp [ht d rfl]

/-- Behind a run stands a character outside its class, if any. -/
theorem head?_dropWhile_eq_false (p : Char → Bool) (t : Text) :
    ∀ d ∈ (t.dropWhile p).head?, p d = false := by
  intro d hd
  have h := List.head?_dropWhile_not p t
  rw [Option.mem_def] at hd
  simpa [hd] using h

/-- A run that ends within a text ends there in every longer text. -/
theorem dropWhile_append_of_exists (hs : ∃ d ∈ s, p d = false) :
    (s ++ t).dropWhile p = s.dropWhile p ++ t := by
  have hne : s.dropWhile p ≠ [] := by
    obtain ⟨d, hd, hpd⟩ := hs
    intro h
    exact absurd (List.dropWhile_eq_nil_iff.mp h d hd) (by simp [hpd])
  rw [List.dropWhile_append, if_neg (by simpa using hne)]

/-! ### Behind a character -/

theorem through_append_cons (h : c ∉ s) : through c (s ++ c :: t) = (s ++ [c], t) := by
  have hs : ∀ d ∈ s, (d != c) = true := fun d hd ↦ by
    simpa using fun e : d = c ↦ h (e ▸ hd)
  have ht : ∀ d ∈ (c :: t).head?, (d != c) = false := by simp
  simp [through, takeWhile_append_eq hs ht, dropWhile_append_eq hs ht]

theorem through_of_not_mem (h : c ∉ t) : through c t = (t, []) := by
  have ht : ∀ d ∈ t, (d != c) = true := fun d hd ↦ by
    simpa using fun e : d = c ↦ h (e ▸ hd)
  simp [through, List.takeWhile_eq_self_iff.mpr ht, List.dropWhile_eq_nil_iff.mpr ht]

/-- The part of a text that is split off behind a character, in front of the text `rest`. -/
def IsThrough (c : Char) (rest s : Text) : Prop :=
  (∃ p, s = p ++ [c] ∧ c ∉ p) ∨ (c ∉ s ∧ rest = [])

/-- A character stands nowhere in front of its first occurrence. -/
theorem isPrefix_of_append_eq (hs : c ∉ s) {before rest : Text}
    (happ : s ++ u = before ++ c :: rest) : s <+: before := by
  obtain hle | ⟨m, hm⟩ := List.prefix_or_prefix_of_prefix ⟨u, happ⟩ (List.prefix_append before _)
  · exact hle
  · cases m with
    | nil => exact ⟨[], by simp [← hm]⟩
    | cons d m =>
      rw [← hm, List.append_assoc, List.append_cancel_left_eq] at happ
      obtain ⟨rfl, -⟩ := List.cons.inj happ
      exact absurd (hm ▸ List.mem_append_right before List.mem_cons_self) hs

/-- A text is split exactly where the character first occurs, or at its end. -/
theorem through_eq_iff : through c t = (s, u) ↔ t = s ++ u ∧ IsThrough c u s := by
  constructor
  · intro h
    have happ := through_append c t
    rw [h] at happ
    refine ⟨happ.symm, ?_⟩
    by_cases hc : c ∈ t
    · obtain ⟨p, q, rfl, hp⟩ := List.eq_append_cons_of_mem hc
      rw [through_append_cons hp, Prod.mk.injEq] at h
      exact .inl ⟨p, h.1.symm, hp⟩
    · rw [through_of_not_mem hc, Prod.mk.injEq] at h
      exact .inr ⟨h.1 ▸ hc, h.2.symm⟩
  · rintro ⟨rfl, ⟨p, rfl, hp⟩ | ⟨hs, rfl⟩⟩
    · simpa using through_append_cons (t := u) hp
    · simpa using through_of_not_mem hs

theorem isThrough_through (c : Char) (t : Text) : IsThrough c (through c t).2 (through c t).1 :=
  (through_eq_iff.mp rfl).2

theorem head?_through (c : Char) (t : Text) : (through c t).1.head? = t.head? := by
  have happ := through_append c t
  obtain ⟨p, hp, -⟩ | ⟨-, hnil⟩ := isThrough_through c t
  · have hhead : ((through c t).1 ++ (through c t).2).head? = (through c t).1.head? :=
      List.head?_append_of_ne_nil _ (by simp [hp])
    rw [← hhead, happ]
  · rw [hnil, List.append_nil] at happ
    rw [happ]

theorem through_cons_of_ne {d : Char} (h : d ≠ c) (t : Text) :
    through c (d :: t) = (d :: (through c t).1, (through c t).2) := by
  simp [through, h]

theorem through_append_of_not_mem (h : c ∉ s) (t : Text) :
    through c (s ++ t) = (s ++ (through c t).1, (through c t).2) := by
  refine through_eq_iff.mpr ⟨by simp, ?_⟩
  obtain ⟨p, hp, hcp⟩ | ⟨hnot, hnil⟩ := isThrough_through c t
  · exact .inl ⟨s ++ p, by simp [hp], by simp [h, hcp]⟩
  · exact .inr ⟨by simp [h, hnot], hnil⟩

/-- Nothing but the end of the text hides the character. -/
theorem IsThrough.exists_eq_append (h : IsThrough c u s) (hu : u ≠ []) :
    ∃ p, s = p ++ [c] ∧ c ∉ p :=
  h.resolve_right fun h ↦ hu h.2

/-! ### Around a key -/

@[simp] theorem cut?_nil_key (t : Text) : cut? [] t = some ([], t) := by
  cases t <;> simp [cut?]

/-- A key at the front of a text is found there. -/
theorem cut?_append_self (key t : Text) : cut? key (key ++ t) = some ([], t) := by
  cases key with
  | nil => exact cut?_nil_key t
  | cons k key =>
    have h : (k :: key).isPrefixOf (k :: (key ++ t)) = true :=
      List.isPrefixOf_iff_prefix.mpr ⟨t, rfl⟩
    simp [cut?, h]

theorem cut?_cons_of_not_prefix_cons (h : ¬key <+: c :: t) :
    cut? key (c :: t) = (cut? key t).map fun parts ↦ (c :: parts.1, parts.2) := by
  have hp : key.isPrefixOf (c :: t) = false := by
    rw [Bool.eq_false_iff]
    exact fun e ↦ h (List.isPrefixOf_iff_prefix.mp e)
  simp [cut?, hp]

/-- A key is found exactly when it occurs. -/
theorem cut?_isSome_iff : (cut? key t).isSome ↔ key <:+: t := by
  induction t with
  | nil => cases key <;> simp [cut?]
  | cons c t ih =>
    rw [List.infix_cons_iff, ← ih]
    by_cases h : key <+: c :: t
    · obtain ⟨rest, hrest⟩ := h
      rw [← hrest, cut?_append_self]
      simp
    · rw [cut?_cons_of_not_prefix_cons h]
      simp [h]

/-- A key occurs in a text exactly when a search finds it. -/
theorem contains_iff : contains key t = true ↔ key <:+: t :=
  cut?_isSome_iff

/-- Where a key is found does not depend on the text behind it. -/
theorem cut?_append_of_cut? {parts : Text × Text} (h : cut? key t = some parts) (u : Text) :
    cut? key (parts.1 ++ key ++ u) = some (parts.1, u) := by
  induction t generalizing parts with
  | nil =>
    cases key with
    | nil => cases h; exact cut?_nil_key u
    | cons k key => simp [cut?] at h
  | cons c t ih =>
    by_cases hp : key <+: c :: t
    · obtain ⟨rest, hrest⟩ := hp
      rw [← hrest, cut?_append_self] at h
      cases h
      simpa using cut?_append_self key u
    · rw [cut?_cons_of_not_prefix_cons hp] at h
      obtain ⟨inner, hinner, rfl⟩ := Option.map_eq_some_iff.mp h
      have happ := eq_append_of_cut? hinner
      -- a key that fits at `c` would lie within the part in front of the text that is exchanged
      have hnot : ¬key <+: c :: (inner.1 ++ key ++ u) := by
        intro hfit
        apply hp
        have hlong : key <+: c :: (inner.1 ++ key) :=
          List.prefix_of_prefix_length_le hfit ⟨u, by simp⟩ (by simp; omega)
        rw [happ]
        exact hlong.trans ⟨inner.2, by simp⟩
      have hstep := cut?_cons_of_not_prefix_cons hnot
      simp only [List.cons_append] at hstep ⊢
      rw [hstep, ih hinner]
      rfl

/-- A key does not occur before the place where it is found. -/
theorem not_infix_of_cut? {parts : Text × Text} (h : cut? key t = some parts) (hkey : key ≠ []) :
    ¬key <:+: parts.1 := by
  intro hin
  obtain ⟨first, hfirst⟩ := Option.isSome_iff_exists.mp (cut?_isSome_iff.mpr hin)
  have ht := eq_append_of_cut? h
  have hparts := eq_append_of_cut? hfirst
  have hcut := cut?_append_of_cut? hfirst (first.2 ++ key ++ parts.2)
  rw [← List.append_assoc, ← List.append_assoc, ← hparts, ← ht, h, Option.some.injEq] at hcut
  have hlen := congrArg List.length hparts
  have hpos := List.length_pos_iff.mpr hkey
  rw [hcut] at hlen
  simp only [List.length_append] at hlen
  omega

/-- A single character is found at its first occurrence. -/
theorem cut?_singleton_append (h : c ∉ s) (t : Text) : cut? [c] (s ++ c :: t) = some (s, t) := by
  induction s with
  | nil => exact cut?_append_self [c] t
  | cons d s ih =>
    obtain ⟨hd, hs⟩ := not_or.mp (List.mem_cons.not.mp h)
    have hnot : ¬[c] <+: d :: (s ++ c :: t) := by
      intro hfit
      exact hd (List.cons_prefix_cons.mp hfit).1
    rw [List.cons_append, cut?_cons_of_not_prefix_cons hnot, ih hs]
    rfl

/-- In front of the first occurrence of a character the character does not occur. -/
theorem not_mem_of_cut?_singleton {parts : Text × Text} (h : cut? [c] t = some parts) :
    c ∉ parts.1 := by
  intro hc
  obtain ⟨s, u, hsu, -⟩ := List.eq_append_cons_of_mem hc
  exact not_infix_of_cut? h (List.cons_ne_nil c []) ⟨s, u, by simp [hsu]⟩

end ComponentFile.Text
