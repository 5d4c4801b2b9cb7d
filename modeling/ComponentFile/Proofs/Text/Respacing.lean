import ComponentFile.Proofs.Text.BlankLines

/-!
# Changes of white space

A change of white space acts on the white space between other characters and leaves these as they
are: no character is taken from between two others unless it is white space, and white space does
not vanish altogether.  What a text looks like to a reader that only asks for other characters, and
for the presence of white space between them, is the same before and after.

## Main definitions

* `IsRespacing` : the changes of white space.

## Main results

* `isRespacing_squeeze` : taking out blank lines is one.
* `IsRespacing.exists_eq_append_cons` : a character that is no white space stands in the new text
  where it stands in the old one.
* `IsRespacing.forall_head?_iff` : the class of the first character stays.
-/

namespace ComponentFile.Text

variable {f : Text → Text} {c : Char} {key s t u : Text}

/-- A change of white space. -/
structure IsRespacing (f : Text → Text) : Prop where
  append_cons {c : Char} (hc : isSpace c = false) (s t : Text) :
    f (s ++ c :: t) = f s ++ c :: f t
  subset (t : Text) : f t ⊆ t
  eq_nil {t : Text} (h : f t = []) : t = []

/-- Taking out blank lines changes white space only. -/
theorem isRespacing_squeeze : IsRespacing squeeze :=
  ⟨squeeze_append_cons, fun t ↦ (squeeze_sublist t).subset, eq_nil_of_squeeze_eq_nil⟩

/-- A text is white space, or white space in front of another character. -/
theorem exists_eq_spaces_append (t : Text) :
    (∀ c ∈ t, isSpace c = true) ∨
      ∃ w c u, t = w ++ c :: u ∧ (∀ d ∈ w, isSpace d = true) ∧ isSpace c = false := by
  have happ := List.takeWhile_append_dropWhile (p := isSpace) (l := t)
  have hspace : ∀ c ∈ t.takeWhile isSpace, isSpace c = true := fun _ ↦ List.mem_takeWhile_imp
  cases hdrop : t.dropWhile isSpace with
  | nil =>
    rw [hdrop, List.append_nil] at happ
    exact .inl (happ ▸ hspace)
  | cons c u =>
    have hc := head?_dropWhile_eq_false isSpace t c (by rw [hdrop]; rfl)
    exact .inr ⟨t.takeWhile isSpace, c, u, by rw [← hdrop, happ], hspace, hc⟩

namespace IsRespacing

variable (hf : IsRespacing f)
include hf

/-! ### Parts -/

theorem nil : f [] = [] :=
  List.subset_nil.mp (hf.subset [])

theorem cons (hc : isSpace c = false) (t : Text) : f (c :: t) = c :: f t := by
  have happ := hf.append_cons hc [] t
  rwa [hf.nil] at happ

/-- Text without white space stays as it is. -/
theorem append_left (hs : ∀ c ∈ s, isSpace c = false) (t : Text) : f (s ++ t) = s ++ f t := by
  induction s with
  | nil => rfl
  | cons c s ih =>
    obtain ⟨hc, hs⟩ := List.forall_mem_cons.mp hs
    rw [List.cons_append, hf.cons hc, ih hs, List.cons_append]

theorem eq_self (hs : ∀ c ∈ s, isSpace c = false) : f s = s := by
  have happ := hf.append_left hs []
  rwa [List.append_nil, hf.nil, List.append_nil] at happ

/-- Two parts change by themselves if the second does not begin with white space. -/
theorem append_of_head? (ht : ∀ c ∈ t.head?, isSpace c = false) (s : Text) :
    f (s ++ t) = f s ++ f t := by
  cases t with
  | nil => rw [List.append_nil, hf.nil, List.append_nil]
  | cons c t => rw [hf.append_cons (ht c rfl), hf.cons (ht c rfl)]

/-- Two parts change by themselves if the first does not end with white space. -/
theorem append_of_getLast? (hs : ∀ c ∈ s.getLast?, isSpace c = false) (t : Text) :
    f (s ++ t) = f s ++ f t := by
  obtain rfl | ⟨s, c, rfl⟩ := List.eq_nil_or_concat s
  · rw [hf.nil, List.nil_append, List.nil_append]
  · have hc : isSpace c = false := hs c (by simp)
    rw [List.concat_eq_append, List.append_assoc, List.singleton_append, hf.append_cons hc,
      hf.append_cons hc, hf.nil, List.append_assoc, List.singleton_append]

theorem isSpace_of_mem (h : ∀ c ∈ t, isSpace c = true) : ∀ c ∈ f t, isSpace c = true :=
  fun c hc ↦ h c (hf.subset t hc)

/-! ### What is seen of the old text in the new one -/

/-- A character that is no white space stands in the new text where it stands in the old one. -/
theorem exists_eq_append_cons (h : f t = s ++ c :: u) (hc : isSpace c = false) :
    ∃ s' u', t = s' ++ c :: u' ∧ f s' = s ∧ f u' = u := by
  induction hlen : t.length using Nat.strong_induction_on generalizing t s with
  | _ n ih =>
    subst hlen
    obtain hspace | ⟨w, d, v, rfl, hw, hd⟩ := exists_eq_spaces_append t
    · have hmem := hf.isSpace_of_mem hspace c (by simp [h])
      rw [hc] at hmem
      cases hmem
    · rw [hf.append_cons hd] at h
      obtain ⟨p, hp, hrest⟩ | ⟨p, hp, hrest⟩ := List.append_eq_append_iff.mp h
      · cases p with
        | nil =>
          obtain ⟨rfl, rfl⟩ := List.cons.inj hrest
          exact ⟨w, v, rfl, by simpa using hp.symm, rfl⟩
        | cons e p =>
          obtain ⟨rfl, hv⟩ := List.cons.inj hrest
          obtain ⟨s', u', rfl, hs', hu'⟩ := ih v.length (by simp; omega) hv rfl
          exact ⟨w ++ d :: s', u', by simp, by rw [hf.append_cons hd, hs', hp], hu'⟩
      · cases p with
        | nil =>
          obtain ⟨rfl, rfl⟩ := List.cons.inj hrest
          exact ⟨w, v, rfl, by simpa using hp, rfl⟩
        | cons e p =>
          -- the character would stand in the white space in front
          obtain ⟨rfl, -⟩ := List.cons.inj hrest
          have hmem := hf.isSpace_of_mem hw c (by simp [hp])
          rw [hc] at hmem
          cases hmem

/-- What begins with text without white space has begun with it. -/
theorem exists_eq_append (h : f t = s ++ u) (hs : ∀ c ∈ s, isSpace c = false) :
    ∃ u', t = s ++ u' ∧ f u' = u := by
  induction s generalizing t with
  | nil => exact ⟨t, rfl, h⟩
  | cons c s ih =>
    obtain ⟨hc, hs⟩ := List.forall_mem_cons.mp hs
    obtain ⟨p, v, rfl, hp, hv⟩ := hf.exists_eq_append_cons (s := []) h hc
    obtain rfl := hf.eq_nil hp
    obtain ⟨u', rfl, hu'⟩ := ih hv hs
    exact ⟨u', rfl, hu'⟩

/-- A key without white space occurs in the new text only where it occurs in the old one. -/
theorem infix_of_infix_apply (h : key <:+: f t) (hkey : ∀ c ∈ key, isSpace c = false) :
    key <:+: t := by
  obtain ⟨s, u, hsu⟩ := h
  cases key with
  | nil => exact List.nil_infix
  | cons c key =>
    obtain ⟨hc, hkey⟩ := List.forall_mem_cons.mp hkey
    rw [List.append_assoc, List.cons_append] at hsu
    obtain ⟨s', v, rfl, -, hv⟩ := hf.exists_eq_append_cons hsu.symm hc
    obtain ⟨u', rfl, -⟩ := hf.exists_eq_append hv hkey
    exact ⟨s', u', by simp⟩

/-- The first character of the new text is the one of the old text, or both are white space. -/
theorem head?_eq_or (t : Text) :
    (f t).head? = t.head? ∨
      ∃ c ∈ (f t).head?, ∃ d ∈ t.head?, isSpace c = true ∧ isSpace d = true := by
  have hspaces (w : Text) (hw : ∀ c ∈ w, isSpace c = true) (hne : w ≠ []) :
      ∃ c ∈ (f w).head?, ∃ d ∈ w.head?, isSpace c = true ∧ isSpace d = true := by
    obtain ⟨d, w, rfl⟩ := List.exists_cons_of_ne_nil hne
    obtain ⟨c, v, hcv⟩ := List.exists_cons_of_ne_nil fun hnil ↦ hne (hf.eq_nil hnil)
    exact ⟨c, by rw [hcv]; rfl, d, rfl, hf.isSpace_of_mem hw c (by simp [hcv]),
      hw d List.mem_cons_self⟩
  obtain hspace | ⟨w, c, u, rfl, hw, hc⟩ := exists_eq_spaces_append t
  · by_cases hne : t = []
    · rw [hne, hf.nil]
      exact .inl rfl
    · exact .inr (hspaces t hspace hne)
  · by_cases hne : w = []
    · rw [hne, List.nil_append, hf.cons hc]
      exact .inl rfl
    · have hne' : f w ≠ [] := fun hnil ↦ hne (hf.eq_nil hnil)
      rw [hf.append_cons hc, List.head?_append_of_ne_nil _ hne, List.head?_append_of_ne_nil _ hne']
      exact .inr (hspaces w hw hne)

/-- A property that does not tell white space apart holds of the first character of both texts or
of none. -/
theorem forall_head?_iff {p : Char → Prop}
    (hp : ∀ c d, isSpace c = true → isSpace d = true → (p c ↔ p d)) :
    (∀ c ∈ (f t).head?, p c) ↔ ∀ c ∈ t.head?, p c := by
  obtain heq | ⟨c, hc, d, hd, hcs, hds⟩ := hf.head?_eq_or t
  · rw [heq]
  · rw [Option.mem_def] at hc hd
    simpa [hc, hd] using hp c d hcs hds

theorem exists_head?_iff {p : Char → Prop}
    (hp : ∀ c d, isSpace c = true → isSpace d = true → (p c ↔ p d)) :
    (∃ c ∈ (f t).head?, p c) ↔ ∃ c ∈ t.head?, p c := by
  obtain heq | ⟨c, hc, d, hd, hcs, hds⟩ := hf.head?_eq_or t
  · rw [heq]
  · rw [Option.mem_def] at hc hd
    simpa [hc, hd] using hp c d hcs hds

/-- The first character behind white space stays. -/
theorem head?_dropWhile_isSpace (t : Text) :
    ((f t).dropWhile isSpace).head? = (t.dropWhile isSpace).head? := by
  obtain hspace | ⟨w, c, u, rfl, hw, hc⟩ := exists_eq_spaces_append t
  · rw [List.dropWhile_eq_nil_iff.mpr hspace,
      List.dropWhile_eq_nil_iff.mpr (hf.isSpace_of_mem hspace)]
  · rw [hf.append_cons hc, dropWhile_append_eq hw (by simp [hc]),
      dropWhile_append_eq (hf.isSpace_of_mem hw) (by simp [hc])]
    rfl

end IsRespacing

end ComponentFile.Text
