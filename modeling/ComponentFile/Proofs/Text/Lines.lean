import ComponentFile.Proofs.Text.Search

/-!
# Lines

A text falls into lines, and a text without line feeds that occurs in it occurs in one of these.
Some properties of a text are therefore properties of its lines.  Those that pass from a text to
every longer one can then be followed from a block to the file that it was cut from.

## Main definitions

* `onLines` : a block on lines of its own.
* `IsMonotone` : the properties of texts that pass to longer texts.
* `anyLine` : whether some line has a property.

## Main results

* `induction_lines` : induction on the lines of a text.
* `exists_infix_line` : what occurs in a text and has no line feed occurs in a line.
* `IsMonotone.anyLine_of_isInfix` : what a line of a part shows is shown by a line of the whole.
-/

namespace ComponentFile.Text

variable {c : Char} {key l s t u : Text} {ls : List Text} {p q : Text → Bool}

/-! ### Lines -/

/-- A block on lines of its own. -/
def onLines (t : Text) : Text :=
  '\n' :: t ++ ['\n']

theorem lines_append_cons (s t : Text) : lines (s ++ '\n' :: t) = lines s ++ lines t :=
  List.splitOn_append_cons_self s t

theorem lines_of_notMem (h : '\n' ∉ t) : lines t = [t] :=
  List.splitOn_eq_singleton h

theorem lines_ne_nil (t : Text) : lines t ≠ [] :=
  List.splitOn_ne_nil '\n' t

/-- Induction on the lines of a text: it is a single line, or a line with a text behind it. -/
@[elab_as_elim]
theorem induction_lines {motive : Text → Prop} (single : ∀ l, '\n' ∉ l → motive l)
    (append : ∀ l t, '\n' ∉ l → motive t → motive (l ++ '\n' :: t)) (t : Text) : motive t := by
  induction hlen : t.length using Nat.strong_induction_on generalizing t with
  | _ n ih =>
    subst hlen
    by_cases h : '\n' ∈ t
    · obtain ⟨l, u, rfl, hl⟩ := List.eq_append_cons_of_mem h
      exact append l u hl (ih u.length (by simp; omega) u rfl)
    · exact single t h

/-- The first line of a text, and the lines behind it. -/
theorem lines_line_append (hl : '\n' ∉ l) (t : Text) : lines (l ++ '\n' :: t) = l :: lines t := by
  rw [lines_append_cons, lines_of_notMem hl, List.singleton_append]

theorem notMem_of_mem_lines (h : l ∈ lines t) : '\n' ∉ l := by
  induction t using induction_lines with
  | single t ht =>
    rw [lines_of_notMem ht, List.mem_singleton] at h
    rwa [h]
  | append l₁ t hl₁ ih =>
    rw [lines_line_append hl₁, List.mem_cons] at h
    obtain rfl | h := h
    · exact hl₁
    · exact ih h

theorem unlines_cons (l : Text) (h : ls ≠ []) : unlines (l :: ls) = l ++ '\n' :: unlines ls := by
  rw [unlines, List.intercalate_cons_of_ne_nil h]
  simp [unlines]

theorem lines_onLines (t : Text) : lines (onLines t) = [] :: (lines t ++ [[]]) := by
  have hfirst := lines_append_cons [] (t ++ ['\n'])
  have hlast := lines_append_cons t []
  rw [onLines, List.cons_append, ← List.nil_append ('\n' :: (t ++ ['\n'])), hfirst, hlast]
  rfl

/-- Lines that are written one after another, each with its end. -/
theorem onLines_unlines (h : ls ≠ []) :
    onLines (unlines ls) = '\n' :: ls.flatMap fun l ↦ l ++ ['\n'] := by
  induction ls with
  | nil => exact absurd rfl h
  | cons l ls ih =>
    by_cases hls : ls = []
    · simp [hls, onLines, unlines]
    · have hrest := ih hls
      rw [onLines, List.cons_append, List.cons_inj_right] at hrest
      rw [unlines_cons l hls, onLines, List.flatMap_cons, ← hrest]
      simp

/-! ### What occurs in a line -/

theorem infix_of_mem_lines (h : l ∈ lines t) : l <:+: t := by
  induction t using induction_lines with
  | single t ht =>
    rw [lines_of_notMem ht, List.mem_singleton] at h
    exact h ▸ List.infix_rfl
  | append l₁ t hl₁ ih =>
    rw [lines_line_append hl₁, List.mem_cons] at h
    obtain rfl | h := h
    · exact (List.prefix_append _ _).isInfix
    · exact (ih h).trans ⟨l₁ ++ ['\n'], [], by simp⟩

/-- What has no line feed and occurs in two texts with a line feed between them occurs in one. -/
theorem infix_or_infix_of_infix_append_cons (hkey : '\n' ∉ key) (h : key <:+: s ++ '\n' :: t) :
    key <:+: s ∨ key <:+: t := by
  induction s with
  | nil =>
    obtain hpre | hin := List.infix_cons_iff.mp h
    · obtain rfl | ⟨u, rfl, -⟩ := List.prefix_cons_iff.mp hpre
      · exact .inl List.nil_infix
      · exact absurd List.mem_cons_self hkey
    · exact .inr hin
  | cons c s ih =>
    obtain hpre | hin := List.infix_cons_iff.mp h
    · have hfirst : c :: s <+: (c :: s) ++ '\n' :: t := List.prefix_append _ _
      obtain hshort | ⟨u, rfl⟩ := List.prefix_or_prefix_of_prefix hpre hfirst
      · exact .inl hshort.isInfix
      · obtain rfl | ⟨u, rfl, -⟩ :=
          List.prefix_cons_iff.mp ((List.prefix_append_right_inj (c :: s)).mp hpre)
        · exact .inl (by simp)
        · simp at hkey
    · exact (ih hin).imp_left fun hs ↦ hs.trans (List.suffix_cons c s).isInfix

/-- What occurs in a text and has no line feed occurs in a line. -/
theorem exists_infix_line (hkey : '\n' ∉ key) (h : key <:+: t) :
    ∃ l ∈ lines t, key <:+: l := by
  induction t using induction_lines with
  | single t ht => exact ⟨t, by rw [lines_of_notMem ht]; exact List.mem_singleton_self t, h⟩
  | append l₁ t hl₁ ih =>
    rw [lines_line_append hl₁]
    obtain hin | hin := infix_or_infix_of_infix_append_cons hkey h
    · exact ⟨l₁, List.mem_cons_self, hin⟩
    · obtain ⟨l, hl, hin⟩ := ih hin
      exact ⟨l, List.mem_cons_of_mem _ hl, hin⟩

/-! ### Properties of lines -/

/-- A property of texts that passes to longer texts. -/
def IsMonotone (p : Text → Bool) : Prop :=
  ∀ ⦃s t : Text⦄, s <:+: t → p s = true → p t = true

/-- Whether some line of a text has a property. -/
def anyLine (p : Text → Bool) (t : Text) : Bool :=
  (lines t).any p

theorem anyLine_append_cons (p : Text → Bool) (s t : Text) :
    anyLine p (s ++ '\n' :: t) = (anyLine p s || anyLine p t) := by
  rw [anyLine, lines_append_cons, List.any_append]
  rfl

/-- What a line of a part shows is shown by a line of the whole. -/
theorem IsMonotone.anyLine_of_isInfix (hp : IsMonotone p) (h : s <:+: t)
    (hs : anyLine p s = true) : anyLine p t = true := by
  obtain ⟨l, hl, hpl⟩ := List.any_eq_true.mp hs
  obtain ⟨l', hl', hin⟩ :=
    exists_infix_line (notMem_of_mem_lines hl) ((infix_of_mem_lines hl).trans h)
  exact List.any_eq_true.mpr ⟨l', hl', hp hin hpl⟩

theorem IsMonotone.or (hp : IsMonotone p) (hq : IsMonotone q) :
    IsMonotone fun t ↦ p t || q t := by
  intro s t h hs
  rw [Bool.or_eq_true] at hs ⊢
  exact hs.imp (hp h) (hq h)

theorem isMonotone_contains (key : Text) : IsMonotone (contains key) := by
  intro s t h hs
  rw [contains_iff] at hs ⊢
  exact hs.trans h

/-- A key without line feeds occurs in a text exactly when it occurs in a line. -/
theorem anyLine_contains (hkey : '\n' ∉ key) (t : Text) :
    anyLine (contains key) t = contains key t := by
  rw [Bool.eq_iff_iff, contains_iff, anyLine, List.any_eq_true]
  simp only [contains_iff]
  exact ⟨fun ⟨l, hl, hin⟩ ↦ hin.trans (infix_of_mem_lines hl), exists_infix_line hkey⟩

theorem anyLine_or (p q : Text → Bool) (t : Text) :
    anyLine (fun l ↦ p l || q l) t = (anyLine p t || anyLine q t) := by
  rw [Bool.eq_iff_iff]
  simp only [anyLine, List.any_eq_true, Bool.or_eq_true]
  constructor
  · rintro ⟨l, hl, hpl | hql⟩
    · exact .inl ⟨l, hl, hpl⟩
    · exact .inr ⟨l, hl, hql⟩
  · rintro (⟨l, hl, hpl⟩ | ⟨l, hl, hql⟩)
    · exact ⟨l, hl, .inl hpl⟩
    · exact ⟨l, hl, .inr hql⟩

end ComponentFile.Text
