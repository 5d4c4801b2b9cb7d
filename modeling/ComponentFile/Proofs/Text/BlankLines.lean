import ComponentFile.Text.Layout
import ComponentFile.Proofs.Text.Lines

/-!
# Taking out blank lines

Taking blank lines out of a text can be seen in two ways.  Line by line it keeps some lines and
drops the others.  Character by character it shortens the white space between other characters:
`squeeze` does that, and on a block that stands on lines of its own the two agree.  The second view
is the one that markup can be read through.

## Main definitions

* `filledLines` : the lines that are not blank.
* `IsStripped` : the texts without blank lines.
* `squeeze` : the text with the blank lines between other lines taken out.

## Main results

* `stripBlankLines_exact` : taking blank lines out loses and moves no other line.
* `stripBlankLines_onLines_stripBlankLines` : taking blank lines out twice is taking them out once.
* `anyLine_of_anyLine_stripBlankLines` : taking blank lines out shows nothing new.
* `squeeze_append_cons` : a character that is no white space divides what is squeezed.
* `squeeze_onLines` : on a block on lines of its own, squeezing takes the blank lines out.
-/

namespace ComponentFile.Text

variable {c : Char} {l t : Text} {ls : List Text}

/-! ### Taking blank lines out, line by line -/

/-- A text is blank exactly when nothing stands between its blank ends. -/
theorem trim_eq_nil_iff : trim t = [] ↔ allBlank t = true := by
  rw [trim, List.reverse_eq_nil_iff, List.dropWhile_eq_nil_iff, allBlank, List.all_eq_true]
  constructor
  · intro h
    -- a character that is not blank would begin what is left, and it would stand in it, too
    have hnil : t.dropWhile isBlank = [] := by
      have hhead := head?_dropWhile_eq_false isBlank t
      cases hrest : t.dropWhile isBlank with
      | nil => rfl
      | cons c rest =>
        have hc := h c (by simp [hrest])
        rw [hhead c (by simp [hrest])] at hc
        cases hc
    exact List.dropWhile_eq_nil_iff.mp hnil
  · intro h c hc
    exact h c ((List.dropWhile_sublist _).subset (List.mem_reverse.mp hc))

/-- The lines that are not blank. -/
def filledLines (t : Text) : List Text :=
  (lines t).filter fun l ↦ !allBlank l

theorem stripBlankLines_eq (t : Text) : stripBlankLines t = unlines (filledLines t) := rfl

theorem filledLines_append_cons (s t : Text) :
    filledLines (s ++ '\n' :: t) = filledLines s ++ filledLines t := by
  rw [filledLines, lines_append_cons, List.filter_append, filledLines, filledLines]

theorem filledLines_onLines (t : Text) : filledLines (onLines t) = filledLines t := by
  simp [filledLines, lines_onLines, allBlank]

theorem lines_stripBlankLines (h : filledLines t ≠ []) :
    lines (stripBlankLines t) = filledLines t :=
  lines_unlines h fun _ hl ↦ notMem_of_mem_lines (List.mem_filter.mp hl).1

theorem filledLines_stripBlankLines (t : Text) :
    filledLines (stripBlankLines t) = filledLines t := by
  by_cases h : filledLines t = []
  · rw [stripBlankLines_eq, h]
    rfl
  · rw [filledLines, lines_stripBlankLines h]
    exact List.filter_eq_self.mpr fun l hl ↦ (List.mem_filter.mp hl).2

/-- A text without blank lines.  The empty text is one, though a text always has a line. -/
def IsStripped (t : Text) : Prop :=
  t = [] ∨ ∀ l ∈ lines t, trim l ≠ []

theorem isStripped_stripBlankLines (t : Text) : IsStripped (stripBlankLines t) := by
  by_cases hfilled : filledLines t = []
  · exact .inl (by rw [stripBlankLines_eq, hfilled]; rfl)
  · refine .inr fun l hl hblank ↦ ?_
    rw [lines_stripBlankLines hfilled] at hl
    have hnot := (List.mem_filter.mp hl).2
    rw [trim_eq_nil_iff.mp hblank] at hnot
    cases hnot

/-- A text without blank lines stays as it is. -/
theorem IsStripped.stripBlankLines_eq (h : IsStripped t) : stripBlankLines t = t := by
  rcases h with rfl | h
  · rfl
  · have hfilled : filledLines t = lines t := by
      refine List.filter_eq_self.mpr fun l hl ↦ ?_
      rw [Bool.not_eq_true', Bool.eq_false_iff]
      exact fun hblank ↦ h l hl (trim_eq_nil_iff.mpr hblank)
    rw [Text.stripBlankLines_eq, hfilled, unlines_lines]

/-- Taking blank lines out once more changes nothing, also after the text was put on lines of its
own. -/
theorem stripBlankLines_onLines_stripBlankLines (t : Text) :
    stripBlankLines (onLines (stripBlankLines t)) = stripBlankLines t := by
  rw [stripBlankLines_eq, filledLines_onLines, filledLines_stripBlankLines, stripBlankLines_eq]

/-- Taking blank lines out keeps every other line as it is and in its place among the others, and
leaves no blank line, unless nothing is left.  Once they are taken out, there are none to take out,
also when the text is put on lines of its own.  Of two texts with a line feed between them, the
lines stay one after another. -/
theorem stripBlankLines_exact (t : Text) :
    filledLines (stripBlankLines t) = filledLines t ∧ IsStripped (stripBlankLines t) ∧
      stripBlankLines (stripBlankLines t) = stripBlankLines t ∧
      stripBlankLines (onLines (stripBlankLines t)) = stripBlankLines t ∧
      ∀ a b, filledLines (stripBlankLines (a ++ '\n' :: b)) = filledLines a ++ filledLines b := by
  have hstripped := isStripped_stripBlankLines t
  refine ⟨filledLines_stripBlankLines t, hstripped, hstripped.stripBlankLines_eq,
    stripBlankLines_onLines_stripBlankLines t, fun a b ↦ ?_⟩
  rw [filledLines_stripBlankLines, filledLines_append_cons]

/-- A line of a text without blank lines is a line of the text, unless nothing is left. -/
theorem mem_lines_of_mem_lines_stripBlankLines (h : l ∈ lines (stripBlankLines t)) :
    l = [] ∨ l ∈ lines t := by
  by_cases hfilled : filledLines t = []
  · rw [stripBlankLines_eq, hfilled] at h
    exact .inl (List.mem_singleton.mp h)
  · rw [lines_stripBlankLines hfilled] at h
    exact .inr (List.mem_filter.mp h).1

/-- What a line shows after blank lines were taken out was shown before, unless the empty line shows
it. -/
theorem anyLine_of_anyLine_stripBlankLines {p : Text → Bool} (hnil : p [] = false)
    (h : anyLine p (stripBlankLines t) = true) : anyLine p t = true := by
  obtain ⟨l, hl, hpl⟩ := List.any_eq_true.mp h
  obtain rfl | hl := mem_lines_of_mem_lines_stripBlankLines hl
  · rw [hnil] at hpl
    cases hpl
  · exact List.any_eq_true.mpr ⟨l, hl, hpl⟩

/-! ### Taking blank lines out, character by character -/

/-- Whether a line of spaces begins the text and ends within it. -/
def beginsBlankLine (t : Text) : Bool :=
  (t.dropWhile fun c ↦ isSpace c && c != '\n').head? == some '\n'

/-- The text without the lines of spaces between the end of a line and the end of another. -/
def squeeze : Text → Text
  | [] => []
  | c :: t =>
    if c = '\n' ∧ beginsBlankLine (squeeze t) then (squeeze t).dropWhile (· != '\n')
    else c :: squeeze t

theorem squeeze_cons_of_ne (hc : c ≠ '\n') : squeeze (c :: t) = c :: squeeze t := by
  simp [squeeze, hc]

theorem newline_mem_of_beginsBlankLine (h : beginsBlankLine t = true) : '\n' ∈ t := by
  rw [beginsBlankLine, beq_iff_eq] at h
  exact (List.dropWhile_sublist _).subset (List.mem_of_mem_head? h)

/-- Whether a blank line begins a text shows before the first other character. -/
theorem beginsBlankLine_append_cons (hc : isSpace c = false) (s t : Text) :
    beginsBlankLine (s ++ c :: t) = beginsBlankLine s := by
  have hne : c ≠ '\n' := by
    rintro rfl
    cases hc
  induction s with
  | nil => simp [beginsBlankLine, hc, hne]
  | cons d s ih =>
    simp only [beginsBlankLine, List.cons_append, List.dropWhile_cons] at ih ⊢
    split
    · exact ih
    · rfl

/-- A character that is no white space divides what is squeezed. -/
theorem squeeze_append_cons (hc : isSpace c = false) (s t : Text) :
    squeeze (s ++ c :: t) = squeeze s ++ c :: squeeze t := by
  have hne : c ≠ '\n' := by
    rintro rfl
    cases hc
  induction s with
  | nil => exact squeeze_cons_of_ne hne
  | cons d s ih =>
    rw [List.cons_append, squeeze, squeeze, ih, beginsBlankLine_append_cons hc]
    split
    · next h =>
      have hmem := newline_mem_of_beginsBlankLine h.2
      exact dropWhile_append_of_exists ⟨'\n', hmem, by simp⟩
    · rfl

/-- Squeezing takes characters out and adds none. -/
theorem squeeze_sublist (t : Text) : (squeeze t).Sublist t := by
  induction t with
  | nil => exact List.Sublist.refl []
  | cons c t ih =>
    rw [squeeze]
    split
    · exact ((List.dropWhile_sublist _).trans ih).trans (List.sublist_cons_self c t)
    · exact ih.cons_cons c

theorem eq_nil_of_squeeze_eq_nil (h : squeeze t = []) : t = [] := by
  cases t with
  | nil => rfl
  | cons c t =>
    rw [squeeze] at h
    split at h
    · next hcond =>
      have hall := List.dropWhile_eq_nil_iff.mp h _ (newline_mem_of_beginsBlankLine hcond.2)
      simp at hall
    · cases h

theorem squeeze_append_newline (hl : '\n' ∉ l) :
    squeeze (l ++ '\n' :: t) = l ++ squeeze ('\n' :: t) := by
  induction l with
  | nil => rfl
  | cons c l ih =>
    rw [List.mem_cons, not_or] at hl
    rw [List.cons_append, squeeze_cons_of_ne (Ne.symm hl.1), ih hl.2, List.cons_append]

/-- A line that begins a text is blank if it holds nothing but spaces. -/
theorem beginsBlankLine_append_newline (hl : '\n' ∉ l) :
    beginsBlankLine (l ++ '\n' :: t) = l.all isSpace := by
  induction l with
  | nil => simp [beginsBlankLine]
  | cons c l ih =>
    rw [List.mem_cons, not_or] at hl
    have hc : (c != '\n') = true := bne_iff_ne.mpr (Ne.symm hl.1)
    have hrest := ih hl.2
    simp only [beginsBlankLine, List.cons_append, List.dropWhile_cons, hc, Bool.and_true,
      List.all_cons] at hrest ⊢
    cases hspace : isSpace c with
    | true => rw [if_pos rfl, hrest, Bool.true_and]
    | false =>
      rw [if_neg Bool.false_ne_true, List.head?_cons, Bool.false_and, beq_eq_false_iff_ne]
      exact fun e ↦ hl.1 (Option.some.inj e).symm

/-- Of lines behind the end of a line, squeezing takes out the lines of spaces. -/
theorem squeeze_newline_flatMap (h : ∀ l ∈ ls, '\n' ∉ l) :
    squeeze ('\n' :: ls.flatMap fun l ↦ l ++ ['\n']) =
      '\n' :: (ls.filter fun l ↦ !l.all isSpace).flatMap fun l ↦ l ++ ['\n'] := by
  induction ls with
  | nil => rfl
  | cons l ls ih =>
    obtain ⟨hl, hls⟩ := List.forall_mem_cons.mp h
    have hrest : squeeze ((l :: ls).flatMap fun l ↦ l ++ ['\n']) =
        l ++ '\n' :: (ls.filter fun l ↦ !l.all isSpace).flatMap fun l ↦ l ++ ['\n'] := by
      rw [List.flatMap_cons, List.append_assoc, List.singleton_append,
        squeeze_append_newline hl, ih hls]
    rw [squeeze, hrest, beginsBlankLine_append_newline hl]
    cases hspace : l.all isSpace with
    | true =>
      have hdrop := dropWhile_append_eq (p := (· != '\n')) (s := l)
        (t := '\n' :: (ls.filter fun l ↦ !l.all isSpace).flatMap fun l ↦ l ++ ['\n'])
        (fun c hc ↦ by simpa using fun e : c = '\n' ↦ hl (e ▸ hc)) (by simp)
      rw [if_pos ⟨rfl, rfl⟩, hdrop, List.filter_cons_of_neg (by simp [hspace])]
    | false =>
      rw [if_neg (by simp), List.filter_cons_of_pos (by simp [hspace]), List.flatMap_cons,
        List.append_assoc, List.singleton_append]

/-- On a block on lines of its own, squeezing takes the blank lines out, if these hold spaces only
and something is left. -/
theorem squeeze_onLines (hspace : ∀ l ∈ lines t, allBlank l = true → l.all isSpace = true)
    (hfilled : filledLines t ≠ []) : squeeze (onLines t) = onLines (stripBlankLines t) := by
  have hfilter : (lines t).filter (fun l ↦ !l.all isSpace) = filledLines t := by
    refine List.filter_congr fun l hl ↦ congrArg _ (Bool.eq_iff_iff.mpr ⟨fun h ↦ ?_, hspace l hl⟩)
    rw [List.all_eq_true] at h
    exact List.all_eq_true.mpr fun c hc ↦ isBlank_of_isSpace (h c hc)
  have hlines := squeeze_newline_flatMap fun l (hl : l ∈ lines t) ↦ notMem_of_mem_lines hl
  rwa [← onLines_unlines (lines_ne_nil t), unlines_lines, hfilter, ← onLines_unlines hfilled,
    ← stripBlankLines_eq] at hlines

end ComponentFile.Text
