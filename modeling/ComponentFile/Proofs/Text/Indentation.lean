import ComponentFile.Proofs.Text.BlankLines

/-!
# Indentation

A text is moved to the left margin by the indentation of its first line that is not blank.  What
that does is said line by line: as many characters are cut off each line, whatever they are, and
where every line that is not blank begins with that many spaces, nothing but spaces is lost.

Blank lines are those without any character but white space, of which there is more than the spaces
that count as indentation.  So a blank line may be shorter or longer than what is cut off it, but
it stays blank, and taking blank lines out goes together with moving the text.

## Main definitions

* `spaces`, `lineIndent` : the indentation of a line.
* `IsIndented` : the texts whose lines begin with spaces, unless they are blank.
* `indent` : the text with spaces in front of its lines, unless they are blank.
* `filled?` : a line, unless it is blank.

## Main results

* `lines_dedent` : the lines of a text at the left margin.
* `leadingSpaces_dedent`, `dedent_dedent` : a text is moved to the left margin once.
* `IsIndented.map_filled?_indent_dedent` : spaces that were cut off can be put back.
* `leadingSpaces_stripBlankLines_and_dedent_comm` : blank lines may be taken out before or after.
-/

namespace ComponentFile.Text

variable {n : Nat} {l t : Text}

/-! ### The indentation of a line -/

/-- So many spaces. -/
def spaces (n : Nat) : Text :=
  List.replicate n ' '

/-- The number of spaces in front of a line. -/
def lineIndent (l : Text) : Nat :=
  (l.takeWhile (· == ' ')).length

@[simp] theorem length_spaces (n : Nat) : (spaces n).length = n :=
  List.length_replicate

theorem allBlank_spaces_append (n : Nat) (l : Text) : allBlank (spaces n ++ l) = allBlank l := by
  have hspaces : (spaces n).all isBlank = true :=
    List.all_eq_true.mpr fun c hc ↦ by rw [List.eq_of_mem_replicate hc]; rfl
  rw [allBlank, List.all_append, hspaces, Bool.true_and, allBlank]

/-- A blank line stays blank, whatever is cut off it. -/
theorem allBlank_drop (h : allBlank l = true) (n : Nat) : allBlank (l.drop n) = true :=
  List.all_eq_true.mpr fun c hc ↦ List.all_eq_true.mp h c (List.mem_of_mem_drop hc)

/-- A line is its spaces and what stands behind them. -/
theorem spaces_append_dropWhile (l : Text) :
    spaces (lineIndent l) ++ l.dropWhile (· == ' ') = l := by
  have hspaces : l.takeWhile (· == ' ') = spaces (lineIndent l) :=
    List.eq_replicate_of_mem fun c hc ↦ by simpa using List.mem_takeWhile_imp hc
  rw [← hspaces, List.takeWhile_append_dropWhile]

theorem drop_lineIndent (l : Text) : l.drop (lineIndent l) = l.dropWhile (· == ' ') := by
  have hdrop := congrArg (List.drop (lineIndent l)) (spaces_append_dropWhile l)
  rw [List.drop_left' (length_spaces (lineIndent l))] at hdrop
  exact hdrop.symm

/-- Without its spaces a line has none in front. -/
theorem lineIndent_drop_lineIndent (l : Text) : lineIndent (l.drop (lineIndent l)) = 0 := by
  have hhead := List.head?_dropWhile_not (· == ' ') l
  rw [drop_lineIndent, lineIndent, List.length_eq_zero_iff]
  cases h : l.dropWhile (· == ' ') with
  | nil => rfl
  | cons c rest =>
    rw [h] at hhead
    exact List.takeWhile_cons_of_neg (Bool.eq_false_iff.mp hhead)

/-! ### Moving to the left margin -/

/-- The indentation of a text is that of its first line that is not blank. -/
theorem leadingSpaces_eq (t : Text) :
    leadingSpaces t = ((filledLines t).head?.map lineIndent).getD 0 := by
  rw [filledLines, List.head?_filter, leadingSpaces]
  split
  · next h => rw [h]; rfl
  · next h => rw [h]; rfl

theorem lines_dropColumns (n : Nat) (t : Text) :
    lines (dropColumns n t) = (lines t).map (List.drop n) := by
  refine lines_unlines (by simpa using lines_ne_nil t) fun l hl ↦ ?_
  obtain ⟨line, hline, rfl⟩ := List.mem_map.mp hl
  exact fun h ↦ notMem_of_mem_lines hline (List.mem_of_mem_drop h)

/-- The lines of a text at the left margin. -/
theorem lines_dedent (t : Text) :
    lines (dedent t) = (lines t).map (List.drop (leadingSpaces t)) :=
  lines_dropColumns (leadingSpaces t) t

/-- At the left margin the first line that is not blank has no spaces in front. -/
theorem leadingSpaces_dedent (t : Text) : leadingSpaces (dedent t) = 0 := by
  cases hfind : (lines t).find? fun l ↦ !allBlank l with
  | none =>
    have hzero : leadingSpaces t = 0 := by rw [leadingSpaces, hfind]
    rw [dedent_of_leadingSpaces_eq_zero hzero, hzero]
  | some l =>
    have hsize : leadingSpaces t = lineIndent l := by rw [leadingSpaces, hfind]; rfl
    obtain ⟨hl, before, behind, hlines, hbefore⟩ := List.find?_eq_some_iff_append.mp hfind
    have hrest : (!allBlank (l.drop (lineIndent l))) = true := by
      rwa [drop_lineIndent, ← allBlank_spaces_append (lineIndent l), spaces_append_dropWhile]
    -- the lines in front of it stay blank, so that it is still the first one
    have hblank : ∀ line ∈ before.map (List.drop (lineIndent l)), (!!allBlank line) = true := by
      intro line hline
      obtain ⟨above, habove, rfl⟩ := List.mem_map.mp hline
      rw [Bool.not_not, allBlank_drop (by simpa using hbefore above habove)]
    have hfirst : (lines (dedent t)).find? (fun l ↦ !allBlank l) =
        some (l.drop (lineIndent l)) := by
      have hmap : lines (dedent t) = before.map (List.drop (lineIndent l)) ++
          l.drop (lineIndent l) :: behind.map (List.drop (lineIndent l)) := by
        rw [lines_dedent, hsize, hlines, List.map_append, List.map_cons]
      exact List.find?_eq_some_iff_append.mpr ⟨hrest, _, _, hmap, hblank⟩
    rw [leadingSpaces, hfirst]
    exact lineIndent_drop_lineIndent l

/-- A text at the left margin is not moved any more. -/
theorem dedent_dedent (t : Text) : dedent (dedent t) = dedent t :=
  dedent_of_leadingSpaces_eq_zero (leadingSpaces_dedent t)

/-! ### Putting spaces back -/

/-- Every line that is not blank begins with so many spaces. -/
def IsIndented (n : Nat) (t : Text) : Prop :=
  ∀ l ∈ lines t, allBlank l = false → spaces n <+: l

instance (n : Nat) (t : Text) : Decidable (IsIndented n t) :=
  inferInstanceAs (Decidable (∀ l ∈ lines t, allBlank l = false → spaces n <+: l))

/-- The text with so many spaces in front of every line that is not blank. -/
def indent (n : Nat) (t : Text) : Text :=
  unlines ((lines t).map fun l ↦ if allBlank l then l else spaces n ++ l)

/-- A line, unless it is blank. -/
def filled? (l : Text) : Option Text :=
  if allBlank l then none else some l

theorem lines_indent (n : Nat) (t : Text) :
    lines (indent n t) = (lines t).map fun l ↦ if allBlank l then l else spaces n ++ l := by
  refine lines_unlines (by simpa using lines_ne_nil t) fun l hl ↦ ?_
  obtain ⟨line, hline, rfl⟩ := List.mem_map.mp hl
  have hnot := notMem_of_mem_lines hline
  split
  · exact hnot
  · simp [spaces, hnot]

/-- A line that begins with the spaces that are cut off it is blank before and after. -/
theorem allBlank_drop_of_isPrefix (h : spaces n <+: l) : allBlank (l.drop n) = allBlank l := by
  obtain ⟨rest, rfl⟩ := h
  rw [allBlank_spaces_append, List.drop_left' (length_spaces n)]

/-- On a text that is indented as a whole, cutting spaces off makes no line blank. -/
theorem IsIndented.allBlank_drop (h : IsIndented n t) (hl : l ∈ lines t) :
    allBlank (l.drop n) = allBlank l := by
  cases hblank : allBlank l with
  | true => exact Text.allBlank_drop hblank n
  | false => rw [allBlank_drop_of_isPrefix (h l hl hblank), hblank]

/-- Of a text that is indented as a whole, each line that is not blank is found again once the
spaces are put back. -/
theorem IsIndented.map_filled?_indent_dropColumns (h : IsIndented n t) :
    (lines (indent n (dropColumns n t))).map filled? = (lines t).map filled? := by
  rw [lines_indent, lines_dropColumns, List.map_map, List.map_map]
  refine List.map_congr_left fun l hl ↦ ?_
  have hdrop := h.allBlank_drop hl
  simp only [Function.comp_apply, hdrop]
  cases hblank : allBlank l with
  | true => simp [filled?, hdrop, hblank]
  | false =>
    obtain ⟨rest, rfl⟩ := h l hl hblank
    simp [List.drop_left' (length_spaces n)]

/-! ### Taking blank lines out -/

/-- The blank lines of a text do not tell its indentation. -/
theorem leadingSpaces_stripBlankLines (t : Text) :
    leadingSpaces (stripBlankLines t) = leadingSpaces t := by
  rw [leadingSpaces_eq, filledLines_stripBlankLines, ← leadingSpaces_eq]

theorem IsIndented.filledLines_dropColumns (h : IsIndented n t) :
    filledLines (dropColumns n t) = (filledLines t).map (List.drop n) := by
  rw [filledLines, lines_dropColumns, List.filter_map, filledLines]
  exact congrArg _ (List.filter_congr fun l hl ↦ congrArg _ (h.allBlank_drop hl))

/-- On a text that is indented as a whole, blank lines may be taken out before the spaces are cut
off or after. -/
theorem IsIndented.dropColumns_stripBlankLines (h : IsIndented n t) :
    dropColumns n (stripBlankLines t) = stripBlankLines (dropColumns n t) := by
  rw [stripBlankLines_eq (dropColumns n t), h.filledLines_dropColumns, dropColumns]
  by_cases hnil : filledLines t = []
  · simp [stripBlankLines_eq, hnil, unlines, lines]
  · rw [lines_stripBlankLines hnil]

/-- Taking blank lines out keeps the indentation, and on a text that is indented as a whole it may
come before or after the text is moved to the left margin. -/
theorem leadingSpaces_stripBlankLines_and_dedent_comm (t : Text) :
    leadingSpaces (stripBlankLines t) = leadingSpaces t ∧
      (IsIndented (leadingSpaces t) t →
        dedent (stripBlankLines t) = stripBlankLines (dedent t)) := by
  refine ⟨leadingSpaces_stripBlankLines t, fun h ↦ ?_⟩
  rw [dedent, leadingSpaces_stripBlankLines, dedent]
  exact h.dropColumns_stripBlankLines

/-- Lines that are indented by two spaces, and blank lines of other lengths between them. -/
def indentedText : Text :=
  "\u00a0\n     \n  .é\n\t\n    b: c\n \u3000\n  d\n".toList

theorem indentedText_leadingSpaces_stripBlankLines_and_dedent_comm :
    IsIndented (leadingSpaces indentedText) indentedText ∧
      dedent (stripBlankLines indentedText) = stripBlankLines (dedent indentedText) ∧
      stripBlankLines (dedent indentedText) = ".é\n  b: c\nd".toList := by
  have h : IsIndented (leadingSpaces indentedText) indentedText := by decide +kernel
  exact ⟨h, (leadingSpaces_stripBlankLines_and_dedent_comm indentedText).2 h, by decide +kernel⟩

end ComponentFile.Text
