import ComponentFile.Text.Basic

/-!
# Blank lines and indentation

Blocks of a component file are laid out line by line.  Blank lines can be taken out, and a block
that is indented as a whole can be moved to the left margin, which indentation-based style
languages need.

## Main definitions

* `Text.stripBlankLines` : the text without its blank lines.
* `Text.leadingSpaces` : the indentation of the first line that is not blank.
* `Text.dropColumns` : every line without its first characters.
* `Text.dedent` : every line without the indentation of the first line that is not blank.

## Main results

* `Text.dedent_of_leadingSpaces_eq_zero` : a text at the left margin stays as it is.
-/

namespace ComponentFile.Text

/-- The text without its blank lines. -/
def stripBlankLines (t : Text) : Text :=
  unlines ((lines t).filter fun line => !allBlank line)

/-- The number of spaces in front of the first line that is not blank; zero without such a line.
Tabs do not count. -/
def leadingSpaces (t : Text) : Nat :=
  match (lines t).find? fun line => !allBlank line with
  | some line => (line.takeWhile (· == ' ')).length
  | none => 0

/-- Every line without its first `n` characters; shorter lines become empty. -/
def dropColumns (n : Nat) (t : Text) : Text :=
  unlines ((lines t).map fun line => line.drop n)

/-- Taking no characters away changes nothing. -/
@[simp] theorem dropColumns_zero (t : Text) : dropColumns 0 t = t := by
  simp [dropColumns]

/-- Every line without as many characters as there are spaces in front of the first line that is
not blank. -/
def dedent (t : Text) : Text :=
  dropColumns (leadingSpaces t) t

/-- A text at the left margin stays as it is. -/
theorem dedent_of_leadingSpaces_eq_zero {t : Text} (h : leadingSpaces t = 0) : dedent t = t := by
  simp [dedent, h]

end ComponentFile.Text
