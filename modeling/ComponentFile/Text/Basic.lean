/-!
# Texts

A text is a list of characters.  This file holds the character classes that component files are
read with, the split of a text into lines, and the search for the first occurrence of a key.

## Main definitions

* `Text.isSpace` : the five white space characters that separate the parts of a tag.
* `Text.isBlank` : the characters with the Unicode property `White_Space`.
* `Text.lines`, `Text.unlines` : the lines of a text, which are separated by line feeds.
* `Text.cut?` : the text before and behind the first occurrence of a key.

## Main results

* `Text.unlines_lines` : joining the lines gives the text back.
* `Text.eq_append_of_cut?` : a cut at a key loses nothing.
-/

namespace ComponentFile

/-- A text, character by character. -/
abbrev Text := List Char

namespace Text

/-! ### Characters -/

/-- White space inside tags: space, tab, line feed, form feed and carriage return. -/
def isSpace (c : Char) : Bool :=
  c == ' ' || c == '\t' || c == '\n' || c == '\x0c' || c == '\r'

/-- The Unicode property `White_Space`. -/
def isBlank (c : Char) : Bool :=
  (0x09 ≤ c.toNat && c.toNat ≤ 0x0D) || c == ' ' || c == '\u0085' || c == '\u00a0' ||
    c == '\u1680' || (0x2000 ≤ c.toNat && c.toNat ≤ 0x200A) || c == '\u2028' ||
    c == '\u2029' || c == '\u202f' || c == '\u205f' || c == '\u3000'

/-- Every space of a tag is blank. -/
theorem isBlank_of_isSpace {c : Char} (h : isSpace c = true) : isBlank c = true := by
  simp only [isSpace, Bool.or_eq_true, beq_iff_eq] at h
  obtain (((rfl | rfl) | rfl) | rfl) | rfl := h <;> rfl

/-- The value of a hexadecimal digit. -/
def hexDigit? (c : Char) : Option Nat :=
  if c.isDigit then some (c.toNat - '0'.toNat)
  else if 'a' ≤ c && c ≤ 'f' then some (c.toNat - 'a'.toNat + 10)
  else if 'A' ≤ c && c ≤ 'F' then some (c.toNat - 'A'.toNat + 10)
  else none

/-- The order of texts, in which the first characters that differ decide. -/
def le : Text → Text → Bool
  | [], _ => true
  | _ :: _, [] => false
  | c :: s, d :: t => if c = d then le s t else c.toNat ≤ d.toNat

/-- The text with `A`–`Z` replaced by `a`–`z`; all other characters stay. -/
def lower (t : Text) : Text :=
  t.map Char.toLower

@[simp] theorem length_lower (t : Text) : (lower t).length = t.length :=
  List.length_map _

@[simp] theorem lower_nil : lower [] = [] := rfl

@[simp] theorem lower_append (s t : Text) : lower (s ++ t) = lower s ++ lower t :=
  List.map_append

/-- The text without the blank characters at its two ends. -/
def trim (t : Text) : Text :=
  ((t.dropWhile isBlank).reverse.dropWhile isBlank).reverse

/-- A text is blank when it is empty or holds blank characters only. -/
def allBlank (t : Text) : Bool :=
  t.all isBlank

/-! ### Lines -/

/-- The lines of a text; a text with `n` line feeds has `n + 1` lines. -/
def lines (t : Text) : List Text :=
  t.splitOn '\n'

/-- The lines joined by line feeds. -/
def unlines (ls : List Text) : Text :=
  ['\n'].intercalate ls

/-- Joining the lines of a text gives the text back. -/
@[simp] theorem unlines_lines (t : Text) : unlines (lines t) = t :=
  List.intercalate_splitOn '\n'

/-- Lines without line feeds are found again once they are joined. -/
theorem lines_unlines {ls : List Text} (hne : ls ≠ []) (h : ∀ l ∈ ls, '\n' ∉ l) :
    lines (unlines ls) = ls :=
  List.splitOn_intercalate '\n' h hne

/-! ### Searching -/

/-- The text up to and including the first `c`, and the text behind it.  Without a `c` the first
part is the whole text. -/
def through (c : Char) (t : Text) : Text × Text :=
  let stop := t.dropWhile (· != c)
  (t.takeWhile (· != c) ++ stop.take 1, stop.drop 1)

/-- Nothing is lost by splitting behind a character. -/
@[simp] theorem through_append (c : Char) (t : Text) :
    (through c t).1 ++ (through c t).2 = t := by
  simp only [through, List.append_assoc, List.take_append_drop, List.takeWhile_append_dropWhile]

/-- The text before and the text behind the first occurrence of `key`. -/
def cut? (key : Text) : Text → Option (Text × Text)
  | [] => if key.isEmpty then some ([], []) else none
  | c :: t =>
    if key.isPrefixOf (c :: t) then some ([], (c :: t).drop key.length)
    else (cut? key t).map fun parts => (c :: parts.1, parts.2)

/-- A cut at a key loses nothing. -/
theorem eq_append_of_cut? {key t : Text} {parts : Text × Text} (h : cut? key t = some parts) :
    t = parts.1 ++ key ++ parts.2 := by
  induction t generalizing parts with
  | nil =>
    by_cases hk : key.isEmpty <;> simp_all [cut?]
    simp [← h]
  | cons c t ih =>
    by_cases hk : key.isPrefixOf (c :: t)
    · obtain ⟨rest, hrest⟩ := List.isPrefixOf_iff_prefix.mp hk
      simp only [cut?, hk, if_true, Option.some.injEq] at h
      simp [← h, ← hrest]
    · simp only [cut?, hk, Bool.false_eq_true, if_false, Option.map_eq_some_iff] at h
      obtain ⟨inner, hinner, rfl⟩ := h
      simp [ih hinner]

/-- Whether `key` occurs in the text. -/
def contains (key t : Text) : Bool :=
  (cut? key t).isSome

end Text

end ComponentFile
