import ComponentFile.Text.Basic

/-!
# Replacing a key

Replacement goes from left to right: the text is cut at the first occurrence of the key, and the
search goes on behind it, so occurrences do not overlap and an inserted value is not searched.

## Main definitions

* `Text.pieces` : the parts of a text between the occurrences of a key.
* `Text.replaceAll` : the pieces joined by a value.
-/

namespace ComponentFile.Text

/-- Behind an occurrence of a key that is not empty, the text is shorter. -/
theorem length_lt_of_cut? {key t : Text} {parts : Text × Text} (h : cut? key t = some parts)
    (hkey : key ≠ []) : parts.2.length < t.length := by
  have hlen := congrArg List.length (eq_append_of_cut? h)
  have hpos := List.length_pos_iff.mpr hkey
  simp only [List.length_append] at hlen
  omega

/-- The parts of a text between the occurrences of `key`.  An empty key does not cut. -/
def pieces (key t : Text) : List Text :=
  if _hkey : key = [] then [t]
  else
    match _h : cut? key t with
    | none => [t]
    | some parts => parts.1 :: pieces key parts.2
termination_by t.length
decreasing_by exact length_lt_of_cut? _h _hkey

/-- Every occurrence of `key` replaced by `value`.  An empty key occurs before every character and
at the end. -/
def replaceAll (key value t : Text) : Text :=
  if key.isEmpty then value ++ t.flatMap fun c => c :: value
  else value.intercalate (pieces key t)

end ComponentFile.Text
