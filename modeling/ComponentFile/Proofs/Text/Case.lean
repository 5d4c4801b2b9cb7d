import ComponentFile.Text.Basic
import Mathlib

/-!
# Texts in lower case

Names of elements and attributes are compared in lower case.  Only letters change their case, so a
comparison in lower case still fixes every other character of a name.

## Main results

* `Text.lower_lower` : lower case stays as it is.
* `Text.lower_eq_cons_iff` : a character that is no letter is compared exactly.
-/

namespace ComponentFile.Text

variable {c d : Char} {s t : Text}

theorem toLower_eq_of_isAlpha_eq_false (h : c.isAlpha = false) : c.toLower = c := by
  refine Char.toLower_eq_of_not_isUpper fun hup ↦ ?_
  simp [Char.isAlpha, hup] at h

/-- A character that is no letter has no other spelling. -/
theorem toLower_eq_iff (hd : d.isAlpha = false) : c.toLower = d ↔ c = d := by
  constructor
  · rintro rfl
    rw [Char.isAlpha_toLower_eq_isAlpha] at hd
    exact (toLower_eq_of_isAlpha_eq_false hd).symm
  · rintro rfl
    exact toLower_eq_of_isAlpha_eq_false hd

/-- A class without letters does not see the case of a letter. -/
theorem apply_toLower {p : Char → Bool} (hp : ∀ c, c.isAlpha = true → p c = false) (c : Char) :
    p c.toLower = p c := by
  cases h : c.isAlpha with
  | true =>
    have hlower : c.toLower.isAlpha = true := by rw [Char.isAlpha_toLower_eq_isAlpha, h]
    rw [hp c h, hp c.toLower hlower]
  | false => rw [toLower_eq_of_isAlpha_eq_false h]

@[simp] theorem lower_cons (c : Char) (t : Text) : lower (c :: t) = c.toLower :: lower t := rfl

/-- Lower case stays as it is. -/
@[simp] theorem lower_lower (t : Text) : lower (lower t) = lower t := by
  simp [lower]

/-- A character that is no letter is compared exactly. -/
theorem lower_eq_cons_iff (hd : d.isAlpha = false) :
    lower t = d :: s ↔ ∃ u, t = d :: u ∧ lower u = s := by
  cases t with
  | nil => simp
  | cons c t => simp [toLower_eq_iff hd]

theorem toLower_mem_lower (h : c ∈ t) : c.toLower ∈ lower t :=
  List.mem_map_of_mem h

end ComponentFile.Text
