import ComponentFile.Proofs.Text.Case

/-!
# Searches in lower case

A class of characters that holds a letter in both of its cases, or in none, ends a run at the same
place in a text and in its lower case.  A key without letters is found at the same place, too.

## Main definitions

* `Text.IgnoresCase` : the classes that do not see the case of a letter.

## Main results

* `Text.takeWhile_lower`, `Text.dropWhile_lower` : runs in lower case.
* `Text.through_lower`, `Text.cut?_lower` : searches in lower case.
-/

namespace ComponentFile.Text

variable {c : Char} {p q : Char → Bool} {key t : Text}

/-- The class does not see the case of a letter. -/
def IgnoresCase (p : Char → Bool) : Prop :=
  ∀ c, p c.toLower = p c

theorem ignoresCase_beq (hc : c.isAlpha = false) : IgnoresCase (· == c) := fun d ↦ by
  simp only [beq_eq_decide, toLower_eq_iff hc]

namespace IgnoresCase

theorem not (hp : IgnoresCase p) : IgnoresCase fun c ↦ !p c := fun c ↦
  congrArg (!·) (hp c)

theorem and (hp : IgnoresCase p) (hq : IgnoresCase q) : IgnoresCase fun c ↦ p c && q c :=
  fun c ↦ congrArg₂ (· && ·) (hp c) (hq c)

end IgnoresCase

/-! ### Runs of characters -/

theorem takeWhile_lower (hp : IgnoresCase p) (t : Text) :
    (lower t).takeWhile p = lower (t.takeWhile p) := by
  rw [lower, List.takeWhile_map, show p ∘ Char.toLower = p from funext hp, lower]

theorem dropWhile_lower (hp : IgnoresCase p) (t : Text) :
    (lower t).dropWhile p = lower (t.dropWhile p) := by
  rw [lower, List.dropWhile_map, show p ∘ Char.toLower = p from funext hp, lower]

theorem lower_take (n : ℕ) (t : Text) : lower (t.take n) = (lower t).take n :=
  List.map_take

theorem lower_drop (n : ℕ) (t : Text) : lower (t.drop n) = (lower t).drop n :=
  List.map_drop

theorem all_head?_lower (hp : IgnoresCase p) (t : Text) :
    (lower t).head?.all p = t.head?.all p := by
  cases t <;> simp [hp _]

/-! ### Searches -/

/-- The text up to a character that is no letter. -/
theorem through_lower (hc : c.isAlpha = false) (t : Text) :
    through c (lower t) = (lower (through c t).1, lower (through c t).2) := by
  have hp : IgnoresCase (· != c) := (ignoresCase_beq hc).not
  simp only [through, takeWhile_lower hp, dropWhile_lower hp, lower_append, lower_take, lower_drop]

theorem isPrefixOf_lower (hkey : ∀ c ∈ key, c.isAlpha = false) (t : Text) :
    key.isPrefixOf (lower t) = key.isPrefixOf t := by
  induction key generalizing t with
  | nil => simp
  | cons k key ih =>
    obtain ⟨hk, hkey⟩ := List.forall_mem_cons.mp hkey
    cases t with
    | nil => rfl
    | cons c t =>
      have hc : (k == c.toLower) = (k == c) := by
        rw [BEq.comm, BEq.comm (a := k)]
        exact ignoresCase_beq hk c
      rw [lower_cons, List.isPrefixOf, List.isPrefixOf, ih hkey, hc]

/-- A key without letters is found where it was. -/
theorem cut?_lower (hkey : ∀ c ∈ key, c.isAlpha = false) (t : Text) :
    cut? key (lower t) = (cut? key t).map (Prod.map lower lower) := by
  induction t with
  | nil => cases key <;> simp [cut?]
  | cons c t ih =>
    rw [lower_cons, cut?, cut?, ← lower_cons, isPrefixOf_lower hkey, ih]
    split
    · simp [lower_drop]
    · simp only [Option.map_map]
      rfl

end ComponentFile.Text
