import ComponentFile.Path.Basic
import Mathlib.Data.List.Basic

/-!
# The order of paths

Texts and lists of parts are both ordered by their first difference.  If single characters, or
single parts, are ordered by that, so are the lists.  Two paths may be in order both ways without
being spelled in the same way; then they have the same parts.

## Main definitions

* `Orders` : the tests that order a type linearly.
* `byFirstDifference` : lists, by their first difference.

## Main results

* `Orders.byFirstDifference` : a linear order of elements gives one of lists.
* `Path.orders_partsLe` : lists of parts are linearly ordered.
* `Path.eq_of_perm_of_pairwise` : of all orders of some lists of parts, only one is sorted.
-/

namespace ComponentFile

section Orders

variable {α : Type} {le : α → α → Bool} {a b c : α}

/-- A test that orders a type linearly. -/
structure Orders (le : α → α → Bool) : Prop where
  total : ∀ a b, (le a b || le b a) = true
  trans : ∀ a b c, le a b = true → le b c = true → le a c = true
  antisymm : ∀ a b, le a b = true → le b a = true → a = b

variable [DecidableEq α]

/-- The order of lists in which the first elements that differ decide. -/
def byFirstDifference (le : α → α → Bool) : List α → List α → Bool
  | [], _ => true
  | _ :: _, [] => false
  | a :: as, b :: bs => if a = b then byFirstDifference le as bs else le a b

/-- A linear order of elements gives a linear order of lists. -/
theorem Orders.byFirstDifference (h : Orders le) : Orders (byFirstDifference le) where
  total as bs := by
    induction as generalizing bs with
    | nil => rfl
    | cons a as ih =>
      cases bs with
      | nil => rfl
      | cons b bs =>
        by_cases hab : a = b
        · simpa [ComponentFile.byFirstDifference, hab] using ih bs
        · simpa [ComponentFile.byFirstDifference, hab, Ne.symm hab] using h.total a b
  trans as bs cs hab hbc := by
    induction as generalizing bs cs with
    | nil => rfl
    | cons a as ih =>
      cases bs with
      | nil => cases hab
      | cons b bs =>
        cases cs with
        | nil => cases hbc
        | cons c cs =>
          simp only [ComponentFile.byFirstDifference] at hab hbc ⊢
          by_cases h₁ : a = b
          · subst h₁
            by_cases h₂ : a = c
            · simp only [h₂, if_true] at hab hbc ⊢
              exact ih bs cs hab hbc
            · simpa only [h₂, if_false] using hbc
          · rw [if_neg h₁] at hab
            by_cases h₂ : b = c
            · subst h₂
              rwa [if_neg h₁]
            · rw [if_neg h₂] at hbc
              have h₃ : a ≠ c := by
                rintro rfl
                exact h₁ (h.antisymm a b hab hbc)
              rw [if_neg h₃]
              exact h.trans a b c hab hbc
  antisymm as bs hab hba := by
    induction as generalizing bs with
    | nil =>
      cases bs with
      | nil => rfl
      | cons b bs => cases hba
    | cons a as ih =>
      cases bs with
      | nil => cases hab
      | cons b bs =>
        simp only [ComponentFile.byFirstDifference] at hab hba
        by_cases h₁ : a = b
        · subst h₁
          simp only [if_true] at hab hba
          rw [ih bs hab hba]
        · rw [if_neg h₁] at hab
          rw [if_neg (Ne.symm h₁)] at hba
          exact absurd (h.antisymm a b hab hba) h₁

end Orders

/-! ### Texts -/

theorem Text.le_eq (s t : Text) :
    Text.le s t = byFirstDifference (fun c d ↦ decide (c.toNat ≤ d.toNat)) s t := by
  induction s generalizing t with
  | nil => rfl
  | cons c s ih =>
    cases t with
    | nil => rfl
    | cons d t => simp only [Text.le, byFirstDifference, ih]

/-- Texts are linearly ordered. -/
theorem Text.orders_le : Orders Text.le := by
  have hchar : Orders fun c d : Char ↦ decide (c.toNat ≤ d.toNat) :=
    ⟨fun c d ↦ by simpa using Nat.le_total c.toNat d.toNat,
      fun c d e ↦ by simpa using Nat.le_trans,
      fun c d hcd hdc ↦
        Char.toNat_inj.mp (Nat.le_antisymm (by simpa using hcd) (by simpa using hdc))⟩
  have hle : Text.le = byFirstDifference fun c d : Char ↦ decide (c.toNat ≤ d.toNat) :=
    funext fun s ↦ funext fun t ↦ Text.le_eq s t
  exact hle ▸ hchar.byFirstDifference

namespace Path

/-! ### Parts -/

/-- A part is known by its kind and its name. -/
theorem Part.ext_rank_nameText {a b : Part} (hrank : a.rank = b.rank)
    (hname : a.nameText = b.nameText) : a = b := by
  cases a <;> cases b <;> simp_all [rank, nameText]

/-- Parts are linearly ordered: by their kinds, and names among each other by their characters. -/
theorem Part.orders_le : Orders Part.le where
  total a b := by
    by_cases h : a.rank = b.rank
    · simpa [Part.le, h] using Text.orders_le.total a.nameText b.nameText
    · simpa [Part.le, h, Ne.symm h] using Nat.le_total a.rank b.rank
  trans a b c hab hbc := by
    simp only [Part.le] at hab hbc ⊢
    split at hab
    · next h₁ =>
      rw [h₁]
      split at hbc
      · next h₂ => rw [if_pos h₂]; exact Text.orders_le.trans _ _ _ hab hbc
      · next h₂ => rwa [if_neg h₂]
    · next h₁ =>
      split at hbc
      · next h₂ => rwa [← h₂, if_neg h₁]
      · next h₂ =>
        simp only [decide_eq_true_eq] at hab hbc
        rw [if_neg (by omega)]
        exact decide_eq_true (Nat.le_trans hab hbc)
  antisymm a b hab hba := by
    simp only [Part.le] at hab hba
    by_cases h : a.rank = b.rank
    · simp only [h, if_true] at hab hba
      exact Part.ext_rank_nameText h (Text.orders_le.antisymm _ _ hab hba)
    · simp only [h, Ne.symm h, if_false, decide_eq_true_eq] at hab hba
      omega

theorem partsLe_eq (as bs : List Part) : partsLe as bs = byFirstDifference Part.le as bs := by
  induction as generalizing bs with
  | nil => rfl
  | cons a as ih =>
    cases bs with
    | nil => rfl
    | cons b bs => simp only [partsLe, byFirstDifference, ih]

/-- Lists of parts are linearly ordered. -/
theorem orders_partsLe : Orders partsLe := by
  have hle : partsLe = byFirstDifference Part.le := funext fun as ↦ funext fun bs ↦ partsLe_eq as bs
  exact hle ▸ Part.orders_le.byFirstDifference

/-! ### Paths -/

/-- Of all orders of some lists of parts only one is sorted. -/
theorem eq_of_perm_of_pairwise {pss qss : List (List Part)} (hperm : pss.Perm qss)
    (hp : pss.Pairwise fun ps qs ↦ partsLe ps qs = true)
    (hq : qss.Pairwise fun ps qs ↦ partsLe ps qs = true) : pss = qss :=
  hperm.eq_of_pairwise (fun ps qs _ _ ↦ orders_partsLe.antisymm ps qs) hp hq

end Path

end ComponentFile
