import ComponentFile.Language

/-!
# Declarations of the elements

Where a text has a template, a script and a style, nothing is left to the scan: the three elements
declare everything, and of these only the values of `lang` and the presence of `scoped` matter.

## Main definitions

* `HasAllParts` : the texts with a template, a script and a style.

## Main results

* `Languages.ofElements_eq` : texts whose elements declare the same declare the same.
-/

namespace ComponentFile

open Text Markup

variable {t t' : Text}

/-- The text has a template, a script and a style. -/
def HasAllParts (t : Text) : Prop :=
  ∀ tag ∈ ["template".toList, "script".toList, "style".toList],
    (find? (elements t) tag []).isSome = true

instance (t : Text) : Decidable (HasAllParts t) :=
  inferInstanceAs (Decidable (∀ tag ∈ _, _))

/-- Two elements declare the same, as a template, as a script and as a style. -/
structure DeclareSame (e e' : Element) : Prop where
  langOf : Languages.langOf e' = Languages.langOf e
  hasScoped : e'.hasAttribute "scoped".toList = e.hasAttribute "scoped".toList

/-- Where all parts of a component are there, texts whose elements declare the same declare the
same. -/
theorem Languages.ofElements_eq {R : Element → Element → Prop}
    (hR : ∀ e e', R e e' → DeclareSame e e') (h : HasAllParts t)
    (hfind : ∀ tag, Option.Rel R (find? (elements t) tag []) (find? (elements t') tag [])) :
    ofElements t' = ofElements t := by
  have hexists (tag : Text) (htag : (find? (elements t) tag []).isSome = true) :
      ∃ e e', find? (elements t) tag [] = some e ∧ find? (elements t') tag [] = some e' ∧
        DeclareSame e e' := by
    obtain ⟨e, he⟩ := Option.isSome_iff_exists.mp htag
    have hrel := hfind tag
    rw [he] at hrel
    generalize he' : find? (elements t') tag [] = found at hrel
    cases hrel with
    | some hee' => exact ⟨e, _, he, rfl, hR _ _ hee'⟩
  obtain ⟨template, template', ht, ht', htemplate⟩ := hexists "template".toList (h _ (by simp))
  obtain ⟨script, script', hs, hs', hscript⟩ := hexists "script".toList (h _ (by simp))
  obtain ⟨style, style', hy, hy', hstyle⟩ := hexists "style".toList (h _ (by simp))
  simp only [ofElements, ht, ht', hs, hs', hy, hy', Option.elim_some, templateOf, styleOf, coffeeOf,
    htemplate.langOf, hscript.langOf, hstyle.langOf, hstyle.hasScoped]

end ComponentFile
