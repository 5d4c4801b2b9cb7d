import ComponentFile.Proofs.Language.Parts
import ComponentFile.Proofs.Markup.Lowering

/-!
# Declarations in any case

Names of elements and attributes are looked up in lower case, and so is the value of a `lang`
attribute.  Texts that differ in the case of letters only therefore have the same elements at the
same places, and where all three elements of a component are there, they declare the same.

## Main results

* `find?_map_lowered` : an element that is looked up by its name is found in lower case, too.
* `Languages.ofElements_lower` : the declarations of a text in lower case.
* `elements_lower_and_detect_eq` : what a reader sees of the case of letters.
-/

namespace ComponentFile

open Text Markup

variable {t : Text}

namespace Markup

theorem Element.answers_lowered (e : Element) (tag : Text) :
    e.lowered.answers tag [] = e.answers tag [] := by
  simp [answers, lowered]

theorem find?_map_lowered (es : List Element) (tag : Text) :
    find? (es.map Element.lowered) tag [] = (find? es tag []).map Element.lowered := by
  simp only [find?, List.find?_map, Function.comp_def, Element.answers_lowered]

end Markup

theorem hasAllParts_lower_iff : HasAllParts (lower t) ↔ HasAllParts t := by
  simp only [HasAllParts, elements_lower, find?_map_lowered, Option.isSome_map]

namespace Languages

theorem langOf_lowered (e : Element) : langOf e.lowered = langOf e := by
  simp only [langOf, Element.attribute?, Element.lowered, OrderedMap.get?_mapValues, Option.map_map,
    Function.comp_def, lower_lower]

theorem declareSame_lowered (e : Element) : DeclareSame e e.lowered where
  langOf := langOf_lowered e
  hasScoped := OrderedMap.contains_mapValues ..

/-- Where all parts of a component are there, they declare the same in lower case. -/
theorem ofElements_lower (h : HasAllParts t) : ofElements (lower t) = ofElements t := by
  have hlower (e e' : Element) (he : e' = e.lowered) : DeclareSame e e' :=
    he ▸ declareSame_lowered e
  refine ofElements_eq hlower h fun tag ↦ ?_
  rw [elements_lower, find?_map_lowered]
  cases find? (elements t) tag [] with
  | none => exact .none
  | some e => exact .some rfl

end Languages

/-- Reading does not see the case of letters.  A text in lower case has the same elements with the
same names, attribute names and places, and the values of the attributes in lower case.  So texts
with all parts of a component that differ in the case of letters only declare the same. -/
theorem elements_lower_and_detect_eq (t : Text) :
    elements (lower t) = (elements t).map Element.lowered ∧
    (HasAllParts t → ∀ t', lower t' = lower t →
      Languages.detect t' .parsed = Languages.detect t .parsed) := by
  refine ⟨elements_lower t, fun h t' ht' ↦ ?_⟩
  have h' : HasAllParts t' := by rwa [← hasAllParts_lower_iff, ht', hasAllParts_lower_iff]
  calc Languages.ofElements t'
      = Languages.ofElements (lower t') := (Languages.ofElements_lower h').symm
    _ = Languages.ofElements (lower t) := by rw [ht']
    _ = Languages.ofElements t := Languages.ofElements_lower h

/-- A component with tags, attributes and an end of raw text in both cases. -/
def shoutedText : Text :=
  "<TEMPLATE Lang=PUG>É</Template><Script LANG='Coffee'></SCRIPT ><sTyle SCOPED>".toList

/-- The same component in other cases. -/
def exchangedText : Text :=
  "<template lANG=pug>É</tEMPLATE><sCRIPT lang='cOFFEE'></script ><StYLE scoped>".toList

theorem shoutedText_elements_lower_and_detect_eq :
    (HasAllParts shoutedText ∧ lower exchangedText = lower shoutedText) ∧
      Languages.detect exchangedText .parsed = Languages.detect shoutedText .parsed ∧
      Languages.detect shoutedText .parsed = ⟨some .pug, none, true, true⟩ := by
  have hparts : HasAllParts shoutedText := by decide +kernel
  have hlower : lower exchangedText = lower shoutedText := by decide +kernel
  exact ⟨⟨hparts, hlower⟩, (elements_lower_and_detect_eq shoutedText).2 hparts _ hlower,
    by decide +kernel⟩

end ComponentFile
