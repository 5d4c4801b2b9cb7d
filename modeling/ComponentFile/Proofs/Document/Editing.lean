import ComponentFile.Proofs.Document.NormalForm
import ComponentFile.Proofs.Language.Parts
import ComponentFile.Proofs.Markup.Editing

/-!
# Editing a script or a style

Script and style are raw text.  Whatever is written in one of them, as long as it is not its end
tag, nothing else in the file is read differently: no element, no declaration, and no block of the
normal form.

## Main definitions

* `RawPart` : the parts of a component that are raw text.
* `Component.setPart` : a component with another text as one of these parts.

## Main results

* `block_replaceContent` : the blocks of a text whose raw text is replaced.
* `Settings.normalForm_replaceContent` : its normal form.
* `raw_part_edit_is_local` : what an edit of a script or a style changes.
-/

namespace ComponentFile

open Text Markup

variable {e : Element} {new t tag : Text} {span : Span}

/-- The parts of a component that are raw text. -/
inductive RawPart where
  | script
  | style
  deriving DecidableEq, Repr

/-- The name of the element of a part. -/
def RawPart.name : RawPart → Text
  | script => "script".toList
  | style => "style".toList

theorem RawPart.name_mem_rawTextNames (part : RawPart) : part.name ∈ rawTextNames := by
  cases part <;> decide

/-- A component with the text `t` as one of its parts. -/
def Component.setPart (c : Component) (part : RawPart) (t : Text) : Component :=
  match part with
  | .script => { c with script := t }
  | .style => { c with style := t }

/-! ### Blocks and declarations -/

/-- The raw text is replaced in its own block and in no other. -/
theorem block_replaceContent (he : find? (elements t) e.name [] = some e)
    (hname : e.name ∈ rawTextNames) (hspan : e.endTag = some span) (hlt : span.start < span.stop)
    (hnew : RawText.HasNoEndTag e.name new) (tag : Text) :
    block (replaceContent t e new) tag [] false =
      if tag = e.name then new else block t tag [] false := by
  have hrel := find?_replaceContent (mem_of_find?_eq_some he).1 hname hspan hlt hnew tag
  rw [block_false, block_false]
  generalize htag : find? (elements t) tag [] = found,
    find? (elements (replaceContent t e new)) tag [] = found' at hrel ⊢
  cases hrel with
  | none =>
    have hne : tag ≠ e.name := by
      rintro rfl
      rw [he] at htag
      cases htag
    rw [if_neg hne, extract, extract]
  | @some e₁ _ hbecomes =>
    have hiff : e₁ = e ↔ tag = e.name := by
      constructor
      · rintro rfl
        exact (mem_of_find?_eq_some htag).2.symm
      · rintro rfl
        rw [he] at htag
        exact (Option.some.inj htag).symm
    simp only [hbecomes.extract, hiff]

/-- What becomes of an element declares what it declared. -/
theorem declareSame_of_becomes {t' : Text} {e₁ e₂ : Element}
    (h : Element.Becomes t t' e new e₁ e₂) : DeclareSame e₁ e₂ where
  langOf := by rw [Languages.langOf, Languages.langOf, Element.attribute?, Element.attribute?,
    h.attributes]
  hasScoped := by rw [Element.hasAttribute, Element.hasAttribute, h.attributes]

/-- Another raw text declares nothing else. -/
theorem ofElements_replaceContent (hparts : HasAllParts t) (he : e ∈ elements t)
    (hname : e.name ∈ rawTextNames) (hspan : e.endTag = some span) (hlt : span.start < span.stop)
    (hnew : RawText.HasNoEndTag e.name new) :
    Languages.ofElements (replaceContent t e new) = Languages.ofElements t := by
  exact Languages.ofElements_eq (fun _ _ ↦ declareSame_of_becomes) hparts
    (find?_replaceContent he hname hspan hlt hnew)

/-- In the normal form of the edited text only the edited part is another one. -/
theorem Settings.normalForm_replaceContent {settings : Settings} {part : RawPart}
    (hmode : settings.detection = .parsed) (hstub : settings.stubScript = false)
    (hparts : HasAllParts t) (he : find? (elements t) part.name [] = some e)
    (hspan : e.endTag = some span) (hlt : span.start < span.stop)
    (hnew : RawText.HasNoEndTag e.name new) :
    settings.normalForm (replaceContent t e new) =
      (settings.normalForm t).setPart part (settings.tidy new) := by
  obtain ⟨hmem, hname⟩ := mem_of_find?_eq_some he
  have hraw : e.name ∈ rawTextNames := hname ▸ part.name_mem_rawTextNames
  have hblock (tag : String) : settings.blockOf (replaceContent t e new) tag =
      if tag.toList = part.name then settings.tidy new else settings.blockOf t tag := by
    rw [blockOf, blockOf, hstub, block_replaceContent (hname ▸ he) hraw hspan hlt hnew, hname]
    split <;> rfl
  have hdetect : Languages.detect (replaceContent t e new) settings.detection =
      Languages.detect t settings.detection := by
    rw [hmode]
    exact ofElements_replaceContent hparts hmem hraw hspan hlt hnew
  simp only [normalForm, hdetect, hblock]
  cases part <;> rfl

/-- An edit of a script or a style is local. -/
theorem raw_part_edit_is_local (part : RawPart) (t new : Text) (e : Element) (span : Span)
    (hparts : HasAllParts t) (he : find? (elements t) part.name [] = some e)
    (hspan : e.endTag = some span) (hlt : span.start < span.stop)
    (hnew : contains ('<' :: '/' :: part.name) (lower new) = false) :
    (∃ before after, elements t = before ++ e :: after ∧
      elements (replaceContent t e new) = before ++
        e.refill (byteLength (extract t (some e))) (byteLength new) ::
          after.map (Element.move (byteLength (extract t (some e))) (byteLength new))) ∧
    Languages.detect (replaceContent t e new) .parsed = Languages.detect t .parsed ∧
    ∀ (tools : Toolchain) (d : Document), d.contents = .text t →
      tools.settings.detection = .parsed → tools.settings.stubScript = false →
      tools.settings.coffee.compile = false → tools.settings.sass.compile = false →
      (tools.compile d).result = .ok (tools.settings.normalForm t).render ∧
      (tools.compile { d with contents := .text (replaceContent t e new) }).result =
        .ok ((tools.settings.normalForm t).setPart part (tools.settings.tidy new)).render := by
  obtain ⟨hmem, hname⟩ := mem_of_find?_eq_some he
  have hraw : e.name ∈ rawTextNames := hname ▸ part.name_mem_rawTextNames
  have hnone : RawText.HasNoEndTag e.name new := by
    refine hname ▸ RawText.hasNoEndTag_of_contains ?_
    have hlower : lower part.name = part.name := by cases part <;> decide
    rwa [hlower]
  obtain ⟨before, after, ht, ht', -⟩ := elements_replaceContent hmem hraw hspan hlt hnone
  refine ⟨⟨before, after, ht, ht'⟩, ofElements_replaceContent hparts hmem hraw hspan hlt hnone,
    fun tools d hd hmode hstub hcoffee hsass ↦ ⟨Toolchain.result_compile hd hcoffee hsass, ?_⟩⟩
  rw [Toolchain.result_compile rfl hcoffee hsass,
    Settings.normalForm_replaceContent hmode hstub hparts he hspan hlt hnone]

/-- A text whose coffee script stands in front of its other parts. -/
def coffeeFirstText : Text :=
  "<script lang=coffee>é</script ><template><p></template><style>b</style>".toList

/-- A document of that text. -/
def coffeeFirstDocument : Document :=
  ⟨⟨"a.vue".toList⟩, ⟨[]⟩, .text coffeeFirstText⟩

/-- A toolchain without programs, which takes blank lines out and reads declarations from the
elements. -/
def parsingTools : Toolchain :=
  .ofSettings ⟨true, false, .parsed, .default, .default⟩ (fun _ ↦ none) ⟨"/".toList⟩

/-- A script that looks like the beginning of a comment and of another style. -/
def tangledScript : Text :=
  "<!--</style><style lang='sass' scoped>".toList

theorem coffeeFirstText_raw_part_edit_is_local :
    (HasAllParts coffeeFirstText ∧
      contains ('<' :: '/' :: RawPart.script.name) (lower tangledScript) = false) ∧
    ∃ e, find? (elements coffeeFirstText) RawPart.script.name [] = some e ∧
      e.endTag = some ⟨22, 32⟩ ∧
      (∃ before after, elements coffeeFirstText = before ++ e :: after ∧
        elements (replaceContent coffeeFirstText e tangledScript) =
          before ++ e.refill 2 38 :: after.map (Element.move 2 38)) ∧
      Languages.detect (replaceContent coffeeFirstText e tangledScript) .parsed =
        ⟨none, none, false, true⟩ ∧
      (parsingTools.compile { coffeeFirstDocument with
        contents := .text (replaceContent coffeeFirstText e tangledScript) }).result =
          .ok (Component.render ⟨"<p>".toList, tangledScript, ['b'], none, none, false⟩) := by
  have hparts : HasAllParts coffeeFirstText := by decide +kernel
  have hnew : contains ('<' :: '/' :: RawPart.script.name) (lower tangledScript) = false := by
    decide +kernel
  have hfound : (find? (elements coffeeFirstText) RawPart.script.name []).map
      (fun e ↦ (e.endTag, byteLength (extract coffeeFirstText (some e)))) =
        some (some ⟨22, 32⟩, 2) := by decide +kernel
  obtain ⟨e, he, hplace⟩ := Option.map_eq_some_iff.mp hfound
  obtain ⟨hspan, hold⟩ := Prod.mk.inj hplace
  obtain ⟨helements, hdetect, hcompile⟩ :=
    raw_part_edit_is_local .script coffeeFirstText tangledScript e ⟨22, 32⟩ hparts he hspan
      (by decide) hnew
  rw [hold] at helements
  have hform : (parsingTools.settings.normalForm coffeeFirstText).setPart .script
      (parsingTools.settings.tidy tangledScript) =
        ⟨"<p>".toList, tangledScript, ['b'], none, none, false⟩ := by decide +kernel
  have hresult := (hcompile parsingTools coffeeFirstDocument rfl rfl rfl rfl rfl).2
  rw [hform] at hresult
  exact ⟨⟨hparts, hnew⟩, e, he, hspan, helements, hdetect.trans (by decide +kernel), hresult⟩

end ComponentFile
