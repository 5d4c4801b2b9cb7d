import ComponentFile.Proofs.Component.RoundTrip
import ComponentFile.Proofs.Language.Scan

/-!
# What a scan finds in a component

A scan looks at the whole text of a component, at the tags as well as at the blocks.  The tags show
exactly what the component declares, and nothing is found that begins in a tag and ends in a block.
So a scan finds what is declared and what it finds in the blocks, and where the blocks show nothing
that is not declared, it finds the declarations again.

## Main definitions

* `Component.frame` : a component with empty blocks.
* `Component.blocks` : the blocks of a component.
* `Component.IsCovered` : the components whose blocks show nothing that a text does not show.

## Main results

* `Component.anyLine_render` : a line of the text is a line of the tags or of a block.
* `Component.detect_document_render` : what a scan finds is declared or found in a block.
* `Component.IsCovered.scan_render` : a scan finds the declarations of a component whose blocks are
  covered.
-/

namespace ComponentFile

open Text Markup

namespace Component

variable {c : Component} {p : Text → Bool} {t : Text}

/-- A component with empty blocks. -/
def frame (templateLang : Option TemplateLang) (styleLang : Option StyleLang) (isScoped : Bool) :
    Component :=
  ⟨[], [], [], templateLang, styleLang, isScoped⟩

theorem anyLine_renderBlock (p : Text → Bool) (name attributes block : Text) :
    anyLine p (renderBlock name attributes block) =
      (anyLine p ('<' :: name ++ attributes ++ ['>']) ||
        (anyLine p block || (anyLine p (closingTag name) || anyLine p []))) := by
  have htext : renderBlock name attributes block = ('<' :: name ++ attributes ++ ['>']) ++
      '\n' :: (block ++ '\n' :: (closingTag name ++ '\n' :: [])) := by
    simp [renderBlock, closingTag]
  rw [htext, anyLine_append_cons, anyLine_append_cons, anyLine_append_cons]

/-- A line of the text is a line of the tags or of a block. -/
theorem anyLine_render (hnil : p [] = false) (c : Component) :
    anyLine p c.render = (anyLine p (frame c.templateLang c.styleLang c.isScoped).render ||
      (anyLine p c.template || anyLine p c.script || anyLine p c.style)) := by
  have hempty : anyLine p [] = false := by
    rw [anyLine, lines_of_notMem List.not_mem_nil, List.any_cons, hnil]
    rfl
  simp only [render, anyLine_append_cons, anyLine_renderBlock, frame, hempty, Bool.or_false,
    Bool.false_or, templateAttributes, styleAttributes, Bool.or_assoc]
  ac_rfl

/-- The tags show exactly what is declared. -/
theorem declares_frame (templateLang : Option TemplateLang) (styleLang : Option StyleLang)
    (isScoped : Bool) :
    declares (frame templateLang styleLang isScoped).render "pug".toList = templateLang.isSome ∧
      declares (frame templateLang styleLang isScoped).render "sass".toList =
        (styleLang == some .sass) ∧
      declares (frame templateLang styleLang isScoped).render "scss".toList =
        (styleLang == some .scss) ∧
      scansScoped (frame templateLang styleLang isScoped).render = isScoped := by
  obtain _ | ⟨⟨⟩⟩ := templateLang <;> obtain _ | ⟨_ | _⟩ := styleLang <;> cases isScoped <;>
    decide +kernel

/-- No tag declares a language of the script. -/
theorem declares_coffee_frame (templateLang : Option TemplateLang) (styleLang : Option StyleLang)
    (isScoped : Bool) :
    declares (frame templateLang styleLang isScoped).render "coffee".toList = false := by
  obtain _ | ⟨⟨⟩⟩ := templateLang <;> obtain _ | ⟨_ | _⟩ := styleLang <;> cases isScoped <;>
    decide +kernel

/-! ### The tags and the blocks -/

/-- The blocks of a component. -/
def blocks (c : Component) : List Text :=
  [c.template, c.script, c.style]

/-- What a line of the text shows is shown by the tags or by a block. -/
theorem anyLine_render_iff (hnil : p [] = false) (c : Component) :
    anyLine p c.render = true ↔
      anyLine p (frame c.templateLang c.styleLang c.isScoped).render = true ∨
        ∃ b ∈ c.blocks, anyLine p b = true := by
  simp [anyLine_render hnil c, blocks, or_assoc]

theorem declares_render_iff {lang : Text} (hlang : '\n' ∉ lang) (c : Component) :
    declares c.render lang = true ↔
      declares (frame c.templateLang c.styleLang c.isScoped).render lang = true ∨
        ∃ b ∈ c.blocks, declares b lang = true := by
  have hrender := anyLine_render_iff (p := fun l ↦ declares l lang) rfl c
  simpa only [anyLine_declares hlang] using hrender

/-- A scan of a component finds the languages that are declared and those that it finds in a block,
a sass style before an scss style, and the style is scoped if that is declared or a block shows it.
So writing a component neither hides a declaration nor makes one. -/
theorem detect_document_render (c : Component) :
    let found := Languages.detect c.render .document
    (found.template = some .pug ↔
        c.templateLang = some .pug ∨ ∃ b ∈ c.blocks, declares b "pug".toList = true) ∧
      found.style =
        (if c.styleLang = some .sass ∨ ∃ b ∈ c.blocks, declares b "sass".toList = true then
          some .sass
        else if c.styleLang = some .scss ∨ ∃ b ∈ c.blocks, declares b "scss".toList = true then
          some .scss
        else none) ∧
      (found.isScoped = true ↔
        c.isScoped = true ∨ ∃ b ∈ c.blocks, (Languages.detect b .document).isScoped = true) ∧
      (found.coffee = true ↔ ∃ b ∈ c.blocks, declares b "coffee".toList = true) := by
  obtain ⟨hpug, hsass, hscss, hscoped⟩ := declares_frame c.templateLang c.styleLang c.isScoped
  have hcoffee := declares_coffee_frame c.templateLang c.styleLang c.isScoped
  have hpug' := c.declares_render_iff (by decide : '\n' ∉ "pug".toList)
  have hsass' := c.declares_render_iff (by decide : '\n' ∉ "sass".toList)
  have hscss' := c.declares_render_iff (by decide : '\n' ∉ "scss".toList)
  have hcoffee' := c.declares_render_iff (by decide : '\n' ∉ "coffee".toList)
  have hscoped' := c.anyLine_render_iff (p := lineScoped) rfl
  change anyLine lineScoped _ = _ at hscoped
  have hlang : c.templateLang.isSome = true ↔ c.templateLang = some .pug := by
    obtain _ | ⟨⟨⟩⟩ := c.templateLang <;> decide
  rw [hpug, hlang] at hpug'
  rw [hsass, beq_iff_eq] at hsass'
  rw [hscss, beq_iff_eq] at hscss'
  rw [hcoffee, or_iff_right Bool.false_ne_true] at hcoffee'
  rw [hscoped] at hscoped'
  refine ⟨?_, ?_, hscoped', hcoffee'⟩
  · simp only [Languages.detect, Languages.scan, ← hpug']
    split <;> simp_all
  · simp only [Languages.detect, Languages.scan, ← hsass', ← hscss']

/-! ### Blocks that a text covers -/

/-- A component whose blocks show nothing that the text `t` does not show. -/
structure IsCovered (t : Text) (c : Component) : Prop where
  template : Covers t c.template
  script : Covers t c.script
  style : Covers t c.style

/-- What a line of a component shows is shown by the tags, unless the covering text shows it. -/
theorem IsCovered.anyLine_render (h : c.IsCovered t) (hnil : p [] = false)
    (hp : ∀ block, Covers t block → anyLine p block = true → anyLine p t = true) :
    ∃ inBlocks, anyLine p c.render =
        (anyLine p (frame c.templateLang c.styleLang c.isScoped).render || inBlocks) ∧
      (anyLine p t = false → inBlocks = false) := by
  refine ⟨_, Component.anyLine_render hnil c, fun hnone ↦ ?_⟩
  rw [Bool.eq_false_iff] at hnone ⊢
  simp only [ne_eq, Bool.or_eq_true]
  rintro ((htemplate | hscript) | hstyle)
  · exact hnone (hp _ h.template htemplate)
  · exact hnone (hp _ h.script hscript)
  · exact hnone (hp _ h.style hstyle)

theorem IsCovered.declares_render (h : c.IsCovered t) (lang : Text) (hlang : lang ∈ scannedNames) :
    ∃ inBlocks, declares c.render lang =
        (declares (frame c.templateLang c.styleLang c.isScoped).render lang || inBlocks) ∧
      (declares t lang = false → inBlocks = false) := by
  have hline : '\n' ∉ lang := (by decide : ∀ lang ∈ scannedNames, '\n' ∉ lang) lang hlang
  have hnil : declares [] lang = false :=
    (by decide : ∀ lang ∈ scannedNames, declares [] lang = false) lang hlang
  have hrender := h.anyLine_render (p := fun l ↦ declares l lang) hnil
  simp only [anyLine_declares hline] at hrender
  exact hrender fun block hblock ↦ hblock.declares lang hlang

theorem IsCovered.scansScoped_render (h : c.IsCovered t) :
    ∃ inBlocks, scansScoped c.render =
        (scansScoped (frame c.templateLang c.styleLang c.isScoped).render || inBlocks) ∧
      (scansScoped t = false → inBlocks = false) :=
  h.anyLine_render (p := lineScoped) rfl fun _ hblock ↦ hblock.scansScoped

/-- A scan of a component finds its declarations again, if these are the ones of a text that covers
its blocks. -/
theorem IsCovered.scan_render (h : c.IsCovered t)
    (htemplate : c.templateLang = (Languages.scan t).template)
    (hstyle : c.styleLang = (Languages.scan t).style)
    (hscoped : c.isScoped = (Languages.scan t).isScoped) :
    ∃ coffee, Languages.scan c.render = ⟨c.templateLang, c.styleLang, c.isScoped, coffee⟩ := by
  obtain ⟨pug, hpug, hpug'⟩ := h.declares_render "pug".toList (by decide)
  obtain ⟨sass, hsass, hsass'⟩ := h.declares_render "sass".toList (by decide)
  obtain ⟨scss, hscss, hscss'⟩ := h.declares_render "scss".toList (by decide)
  obtain ⟨inBlocks, hin, hin'⟩ := h.scansScoped_render
  obtain ⟨hframe₁, hframe₂, hframe₃, hframe₄⟩ :=
    declares_frame c.templateLang c.styleLang c.isScoped
  simp only [Languages.scan] at htemplate hstyle hscoped
  refine ⟨declares c.render "coffee".toList, ?_⟩
  simp only [Languages.scan, Languages.mk.injEq, hpug, hsass, hscss, hin, hframe₁, hframe₂,
    hframe₃, hframe₄, and_true]
  -- what the text does not show, the blocks do not show
  refine ⟨?_, ?_, ?_⟩
  · rw [htemplate]
    cases hp : declares t "pug".toList with
    | true => simp
    | false => simp [hpug' hp]
  · rw [hstyle]
    cases hs : declares t "sass".toList with
    | true => simp
    | false =>
      cases hc : declares t "scss".toList with
      | true => simp [hsass' hs]
      | false => simp [hsass' hs, hscss' hc]
  · rw [hscoped]
    cases hs : scansScoped t with
    | true => simp
    | false => simp [hin' hs]

end Component

end ComponentFile
