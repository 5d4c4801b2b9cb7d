import ComponentFile.Document
import ComponentFile.Proofs.Component.Declarations
import ComponentFile.Proofs.Markup.Respacing

/-!
# The normal form of a normal form

A document that is compiled without a preprocessor becomes a component of its own blocks, and the
text of that component is a document again.  If blank lines are taken out, and the blocks end where
they are closed, that document stays as it is: its blocks are read back with the ends of two lines
around them, which are blank lines again, and its declarations are those of the tags.

## Main definitions

* `Settings.normalForm` : the component of a text whose blocks are not compiled.
* `IsNormalizable` : the texts whose blocks end where they are closed.

## Main results

* `IsNormalizable.isReadable_normalForm` : the normal form can be read back.
* `isCovered_normalForm` : the normal form shows no declaration that the text does not show.
* `IsNormalizable.normalForm_render` : the normal form of a normal form is that normal form.
* `Toolchain.compile_compile` : compiling a document twice is compiling it once.
-/

namespace ComponentFile

open Text Markup

variable {settings : Settings} {e : Element} {t : Text} {tag : Text}

/-! ### Blocks of a text -/

theorem mem_of_find?_eq_some (h : find? (elements t) tag [] = some e) :
    e ∈ elements t ∧ e.name = tag := by
  have hanswers := List.find?_some h
  simp only [Element.answers, List.isEmpty_nil, Bool.true_or, Bool.and_true, beq_iff_eq]
    at hanswers
  exact ⟨List.mem_of_find?_eq_some h, hanswers⟩

/-- Without a stub a block is the content of an element. -/
theorem block_false (t tag : Text) :
    block t tag [] false = extract t (find? (elements t) tag []) := by
  simp [block]

/-- Only a script may be a stub. -/
theorem block_of_ne (htag : tag ≠ "script".toList) (stubScript : Bool) :
    block t tag [] stubScript = block t tag [] false := by
  rw [block_false, block, beq_eq_false_iff_ne.mpr htag, Bool.and_false, Bool.false_and,
    if_neg Bool.false_ne_true]

theorem block_eq_or_eq_stub (t tag : Text) (stubScript : Bool) :
    block t tag [] stubScript = block t tag [] false ∨ block t tag [] stubScript = scriptStub := by
  rw [block_false, block]
  split
  · exact .inr rfl
  · exact .inl rfl

theorem tidy_of_removeBlankLines (hblank : settings.removeBlankLines = true) (t : Text) :
    settings.tidy t = stripBlankLines t := by
  rw [Settings.tidy, if_pos hblank]

/-! ### The normal form -/

/-- The component of a text whose script and style are not compiled. -/
def Settings.normalForm (settings : Settings) (t : Text) : Component where
  template := settings.blockOf t "template"
  script := settings.blockOf t "script"
  style := settings.blockOf t "style"
  templateLang := (Languages.detect t settings.detection).template
  styleLang := (Languages.detect t settings.detection).style
  isScoped := (Languages.detect t settings.detection).isScoped

/-- Without a preprocessor a document becomes its normal form. -/
theorem Toolchain.result_compile {tools : Toolchain} {d : Document} (ht : d.contents = .text t)
    (hcoffee : tools.settings.coffee.compile = false)
    (hsass : tools.settings.sass.compile = false) :
    (tools.compile d).result = .ok (tools.settings.normalForm t).render := by
  simp [compile, component, process, scriptStep, styleStep, Run.andThen, Run.after, Run.done, ht,
    hcoffee, hsass, Settings.normalForm]

/-- A text whose blocks end where they are closed: its template, if it has one, has an end tag, and
neither its script nor its style breaks off within an end tag.  The blank lines of its template
hold only spaces of the kind that separates the parts of a tag. -/
structure IsNormalizable (t : Text) : Prop where
  isClosed : ∀ e ∈ find? (elements t) "template".toList [], e.endTag.isSome = true
  spaces : ∀ line ∈ lines (block t "template".toList [] false),
    allBlank line = true → line.all isSpace = true
  script : ¬"</script".toList <:+ lower (block t "script".toList [] false)
  style : ¬"</style".toList <:+ lower (block t "style".toList [] false)

instance (t : Text) : Decidable (IsNormalizable t) :=
  decidable_of_iff
    ((∀ e ∈ find? (elements t) "template".toList [], e.endTag.isSome = true) ∧
      (∀ line ∈ lines (block t "template".toList [] false),
        allBlank line = true → line.all isSpace = true) ∧
      ¬"</script".toList <:+ lower (block t "script".toList [] false) ∧
      ¬"</style".toList <:+ lower (block t "style".toList [] false))
    ⟨fun ⟨h₁, h₂, h₃, h₄⟩ ↦ ⟨h₁, h₂, h₃, h₄⟩, fun ⟨h₁, h₂, h₃, h₄⟩ ↦ ⟨h₁, h₂, h₃, h₄⟩⟩

/-- The content of a template that is missing or closed is enclosed. -/
theorem isEnclosed_block
    (hclosed : ∀ e ∈ find? (elements t) "template".toList [], e.endTag.isSome = true) :
    IsEnclosed "template".toList (block t "template".toList [] false) := by
  rw [block_false]
  cases he : find? (elements t) "template".toList [] with
  | none => exact isEnclosed_nil _
  | some e =>
    obtain ⟨hmem, hname⟩ := mem_of_find?_eq_some he
    rw [← hname]
    exact isEnclosed_extract hmem (hclosed e he) (by rw [hname]; decide)

/-- A block of raw text has no end tag in it, unless it breaks off within one. -/
theorem hasNoEndTag_block (htag : tag ∈ rawTextNames)
    (hsuffix : ¬('<' :: '/' :: lower tag <:+ lower (block t tag [] false))) :
    RawText.HasNoEndTag tag (block t tag [] false) := by
  rw [block_false] at hsuffix ⊢
  cases he : find? (elements t) tag [] with
  | none => exact RawText.hasNoEndTag_nil tag
  | some e =>
    obtain ⟨hmem, rfl⟩ := mem_of_find?_eq_some he
    rw [he] at hsuffix
    exact hasNoEndTag_extract hmem htag hsuffix

/-- The normal form can be read back. -/
theorem IsNormalizable.isReadable_normalForm (h : IsNormalizable t)
    (hblank : settings.removeBlankLines = true) : (settings.normalForm t).IsReadable where
  template := by
    have henclosed := (isEnclosed_block h.isClosed).onLines_stripBlankLines h.spaces
    rwa [← block_of_ne (by decide) settings.stubScript, ← tidy_of_removeBlankLines hblank]
      at henclosed
  script := by
    have hnone : RawText.HasNoEndTag "script".toList
        (block t "script".toList [] settings.stubScript) := by
      obtain hblock | hblock := block_eq_or_eq_stub t "script".toList settings.stubScript
      · rw [hblock]
        exact hasNoEndTag_block (by decide) h.script
      · rw [hblock]
        exact RawText.split?_eq_none_iff.mp (by decide +kernel)
    have hstrip := hnone.stripBlankLines (by decide)
    rwa [← tidy_of_removeBlankLines hblank] at hstrip
  style := by
    have hnone := hasNoEndTag_block (by decide : "style".toList ∈ rawTextNames) h.style
    have hstrip := hnone.stripBlankLines (by decide)
    rwa [← block_of_ne (by decide) settings.stubScript, ← tidy_of_removeBlankLines hblank]
      at hstrip

/-- The stub declares nothing. -/
theorem covers_scriptStub (t : Text) : Covers t (stripBlankLines scriptStub) where
  declares lang hlang hs := by
    have hstub : declares (stripBlankLines scriptStub) lang = false :=
      (by decide +kernel : ∀ lang ∈ scannedNames,
        declares (stripBlankLines scriptStub) lang = false) lang hlang
    rw [hstub] at hs
    cases hs
  scansScoped hs := by
    have hstub : scansScoped (stripBlankLines scriptStub) = false := by decide +kernel
    rw [hstub] at hs
    cases hs

/-- The normal form shows no declaration that the text does not show. -/
theorem isCovered_normalForm (hblank : settings.removeBlankLines = true) (t : Text) :
    (settings.normalForm t).IsCovered t := by
  have hcovers (name : String) : Covers t (settings.blockOf t name) := by
    rw [Settings.blockOf, tidy_of_removeBlankLines hblank]
    obtain hblock | hblock := block_eq_or_eq_stub t name.toList settings.stubScript
    · rw [hblock, block_false]
      exact covers_stripBlankLines (infix_extract t _)
    · rw [hblock]
      exact covers_scriptStub t
  exact ⟨hcovers "template", hcovers "script", hcovers "style"⟩

/-- A scan of the normal form finds what was declared, and so do its elements. -/
theorem detect_render_normalForm (h : IsNormalizable t)
    (hblank : settings.removeBlankLines = true) :
    ∃ coffee, Languages.detect (settings.normalForm t).render settings.detection =
      ⟨(settings.normalForm t).templateLang, (settings.normalForm t).styleLang,
        (settings.normalForm t).isScoped, coffee⟩ := by
  cases hmode : settings.detection with
  | parsed => exact ⟨false, Component.ofElements_render (h.isReadable_normalForm hblank)⟩
  | document =>
    exact (isCovered_normalForm hblank t).scan_render (by simp [Settings.normalForm, hmode]; rfl)
      (by simp [Settings.normalForm, hmode]; rfl) (by simp [Settings.normalForm, hmode]; rfl)

/-- A block of the normal form, read with the ends of the lines around it and tidied again. -/
theorem tidy_onLines_blockOf (hblank : settings.removeBlankLines = true) (t : Text)
    (name : String) : settings.tidy (onLines (settings.blockOf t name)) =
      settings.blockOf t name := by
  rw [Settings.blockOf, tidy_of_removeBlankLines hblank, tidy_of_removeBlankLines hblank,
    stripBlankLines_onLines_stripBlankLines]

/-- The normal form of a normal form is that normal form. -/
theorem IsNormalizable.normalForm_render (h : IsNormalizable t)
    (hblank : settings.removeBlankLines = true) :
    settings.normalForm (settings.normalForm t).render = settings.normalForm t := by
  obtain ⟨htemplate, hscript, hstyle⟩ :=
    Component.block_render (h.isReadable_normalForm hblank) settings.stubScript
  obtain ⟨coffee, hdetect⟩ := detect_render_normalForm h hblank
  rw [Settings.normalForm, hdetect]
  simp only [Settings.blockOf, htemplate, hscript, hstyle]
  simp only [Settings.normalForm, tidy_onLines_blockOf hblank]

/-- Compiling a document twice is compiling it once, if blank lines are taken out, nothing is
compiled on the way and the blocks of the document end where they are closed. -/
theorem Toolchain.compile_compile (tools : Toolchain) (d : Document) (t : Text)
    (ht : d.contents = .text t) (hblank : tools.settings.removeBlankLines = true)
    (hcoffee : tools.settings.coffee.compile = false)
    (hsass : tools.settings.sass.compile = false) (h : IsNormalizable t) :
    ∃ o, (tools.compile d).result = .ok o ∧
      (tools.compile { d with contents := .text o }).result = .ok o := by
  refine ⟨(tools.settings.normalForm t).render, result_compile ht hcoffee hsass, ?_⟩
  rw [result_compile rfl hcoffee hsass, h.normalForm_render hblank]

/-- A toolchain without programs, which takes blank lines out, writes a stub for a missing script
and finds declarations by a scan. -/
def sampleTools : Toolchain :=
  .ofSettings ⟨true, true, .document, .default, .default⟩ (fun _ ↦ none) ⟨"/".toList⟩

/-- A text with blank lines between its blocks, in a tag, in a value and in a comment, whose scoped
style breaks off in the name of its end tag. -/
def sampleText : Text :=
  ("<style scoped lang='scss'>\n\na > b { }</styl\n</style>\n\n<template>\n  <p\n\n" ++
    "title=\"<\n \t\n>\">\n\n<!--\n\n--></p>\n</template>").toList

/-- A document of that text. -/
def sampleDocument : Document :=
  ⟨⟨"a.vue".toList⟩, ⟨[]⟩, .text sampleText⟩

theorem sampleDocument_compile_compile :
    (sampleTools.settings.removeBlankLines = true ∧
      sampleTools.settings.coffee.compile = false ∧ sampleTools.settings.sass.compile = false ∧
      IsNormalizable sampleText) ∧
    ∃ o, (sampleTools.compile sampleDocument).result = .ok o ∧
      (sampleTools.compile { sampleDocument with contents := .text o }).result = .ok o := by
  have h : IsNormalizable sampleText := by decide +kernel
  exact ⟨⟨rfl, rfl, rfl, h⟩,
    sampleTools.compile_compile sampleDocument sampleText rfl rfl rfl rfl h⟩

end ComponentFile
