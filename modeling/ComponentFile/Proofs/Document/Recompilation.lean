import ComponentFile.Proofs.Document.NormalForm

/-!
# Documents that have been compiled

What a document declares decides which of its blocks are compiled.  In the component that it
becomes, a script declares no language, and a style that was compiled declares none either; a style
that still declares sass was left alone, and the settings that left it alone do so again.  So no
preprocessor works on a component twice.

## Main definitions

* `Component.onLines` : a component whose blocks stand on lines of their own.

## Main results

* `Toolchain.result_compile_eq_ok_iff` : a document is compiled when its component is.
* `Toolchain.styleStep_component` : a style that was compiled is not compiled again.
* `Component.IsReadable.normalForm_render` : the blocks of a component are read back with the ends
  of the lines around them.
* `Toolchain.component_of_steps_eq_none` : without a preprocessor nothing is called.
* `Toolchain.compile_output` : a compiled document is not compiled again.
-/

namespace ComponentFile

open Text Markup

/-! ### Runs that succeed -/

namespace Run

variable {α β : Type}

theorem result_andThen_eq_ok_iff {first : Run α} {next : α → Run β} {b : β} :
    (first.andThen next).result = .ok b ↔
      ∃ a, first.result = .ok a ∧ (next a).result = .ok b := by
  cases h : first.result with
  | error e => simp [andThen, h]
  | ok a => simp [andThen, h]

@[simp] theorem result_after (event : Event) (run : Run α) :
    (run.after event).result = run.result := rfl

@[simp] theorem result_done (result : Except DocumentError α) : (done result).result = result := rfl

end Run

variable {tools : Toolchain} {settings : Settings} {d : Document} {path relative : Path}
  {c : Component} {t o : Text}

/-- A document is compiled when its component is, and then its text is that of the component. -/
theorem Toolchain.result_compile_eq_ok_iff :
    (tools.compile d).result = .ok o ↔ ∃ t c, d.contents = .text t ∧
      (tools.component d.path d.relative t).result = .ok c ∧ c.render = o := by
  rw [compile]
  split
  · next t ht => simp [Run.result_andThen_eq_ok_iff, ht]
  · next hne =>
    simp only [Run.result_done, reduceCtorEq, false_iff]
    rintro ⟨t, -, ht, -⟩
    exact hne t ht

/-! ### The declarations of a component -/

/-- The step for a style depends on nothing but its language. -/
theorem styleStep_congr {l l' : Languages} (h : l.style = l'.style) :
    styleStep l settings = styleStep l' settings := by
  simp only [styleStep, h]

/-- The language that a component declares for its style. -/
theorem Toolchain.styleLang_component
    (hc : (tools.component path relative t).result = .ok c) :
    c.styleLang = if (styleStep (Languages.detect t tools.settings.detection) tools.settings).isSome
      then none else (Languages.detect t tools.settings.detection).style := by
  simp only [component, Run.result_after, Run.result_andThen_eq_ok_iff, Run.result_done,
    Except.ok.injEq] at hc
  obtain ⟨script, -, style, -, rfl⟩ := hc
  rfl

/-- A style that was compiled declares its language no longer, and one that still declares it was
not to be compiled. -/
theorem Toolchain.styleStep_component (hc : (tools.component path relative t).result = .ok c)
    {l : Languages} (hl : l.style = c.styleLang) : styleStep l tools.settings = none := by
  have hstyle := styleLang_component hc
  split at hstyle
  · rw [hstyle] at hl
    simp [styleStep, hl]
  · next hnone =>
    rw [styleStep_congr (hl.trans hstyle)]
    simpa using hnone

/-! ### Reading a component back -/

/-- A component whose blocks stand on lines of their own. -/
def Component.onLines (c : Component) : Component :=
  { c with template := Text.onLines c.template, script := Text.onLines c.script,
           style := Text.onLines c.style }

theorem tidy_of_removeBlankLines_eq_false (hblank : settings.removeBlankLines = false) (t : Text) :
    settings.tidy t = t := by
  simp [Settings.tidy, hblank]

/-- A component declares on its elements what it declared before, and nothing for its script. -/
theorem Component.IsReadable.detect_render (h : c.IsReadable)
    (hmode : settings.detection = .parsed) :
    Languages.detect c.render settings.detection =
      ⟨c.templateLang, c.styleLang, c.isScoped, false⟩ := by
  rw [hmode]
  exact Component.ofElements_render h

/-- If blank lines stay, the blocks of a component are read back with the ends of the lines around
them. -/
theorem Component.IsReadable.normalForm_render (h : c.IsReadable)
    (hmode : settings.detection = .parsed) (hblank : settings.removeBlankLines = false) :
    settings.normalForm c.render = c.onLines := by
  obtain ⟨htemplate, hscript, hstyle⟩ := Component.block_render h settings.stubScript
  simp only [Settings.normalForm, Settings.blockOf, tidy_of_removeBlankLines_eq_false hblank,
    htemplate, hscript, hstyle, h.detect_render hmode, Component.onLines]

/-- Without a preprocessor nothing is called, and a text becomes its normal form. -/
theorem Toolchain.component_of_steps_eq_none
    (hscript : scriptStep (Languages.detect t tools.settings.detection) tools.settings = none)
    (hstyle : styleStep (Languages.detect t tools.settings.detection) tools.settings = none) :
    tools.component path relative t =
      .after (.log (stepsRecord path none none)) (.done (.ok (tools.settings.normalForm t))) := by
  simp only [component, process, hscript, hstyle, Run.andThen, Run.after, Run.done,
    Settings.normalForm]
  rfl

/-- A compiled document is not compiled again.  If languages are read from the elements, blank lines
stay, and the blocks of the component end where they are closed, then compiling its text under the
same settings calls no preprocessor and succeeds: it gives the same declarations and the same
blocks, each with the ends of the lines around it. -/
theorem Toolchain.compile_output (tools : Toolchain) (d : Document) (o : Text)
    (hmode : tools.settings.detection = .parsed)
    (hblank : tools.settings.removeBlankLines = false) (ho : (tools.compile d).result = .ok o) :
    ∃ t c, d.contents = .text t ∧ (tools.component d.path d.relative t).result = .ok c ∧
      c.render = o ∧
      (IsClosable c.template → RawText.split? "script".toList c.script = none →
        RawText.split? "style".toList c.style = none →
        ∀ d' : Document, d'.contents = .text o →
          (∀ language block options, .call language block options ∉ (tools.compile d').events) ∧
            (tools.compile d').result = .ok c.onLines.render) := by
  obtain ⟨t, c, ht, hc, rfl⟩ := result_compile_eq_ok_iff.mp ho
  refine ⟨t, c, ht, hc, rfl, fun htemplate hscript hstyle d' hd' ↦ ?_⟩
  have h : c.IsReadable := ⟨htemplate.isEnclosed.onLines, RawText.split?_eq_none_iff.mp hscript,
    RawText.split?_eq_none_iff.mp hstyle⟩
  have hdetect := h.detect_render hmode
  have hcomponent : tools.component d'.path d'.relative c.render = _ :=
    component_of_steps_eq_none (by simp [hdetect, scriptStep])
      (by rw [hdetect]; exact styleStep_component hc rfl)
  rw [h.normalForm_render hmode hblank] at hcomponent
  simp [compile, hd', hcomponent, Run.andThen, Run.after, Run.done]

/-- A toolchain that compiles both scripts and styles. -/
def compilingTools : Toolchain where
  settings := { Settings.default with
    stubScript := true
    coffee := { ScriptSettings.default with compile := true }
    sass := { StyleSettings.default with compile := true } }
  script _ _ := ⟨[], .ok "f() // </scripts lang='coffee'".toList⟩
  style block _ := ⟨[], .ok (".a { } /* ".toList ++ block ++ "lang='sass' */".toList)⟩
  directory := ⟨"/".toList⟩

/-- A text whose script is in coffee and whose style is missing, but declared in a comment. -/
def coffeeText : Text :=
  ("<script lang=coffee>f</script>\n<template lang='Pug'><!-- <style lang='sass' scoped> -->" ++
    "</template>").toList

/-- A document of that text. -/
def coffeeDocument : Document :=
  ⟨⟨"a.vue".toList⟩, ⟨[]⟩, .text coffeeText⟩

/-- The component that it becomes. -/
def coffeeComponent : Component where
  template := "<!-- <style lang='sass' scoped> -->".toList
  script := "f() // </scripts lang='coffee'".toList
  style := ".a { } /* lang='sass' */".toList
  templateLang := some .pug
  styleLang := none
  isScoped := true

theorem coffeeDocument_compile_output :
    ((compilingTools.compile coffeeDocument).result = .ok coffeeComponent.render ∧
      IsClosable coffeeComponent.template ∧
      RawText.split? "script".toList coffeeComponent.script = none ∧
      RawText.split? "style".toList coffeeComponent.style = none) ∧
    ∀ d' : Document, d'.contents = .text coffeeComponent.render →
      (∀ language block options,
        .call language block options ∉ (compilingTools.compile d').events) ∧
      (compilingTools.compile d').result = .ok coffeeComponent.onLines.render := by
  have hcomponent : (compilingTools.component coffeeDocument.path coffeeDocument.relative
      coffeeText).result = .ok coffeeComponent := by decide +kernel
  have ho : (compilingTools.compile coffeeDocument).result = .ok coffeeComponent.render :=
    Toolchain.result_compile_eq_ok_iff.mpr ⟨coffeeText, coffeeComponent, rfl, hcomponent, rfl⟩
  have htemplate : IsClosable coffeeComponent.template := by decide +kernel
  have hscript : RawText.split? "script".toList coffeeComponent.script = none := by decide +kernel
  have hstyle : RawText.split? "style".toList coffeeComponent.style = none := by decide +kernel
  obtain ⟨t, c, ht, hc, -, hagain⟩ := compilingTools.compile_output coffeeDocument _ rfl rfl ho
  obtain rfl : coffeeText = t := Contents.text.inj ht
  obtain rfl : coffeeComponent = c := Except.ok.inj (hcomponent.symm.trans hc)
  exact ⟨⟨ho, htemplate, hscript, hstyle⟩, hagain htemplate hscript hstyle⟩

end ComponentFile
