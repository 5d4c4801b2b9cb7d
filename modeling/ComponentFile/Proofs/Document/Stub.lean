import ComponentFile.Proofs.Document.Calls

/-!
# The stub of a missing script

If the settings ask for it, a stub takes the place of a script that is missing.  Nothing on the stub
says which language it is in, so the declarations of such a document are those of the scan.  Where
the scan finds no coffee, or scripts are not compiled, the stub stands between the script tags of
the output.  Where it finds coffee anywhere in the text, say in an attribute within the template,
the stub itself is compiled as coffee, and the output holds what comes of that.

## Main results

* `Settings.blockOf_script` : without a script the script block is the stub.
* `Languages.coffee_detect` : without a script the scan decides whether it is coffee.
* `Toolchain.script_stub_reaches_output` : when the stub stands in the output, and when it is
  compiled.
-/

namespace ComponentFile

open Text Markup

variable {tools : Toolchain} {settings : Settings} {d : Document} {t o : Text} {c : Component}

/-- The script stands between its tags in the text of a component. -/
theorem Component.exists_render_eq (c : Component) : ∃ front back,
    c.render = front ++ "<script>\n".toList ++ c.script ++ "\n</script>\n".toList ++ back := by
  refine ⟨renderBlock "template".toList c.templateAttributes c.template ++ ['\n'],
    '\n' :: renderBlock "style".toList c.styleAttributes c.style, ?_⟩
  simp [render, renderBlock]

/-! ### Documents without a script -/

/-- A stub loses no line to the removal of blank lines, but the end of its last one. -/
theorem tidy_scriptStub : settings.tidy scriptStub ++ ['\n'] =
    scriptStub ++ if settings.removeBlankLines then [] else ['\n'] := by
  cases h : settings.removeBlankLines
  · simp [Settings.tidy, h]
  · simp only [Settings.tidy, h, reduceIte]
    decide

theorem Settings.blockOf_script (hstub : settings.stubScript = true)
    (hnone : find? (elements t) "script".toList [] = none) :
    settings.blockOf t "script" = settings.tidy scriptStub := by
  rw [blockOf, block, hnone, hstub]
  rfl

theorem Languages.coffee_detect (hnone : find? (elements t) "script".toList [] = none)
    (mode : DetectionMode) : (detect t mode).coffee = (scan t).coffee := by
  cases mode with
  | parsed => simp only [detect, ofElements, hnone, Option.elim_none]
  | document => rfl

namespace Toolchain

theorem isCompiled_scriptBlock (d : Document)
    (hnone : find? (elements t) "script".toList [] = none) :
    (tools.scriptBlock d t).isCompiled =
      (tools.settings.coffee.compile && (Languages.scan t).coffee) := by
  rw [scriptBlock, Languages.coffee_detect hnone]

/-- What becomes of the stub in a document without a script.  It reaches the output, and no script
is compiled, unless scripts are to be compiled and the scan finds coffee in the text.  Then the stub
is compiled, before anything else, and its place in the output is taken by what comes of that. -/
theorem script_stub_reaches_output (tools : Toolchain) (d : Document) (t : Text)
    (ht : d.contents = .text t) (hnone : find? (elements t) "script".toList [] = none)
    (hstub : tools.settings.stubScript = true) :
    ((tools.settings.coffee.compile && (Languages.scan t).coffee) = false →
      (∀ c ∈ (tools.compile d).calls, c.language ≠ .coffee) ∧
      ∀ o, (tools.compile d).result = .ok o → ∃ front back,
        o = front ++ "<script>\n".toList ++ scriptStub ++
          (if tools.settings.removeBlankLines then [] else ['\n']) ++ "</script>\n".toList ++
            back) ∧
    ((tools.settings.coffee.compile && (Languages.scan t).coffee) = true →
      ∃ c, (tools.compile d).calls.head? = some c ∧ c.language = .coffee ∧
        c.block = tools.settings.tidy scriptStub ∧
        ∀ o, (tools.compile d).result = .ok o → ∃ script front back, tools.answer c = .ok script ∧
          o = front ++ "<script>\n".toList ++ script ++ "\n</script>\n".toList ++ back) := by
  have hblock : (tools.scriptBlock d t).block = tools.settings.tidy scriptStub :=
    Settings.blockOf_script hstub hnone
  have hcalls := tools.calls_compile ht
  -- Whatever becomes of the stub stands between the script tags.
  have hscript (o : Text) (ho : (tools.compile d).result = .ok o) : ∃ script front back,
      (tools.scriptBlock d t).outcome tools = .ok script ∧
        o = front ++ "<script>\n".toList ++ script ++ "\n</script>\n".toList ++ back := by
    obtain ⟨script, style, houtcome, -, rfl⟩ := (result_compile_of_text ht).mp ho
    obtain ⟨front, back, hrender⟩ := (tools.componentWith d t script style).exists_render_eq
    exact ⟨script, front, back, houtcome, hrender⟩
  rw [← isCompiled_scriptBlock d hnone]
  constructor
  · intro hplain
    have houtcome : (tools.scriptBlock d t).outcome tools =
        .ok (tools.settings.tidy scriptStub) := by
      rw [BlockStep.outcome, hplain, hblock]
      rfl
    constructor
    · intro c hc
      rw [hcalls, houtcome, List.mem_append] at hc
      rcases hc with hc | hc
      · simp [BlockStep.mem_calls_iff, hplain] at hc
      · obtain ⟨-, rfl⟩ := BlockStep.mem_calls_iff.mp hc
        simp [styleBlock]
    · intro o ho
      obtain ⟨script, front, back, hstub, rfl⟩ := hscript o ho
      obtain rfl : tools.settings.tidy scriptStub = script :=
        Except.ok.inj (houtcome.symm.trans hstub)
      exact ⟨front, back, by simp [← tidy_scriptStub]⟩
  · intro hcoffee
    simp only [BlockStep.calls, BlockStep.outcome, hcoffee, reduceIte] at hcalls hscript
    exact ⟨(tools.scriptBlock d t).call, by rw [hcalls]; rfl, rfl, hblock, hscript⟩

end Toolchain

/-- A text without a script, in which the template holds an element that declares coffee. -/
def coffeeMenuText : Text :=
  "<template><p lang=\"coffee\"></p></template>".toList

/-- A document of that text. -/
def coffeeMenu : Document :=
  ⟨⟨"/p/App.vue".toList⟩, ⟨"/p".toList⟩, .text coffeeMenuText⟩

/-- Programs of which the one for scripts gives the same for every script. -/
def constantTools : Toolchain where
  settings := { Settings.default with
    stubScript := true
    coffee := { ScriptSettings.default with compile := true } }
  script _ _ := ⟨[], .ok "compiled".toList⟩
  style _ _ := ⟨[], .error (.notFound "sass".toList)⟩
  directory := ⟨"/".toList⟩

theorem coffeeMenu_script_stub_reaches_output :
    (coffeeMenu.contents = .text coffeeMenuText ∧
      find? (elements coffeeMenuText) "script".toList [] = none ∧
      constantTools.settings.stubScript = true ∧
      (constantTools.settings.coffee.compile && (Languages.scan coffeeMenuText).coffee) = true) ∧
    ∃ c, (constantTools.compile coffeeMenu).calls.head? = some c ∧ c.language = .coffee ∧
      c.block = scriptStub := by
  have hnone : find? (elements coffeeMenuText) "script".toList [] = none := by decide +kernel
  have hcoffee : (constantTools.settings.coffee.compile &&
      (Languages.scan coffeeMenuText).coffee) = true := by decide +kernel
  obtain ⟨c, hc, hlanguage, hblock, -⟩ :=
    (constantTools.script_stub_reaches_output coffeeMenu coffeeMenuText rfl hnone rfl).2 hcoffee
  exact ⟨⟨rfl, hnone, rfl, hcoffee⟩, c, hc, hlanguage, hblock⟩

/-- The stub of a missing script may be compiled as coffee, and then the output is without it. -/
theorem not_script_stub_reaches_output :
    ¬∀ (tools : Toolchain) (d : Document) (t : Text), d.contents = .text t →
      find? (elements t) "script".toList [] = none → tools.settings.stubScript = true →
        (∀ o, (tools.compile d).result = .ok o → contains scriptStub o) ∧
          ∀ c ∈ (tools.compile d).calls, c.language = .coffee → ¬contains scriptStub c.block := by
  intro h
  have hresult : (constantTools.compile coffeeMenu).result = .ok ("<template>\n".toList ++
      "<p lang=\"coffee\"></p>\n</template>\n\n<script>\ncompiled\n</script>\n\n".toList ++
      "<style>\n\n</style>\n".toList) := by decide +kernel
  obtain ⟨hstub, -⟩ := h constantTools coffeeMenu coffeeMenuText rfl (by decide +kernel) rfl
  exact absurd (hstub _ hresult) (by decide +kernel)

end ComponentFile
