import ComponentFile.Proofs.Document.Calls
import ComponentFile.Proofs.Text.Indentation

/-!
# Styles at the left margin

The style compiler reads the indentation of lines, so a style is moved to the left margin before it
is compiled, and after replacements were made in it.  Nothing that a hook or a replacement puts in
front of a line reaches the compiler as an indentation of the whole.

## Main results

* `Toolchain.leadingSpaces_of_mem_calls_compile` : every style that is compiled for a document
  stands at the left margin.
* `Toolchain.dedent_exact` : what moving a text to the left margin does, and what the style compiler
  gets.
-/

namespace ComponentFile.Toolchain

open Text

variable {tools : Toolchain} {d : Document} {t : Text} {c : Call}

/-- A style is compiled by one call, with a source at the left margin. -/
theorem exists_process_sass_eq (tools : Toolchain) (path relative : Path) (block : Text) :
    ∃ c : Call, c.language = .sass ∧ leadingSpaces c.block = 0 ∧
      tools.process path relative (some .sass) block = tools.runCall path c := by
  refine ⟨⟨.sass, dedent (tools.settings.sass.applyReplacements block),
    styleOptions tools.directory path tools.settings.sass.options⟩, rfl, ?_, rfl⟩
  exact leadingSpaces_dedent _

/-- Every style that is compiled for a document stands at the left margin. -/
theorem leadingSpaces_of_mem_calls_compile (ht : d.contents = .text t)
    (hc : c ∈ (tools.compile d).calls) (hsass : c.language = .sass) :
    leadingSpaces c.block = 0 := by
  rw [calls_compile ht, List.mem_append] at hc
  rcases hc with hc | hc
  · obtain ⟨-, rfl⟩ := BlockStep.mem_calls_iff.mp hc
    cases hsass
  · split at hc
    · obtain ⟨-, rfl⟩ := BlockStep.mem_calls_iff.mp hc
      exact leadingSpaces_dedent _
    · cases hc

/-- Moving a text to the left margin cuts as many characters off each line as there are spaces in
front of the first line that is not blank; shorter lines become empty.  That line then has no spaces
in front, so that moving the text once more changes nothing, and this is what the style compiler
gets, whatever the block, the hook and the replacements are.  If every line that is not blank begins
with these spaces, putting them back gives these lines back, each in its place. -/
theorem dedent_exact (tools : Toolchain) (path relative : Path) (block t : Text) :
    lines (dedent t) = (lines t).map (List.drop (leadingSpaces t)) ∧
      leadingSpaces (dedent t) = 0 ∧ dedent (dedent t) = dedent t ∧
      (∃ c : Call, c.language = .sass ∧ leadingSpaces c.block = 0 ∧
        tools.process path relative (some .sass) block = tools.runCall path c ∧
        (tools.process path relative (some .sass) block).calls = [c]) ∧
      (IsIndented (leadingSpaces t) t →
        (lines (indent (leadingSpaces t) (dedent t))).map filled? = (lines t).map filled?) := by
  obtain ⟨c, hlanguage, hmargin, hprocess⟩ := tools.exists_process_sass_eq path relative block
  have hcalls : (tools.process path relative (some .sass) block).calls = [c] := by
    rw [hprocess, calls_runCall]
  exact ⟨lines_dedent t, leadingSpaces_dedent t, dedent_dedent t,
    ⟨c, hlanguage, hmargin, hprocess, hcalls⟩, IsIndented.map_filled?_indent_dropColumns⟩

theorem indentedText_dedent_exact :
    IsIndented (leadingSpaces indentedText) indentedText ∧
      (lines (indent (leadingSpaces indentedText) (dedent indentedText))).map filled? =
        [none, none, some "  .é".toList, none, some "    b: c".toList, none, some "  d".toList,
          none] := by
  have h : IsIndented (leadingSpaces indentedText) indentedText := by decide +kernel
  obtain ⟨-, -, -, -, hrestore⟩ :=
    compilingTools.dedent_exact ⟨"/p/App.vue".toList⟩ ⟨"App.vue".toList⟩ indentedText indentedText
  rw [hrestore h]
  exact ⟨h, by decide +kernel⟩

end ComponentFile.Toolchain
