import ComponentFile.Json.Value
import ComponentFile.Language
import ComponentFile.Text.Replace

/-!
# Settings

What may be chosen about the normal form of a component: whether blank lines stay, whether a
missing script gets a stub, where languages are read, and which compilers run with which options.

## Main definitions

* `Options` : the options of a compiler.
* `ScriptSettings`, `StyleSettings`, `Settings` : the settings.
* `StyleSettings.applyReplacements` : the text that a style block becomes before it is compiled.
-/

namespace ComponentFile

/-- The options of a compiler. -/
abbrev Options := Dict Json

/-- The settings of the compiler for coffee scripts. -/
structure ScriptSettings where
  compile : Bool
  command : List Text
  options : Options

/-- The settings of the compiler for sass styles.  The hook is applied to a style block before the
replacements are; it cannot be given in a settings file. -/
structure StyleSettings where
  compile : Bool
  command : List Text
  options : Options
  replacements : Dict Text
  hook : Option (Text → Text)

/-- All settings. -/
structure Settings where
  removeBlankLines : Bool
  stubScript : Bool
  detection : DetectionMode
  coffee : ScriptSettings
  sass : StyleSettings

/-- Scripts are not compiled unless that is asked for, and the compiler is `coffee`. -/
def ScriptSettings.default : ScriptSettings :=
  ⟨false, ["coffee".toList], ∅⟩

/-- Styles are not compiled unless that is asked for, the compiler is `sass`, and nothing is
replaced. -/
def StyleSettings.default : StyleSettings :=
  ⟨false, ["sass".toList], ∅, ∅, none⟩

/-- By default blank lines stay, there is no stub, and languages are read from the elements. -/
def Settings.default : Settings :=
  ⟨false, false, .parsed, .default, .default⟩

namespace StyleSettings

/-- One replacement; an empty key replaces nothing. -/
def replaceOne (t : Text) (replacement : Text × Text) : Text :=
  if replacement.1.isEmpty then t else Text.replaceAll replacement.1 replacement.2 t

/-- The text after the hook and then the replacements in their order, each of which works on the
result of the one before. -/
def applyReplacements (s : StyleSettings) (t : Text) : Text :=
  s.replacements.entries.foldl replaceOne (s.hook.elim t fun hook => hook t)

end StyleSettings

end ComponentFile
