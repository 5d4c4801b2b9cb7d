import ComponentFile.Component
import ComponentFile.Markup.Block
import ComponentFile.Preprocessor

/-!
# Documents

A document is a component file with the path that it is known by.  Compiling it finds its blocks
and what is declared about them, strips blank lines, compiles script and style where the settings
ask for that, and writes the result in normal form.

## Main definitions

* `Document` : path, base and contents.
* `Toolchain.component` : the component that a text becomes.
* `Toolchain.compile` : the normal form of a document.
* `Toolchain.transform` : the document in normal form.
-/

namespace ComponentFile

open Markup

/-- What a document holds: nothing, a text, or bytes that are no text. -/
inductive Contents where
  | absent
  | text (t : Text)
  | binary (bytes : Bytes)
  deriving DecidableEq, Repr

/-- Bytes as contents: a text when they are UTF-8. -/
def Contents.ofBytes (bytes : Bytes) : Contents :=
  match Text.decode bytes with
  | .ok t => text t
  | .error _ => binary bytes

/-- A component file with its path, and the directory that its output path is seen from. -/
structure Document where
  path : Path
  base : Path
  contents : Contents
  deriving DecidableEq, Repr

/-- The path of a document below its base. -/
def Document.relative (d : Document) : Path :=
  d.path.relativeTo d.base

/-- A block, without its blank lines if the settings ask for that. -/
def Settings.tidy (settings : Settings) (block : Text) : Text :=
  if settings.removeBlankLines then Text.stripBlankLines block else block

/-- The first block of a kind in a text, tidied.  A missing script may be replaced by a stub. -/
def Settings.blockOf (settings : Settings) (t : Text) (tag : String) : Text :=
  settings.tidy (block t tag.toList [] settings.stubScript)

/-- The record of what is done with the blocks of a document. -/
def stepsRecord (path : Path) (script style : Option Preprocessor) : Log.Record :=
  ⟨.debug, path.text ++ ": script -> ".toList ++ stepName script ++ ", style -> ".toList ++
    stepName style⟩

namespace Toolchain

/-- The component that the text of a document becomes.  A style that was compiled declares its
language no longer. -/
def component (tools : Toolchain) (path relative : Path) (t : Text) : Run Component :=
  let settings := tools.settings
  let languages := Languages.detect t settings.detection
  let onScript := scriptStep languages settings
  let onStyle := styleStep languages settings
  .after (.log (stepsRecord path onScript onStyle)) <|
    (tools.process path relative onScript (settings.blockOf t "script")).andThen fun script =>
    (tools.process path relative onStyle (settings.blockOf t "style")).andThen fun style =>
    .done (.ok
      { template := settings.blockOf t "template"
        script := script
        style := style
        templateLang := languages.template
        styleLang := if onStyle.isSome then none else languages.style
        isScoped := languages.isScoped })

/-- The normal form of a document, which has to be a text. -/
def compile (tools : Toolchain) (d : Document) : Run Text :=
  match d.contents with
  | .text t =>
    (tools.component d.path d.relative t).andThen fun c => .done (.ok c.render)
  | _ => .done (.error (.unsupported d.path))

/-- The document in normal form.  A document without contents stays as it is. -/
def transform (tools : Toolchain) (d : Document) : Run Document :=
  match d.contents with
  | .absent => .done (.ok d)
  | _ => (tools.compile d).andThen fun t => .done (.ok { d with contents := .text t })

end Toolchain

end ComponentFile
