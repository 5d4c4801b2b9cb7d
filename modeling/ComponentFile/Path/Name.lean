import ComponentFile.Path.Basic

/-!
# File names

The last name of a path, its extension, and the name of the file that a compiler generates.

## Main definitions

* `Path.fileName?`, `Path.extension?` : the last name and what follows its last dot.
* `Path.withExtension` : the path with another extension.
* `Path.isLiterate` : whether a path names a literate script.
* `Path.generated` : the script that is generated from a component.
-/

namespace ComponentFile.Path

/-- The last part of a path, when it is a name. -/
def fileName? (p : Path) : Option Text :=
  match p.parts.getLast? with
  | some (.name t) => some t
  | _ => none

/-- A name cut at its last dot; a dot at the front does not count. -/
def splitName (name : Text) : Text × Option Text :=
  let last := (name.reverse.takeWhile (· != '.')).reverse
  let stem := name.take (name.length - last.length - 1)
  if stem.isEmpty then (name, none) else (stem, some last)

/-- The extension of the last name. -/
def extension? (p : Path) : Option Text :=
  p.fileName?.bind fun name => (splitName name).2

/-- The path with the extension `ext` in the place of the one it has, without what follows the
last name.  A path whose last part is no name stays as it is.  When the stem is a single dot and
nothing follows the name, taking the old extension away leaves `..`, which is no name any more. -/
def withExtension (p : Path) (ext : Text) : Path :=
  match p.fileName? with
  | none => p
  | some name =>
    let whole := p.trimmed.text
    let outer := whole.take (whole.length - name.length)
    match splitName name with
    | (stem, old?) =>
      if stem = ['.'] && old?.isSome && whole = p.text then ⟨outer ++ ['.', '.']⟩
      else ⟨outer ++ stem ++ '.' :: ext⟩

/-- The ending of literate scripts in Markdown. -/
def literateMarkdown : Text := ".coffee.md".toList

/-- The ending of other literate scripts. -/
def literateCoffee : Text := ".litcoffee".toList

/-- Whether a path names a literate script. -/
def isLiterate (p : Path) : Bool :=
  literateCoffee.isSuffixOf p.text || literateMarkdown.isSuffixOf p.text

/-- The script generated from the file with this path.  The ending of a literate script in
Markdown counts as one extension. -/
def generated (p : Path) : Path :=
  let plain :=
    if literateMarkdown.isSuffixOf p.text then
      ⟨p.text.take (p.text.length - literateMarkdown.length) ++ literateCoffee⟩
    else p
  withExtension plain "js".toList

end ComponentFile.Path
