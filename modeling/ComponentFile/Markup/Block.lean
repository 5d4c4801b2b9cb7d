import ComponentFile.Markup.Element

/-!
# Blocks

A block is the text between the tags of a top-level element, cut out of the file verbatim.

## Main definitions

* `Markup.extract` : the content of an element.
* `Markup.block` : the content of the first element that answers to a name and languages, with a
  stub in the place of a missing script.
-/

namespace ComponentFile.Markup

open Text

/-- The content of an element of the text; an element that is never closed goes on to the end.
Without an element, and where the offsets do not fit the text, the content is empty. -/
def extract (t : Text) (e? : Option Element) : Text :=
  match e? with
  | none => []
  | some e =>
    let stop := match e.endTag with
      | some span => span.start
      | none => byteLength t
    (slice? t e.contentStart stop).getD []

/-- The module that stands for a missing script, so that type checkers still see one. -/
def scriptStub : Text :=
  "// tslint:disable\nimport Vue from 'vue'\nexport default Vue\n".toList

/-- The content of the first element of the text that answers to `tag` and `langs`.  With
`stubScript` an empty script is replaced by a stub. -/
def block (t : Text) (tag : Text) (langs : List Text) (stubScript : Bool) : Text :=
  let content := extract t (find? (elements t) tag langs)
  if content.isEmpty && tag == "script".toList && stubScript then scriptStub else content

end ComponentFile.Markup
