import ComponentFile.Language

/-!
# Normal form of a component

A component in normal form has one template, one script and one style, in this order.

## Main definitions

* `Component` : the three blocks and what is declared about them.
* `Component.render` : the text of a component in normal form.
-/

namespace ComponentFile

/-- The blocks of a component and the declarations on its tags.  A script never declares a
language. -/
structure Component where
  template : Text
  script : Text
  style : Text
  templateLang : Option TemplateLang
  styleLang : Option StyleLang
  isScoped : Bool
  deriving DecidableEq, Repr

/-- The attribute that declares a language. -/
def langAttribute (lang : Text) : Text :=
  " lang=\"".toList ++ lang ++ ['"']

/-- A block between its tags, each on lines of its own. -/
def renderBlock (name attributes block : Text) : Text :=
  '<' :: name ++ attributes ++ ['>', '\n'] ++ block ++ ['\n', '<', '/'] ++ name ++ ['>', '\n']

namespace Component

/-- The attributes of the template tag. -/
def templateAttributes (c : Component) : Text :=
  c.templateLang.elim [] fun lang => langAttribute lang.name

/-- The attributes of the style tag. -/
def styleAttributes (c : Component) : Text :=
  (c.styleLang.elim [] fun lang => langAttribute lang.name) ++
    if c.isScoped then " scoped".toList else []

/-- The text of a component: its three blocks, with an empty line between them. -/
def render (c : Component) : Text :=
  renderBlock "template".toList c.templateAttributes c.template ++ '\n' ::
    renderBlock "script".toList [] c.script ++ '\n' ::
    renderBlock "style".toList c.styleAttributes c.style

end Component

end ComponentFile
