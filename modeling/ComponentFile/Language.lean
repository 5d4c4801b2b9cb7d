import ComponentFile.Markup.Element

/-!
# Declared languages

The template, the script and the style of a component may be written in another language than the
plain one, and a file says so with `lang` attributes.  They are read from the elements, or by a
scan of the whole text, which also stands in for an element that is missing.

## Main definitions

* `Languages` : what a file declares.
* `Languages.scan` : declarations found by a scan of the whole text.
* `Languages.detect` : declarations read from the elements, or from the scan.
* `scansScoped` : the pattern by which the scan finds a scoped style.
-/

namespace ComponentFile

open Text Markup

/-- A template language other than the plain one. -/
inductive TemplateLang where
  | pug
  deriving DecidableEq, Repr

/-- The name of a template language. -/
def TemplateLang.name : TemplateLang → Text
  | pug => "pug".toList

/-- A style language other than the plain one. -/
inductive StyleLang where
  | sass
  | scss
  deriving DecidableEq, Repr

/-- The name of a style language. -/
def StyleLang.name : StyleLang → Text
  | sass => "sass".toList
  | scss => "scss".toList

/-- Where declarations are read: on each element, with the scan for elements that are missing, or
by the scan alone. -/
inductive DetectionMode where
  | parsed
  | document
  deriving DecidableEq, Repr

/-- What a component file declares about its blocks. -/
structure Languages where
  template : Option TemplateLang
  style : Option StyleLang
  isScoped : Bool
  coffee : Bool
  deriving DecidableEq, Repr

/-! ### The scan -/

/-- Whether `lang=` and a quotation mark, followed by text that begins with `lang`, occur
anywhere. -/
def declares (t lang : Text) : Bool :=
  contains ("lang=\"".toList ++ lang) t || contains ("lang='".toList ++ lang) t

/-- The text behind the first occurrence of `key`. -/
def after? (key t : Text) : Option Text :=
  (cut? key t).map Prod.snd

/-- Whether a line holds `<`, later `style`, later `scoped` with at least one character between the
two, and later `>`.  Each part is looked for at its first possible place, which leaves the most
room to the parts behind it. -/
def lineScoped (line : Text) : Bool :=
  (do
    let t ← after? ['<'] line
    let t ← after? "style".toList t
    let t ← after? "scoped".toList (t.drop 1)
    after? ['>'] t).isSome

/-- Whether some line of the text declares a scoped style. -/
def scansScoped (t : Text) : Bool :=
  (lines t).any lineScoped

namespace Languages

/-- The declarations that a scan of the whole text finds. -/
def scan (t : Text) : Languages where
  template := if declares t "pug".toList then some .pug else none
  style :=
    if declares t "sass".toList then some .sass
    else if declares t "scss".toList then some .scss
    else none
  isScoped := scansScoped t
  coffee := declares t "coffee".toList

/-! ### The elements -/

/-- The value of the `lang` attribute in lower case. -/
def langOf (e : Element) : Option Text :=
  (e.attribute? "lang".toList).map lower

/-- The template language that an element declares. -/
def templateOf (e : Element) : Option TemplateLang :=
  if langOf e = some TemplateLang.pug.name then some .pug else none

/-- The style language that an element declares. -/
def styleOf (e : Element) : Option StyleLang :=
  if langOf e = some StyleLang.sass.name then some .sass
  else if langOf e = some StyleLang.scss.name then some .scss
  else none

/-- Whether an element declares a coffee script. -/
def coffeeOf (e : Element) : Bool :=
  langOf e == some "coffee".toList

/-- The declarations of the first template, style and script element of the text; what belongs to
an element that is missing is found by the scan. -/
def ofElements (t : Text) : Languages :=
  let es := elements t
  let found := scan t
  let style? := find? es "style".toList []
  { template := (find? es "template".toList []).elim found.template templateOf
    style := style?.elim found.style styleOf
    isScoped := style?.elim found.isScoped fun e => e.hasAttribute "scoped".toList
    coffee := (find? es "script".toList []).elim found.coffee coffeeOf }

/-- The declarations of a text. -/
def detect (t : Text) : DetectionMode → Languages
  | .parsed => ofElements t
  | .document => scan t

end Languages

end ComponentFile
