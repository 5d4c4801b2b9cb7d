import ComponentFile.Markup.Token
import ComponentFile.Text.Utf8

/-!
# Top-level elements

Only the elements at the top level of a component file matter; what they contain is their own
affair.  One pass over the tokens finds them: outside an element a start tag begins one, and inside
it the start and end tags of inner elements are counted by name until its own end tag comes.
Inner elements may be closed out of order, and end tags that close nothing are passed over.

## Main definitions

* `Markup.Span` : a range of byte offsets.
* `Markup.Element` : name, attributes and places of the tags of an element.
* `Markup.elementsFrom` : the elements found in a list of tokens.
* `Markup.elements` : the top-level elements of a text.
* `Markup.find?` : the first element with a name and one of several languages.
-/

namespace ComponentFile.Markup

open Text

/-- The bytes from offset `start` up to offset `stop`. -/
structure Span where
  start : Nat
  stop : Nat
  deriving DecidableEq, Repr

/-- A top-level element.  An element that is never closed has no end tag, and the end tag of an
element that is closed by its own start tag is the empty span behind that. -/
structure Element where
  name : Text
  attributes : Dict Text
  startTag : Span
  endTag : Option Span
  deriving DecidableEq

namespace Element

/-- The offset at which the content begins. -/
def contentStart (e : Element) : Nat :=
  e.startTag.stop

/-- The value of an attribute. -/
def attribute? (e : Element) (name : Text) : Option Text :=
  e.attributes.get? name

/-- Whether the element has an attribute. -/
def hasAttribute (e : Element) (name : Text) : Bool :=
  e.attributes.contains name

end Element

/-- The element of a start tag that is written at byte offset `offset`, without an end tag. -/
def StartTag.element (tag : StartTag) (offset : Nat) : Element :=
  ⟨tag.lowerName, tag.dict, ⟨offset, offset + byteLength tag.spelling⟩, none⟩

/-- A top-level element that is still open, and the names of the elements open inside it, the
innermost first. -/
structure OpenElement where
  element : Element
  inner : List Text
  deriving DecidableEq

/-- What an end tag does to an open element: it closes inner elements or the element itself, or
it closes nothing. -/
inductive Closing where
  | inside (remaining : OpenElement)
  | whole (element : Element)

/-- The effect of an end tag with the given name and place.  It closes the innermost element of
its name and everything inside that. -/
def OpenElement.close (o : OpenElement) (name : Text) (place : Span) : Closing :=
  match o.inner.dropWhile (· != name) with
  | _ :: outer => .inside { o with inner := outer }
  | [] =>
    if o.element.name = name then .whole { o.element with endTag := some place }
    else .inside o

/-- The top-level elements found in a list of tokens that begins at byte offset `offset`, while
the element `current?` is open. -/
def elementsFrom (offset : Nat) (current? : Option OpenElement) : List Token → List Element
  | [] => (current?.map OpenElement.element).toList
  | token :: tokens =>
    let stop := offset + byteLength token.spelling
    match current?, token with
    | none, .startTag tag =>
      if tag.isWhole then
        { tag.element offset with endTag := some ⟨stop, stop⟩ } :: elementsFrom stop none tokens
      else elementsFrom stop (some ⟨tag.element offset, []⟩) tokens
    | none, .rawElement tag content endTag =>
      let contentStop := offset + byteLength (tag.spelling ++ content)
      { tag.element offset with endTag := endTag.map fun _ => ⟨contentStop, stop⟩ } ::
        elementsFrom stop none tokens
    | some current, .startTag tag =>
      if tag.isWhole then elementsFrom stop (some current) tokens
      else elementsFrom stop (some { current with inner := tag.lowerName :: current.inner }) tokens
    | some current, .endTag name _ =>
      match current.close (lower name) ⟨offset, stop⟩ with
      | .inside remaining => elementsFrom stop (some remaining) tokens
      | .whole element => element :: elementsFrom stop none tokens
    | current?, _ => elementsFrom stop current? tokens

/-- The top-level elements of a text, in order. -/
def elements (t : Text) : List Element :=
  elementsFrom 0 none (Token.ofText t)

/-- Whether an element has the name `tag` and, unless `langs` is empty, a `lang` attribute that is
one of `langs`. -/
def Element.answers (e : Element) (tag : Text) (langs : List Text) : Bool :=
  e.name == tag &&
    (langs.isEmpty || (e.attribute? "lang".toList).any fun lang => langs.contains lang)

/-- The first element that answers to a name and languages. -/
def find? (es : List Element) (tag : Text) (langs : List Text) : Option Element :=
  es.find? fun e => e.answers tag langs

end ComponentFile.Markup
