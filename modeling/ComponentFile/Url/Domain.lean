import ComponentFile.Text.Utf8
import ComponentFile.Unicode.Labels
import ComponentFile.Unicode.Mapping
import ComponentFile.Url.Punycode

/-!
# Domain names

A domain name is a sequence of labels with dots between them.  Its characters are replaced by what
they stand for and brought into composed form; labels that are written in ASCII with the sign
`xn--` are decoded.  What comes out has to have the form of a domain name.

## Main definitions

* `Url.Domain.characters?` : the characters that a text stands for in a domain name.
* `Url.Domain.label?` : the label that is meant by a written one.
* `Url.Domain.name?` : the domain name that is meant by a written one.
-/

namespace ComponentFile.Url.Domain

open Unicode

/-- The characters that a text stands for in a domain name, in composed form. -/
def characters? (codes : List Nat) : Option (List Nat) :=
  let meant (n : Nat) : Option (List Nat) :=
    match mapping n with
    | .itself => some [n]
    | .sequence codes => some codes
    | .disallowed => none
  (codes.mapM meant).map fun parts => composed parts.flatten

/-- The sign of a label that is written in ASCII. -/
def asciiSign : List Nat := "xn--".toList.map Char.toNat

/-- Whether a code point belongs to ASCII. -/
def isAscii (n : Nat) : Bool :=
  n < 0x80

/-- The number of characters that may stand behind the sign of a label. -/
def maxEncoded : Nat := 2000

/-- The number of characters that a label may have that has to be written with the sign. -/
def maxDecoded : Nat := 1000

/-- The label that is meant by a written one.  A label that needs no sign must not have it, and
what stands behind the sign has to be written as it is meant. -/
def label? (written : List Nat) : Option (List Nat) :=
  if asciiSign.isPrefixOf written then
    if written.length > asciiSign.length + maxEncoded then none
    else match Punycode.decode? ((written.drop asciiSign.length).map Char.ofNat) with
    | some label =>
      if !label.all isAscii && characters? label == some label then some label else none
    | none => none
  else if written.length > maxDecoded && !written.all isAscii then none
  else some written

/-- Whether a label has the form of a label, whatever the other labels are. -/
def isLabel (label : List Nat) : Bool :=
  !(label.head?.any isMark) && joinersFit label

/-- The domain name that is meant by a written one. -/
def name? (written : Text) : Option Text := do
  let codes ← characters? (written.map Char.toNat)
  let labels ← (codes.splitOn '.'.toNat).mapM label?
  if labels.all isLabel && (!labels.any isRightToLeft || labels.all hasOneDirection) then
    return (['.'.toNat].intercalate labels).map Char.ofNat
  else none

end ComponentFile.Url.Domain
