import ComponentFile.Markup.Element
import ComponentFile.Proofs.Text.Bytes

/-!
# Scanning a text in place

The elements of a text can be found without taking the text apart: one offset moves over the bytes,
single bytes decide what to do, and parts of the text are cut out between offsets that were reached.
Such a scan may go wrong in ways that a reader of characters cannot.  It may look at a byte behind
the end, cut a part out whose ends are out of order or inside a character, or go round and round in
one place.  In the scan of this file each of these is a fault, and nothing else is: every access is
checked, and each round of a loop has to go forward.

## Main definitions

* `Scanner.Fault`, `Scanner.Checked` : what may go wrong, and what may have gone wrong.
* `Scanner.byteAt`, `Scanner.bytesBetween`, `Scanner.cut` : access to the bytes and to the text.
* `Scanner.repeatRounds` : a loop over the offsets of a text.
* `Scanner.attributeRound`, `Scanner.scanStartTag` : the scan of a start tag.
* `Scanner.endTagRound`, `Scanner.findEndTag` : the search for the end of raw text.
* `Scanner.elementRound`, `Scanner.scan` : the scan of a text for its top-level elements.
-/

namespace ComponentFile.Markup.Scanner

open Text

universe u v

/-! ### Faults -/

/-- What may go wrong in a scan. -/
inductive Fault where
  | noByte (offset : Nat)
  | noBytes (start stop : Nat)
  | noPart (start stop : Nat)
  | noElement (index : Nat)
  | notOpen (depth : Nat)
  | stalled (offset : Nat)
  deriving DecidableEq, Repr

/-- A result, or the fault that prevented it. -/
abbrev Checked (α : Type u) : Type u :=
  Except Fault α

/-- The byte at an offset. -/
def byteAt (t : Text) (offset : Nat) : Checked UInt8 :=
  match (encode t)[offset]? with
  | some b => return b
  | none => throw (.noByte offset)

/-- The byte at an offset that may be the end of the text. -/
def byteAt? (t : Text) (offset : Nat) : Option UInt8 :=
  (encode t)[offset]?

/-- The bytes between two offsets. -/
def bytesBetween (t : Text) (start stop : Nat) : Checked Bytes :=
  if start ≤ stop ∧ stop ≤ byteLength t then return ((encode t).take stop).drop start
  else throw (.noBytes start stop)

/-- The text between two offsets. -/
def cut (t : Text) (start stop : Nat) : Checked Text :=
  match slice? t start stop with
  | some part => return part
  | none => throw (.noPart start stop)

/-- The text from an offset to the end. -/
def cutFrom (t : Text) (start : Nat) : Checked Text :=
  cut t start (byteLength t)

/-! ### Loops -/

/-- The outcome of a round of a loop: the loop is done, or it goes on at the offset `next` because
of what was found at `start`. -/
inductive Round (σ : Type u) (α : Type v) where
  | done (result : α)
  | proceed (start next : Nat) (state : σ)

/-- Make rounds until one is done.  A loop that does not go forward stalls. -/
def repeatRounds {σ : Type u} {α : Type v} (t : Text) (round : Nat → σ → Checked (Round σ α))
    (offset : Nat) (state : σ) : Checked α :=
  match round offset state with
  | .error fault => throw fault
  | .ok (.done result) => return result
  | .ok (.proceed start next state') =>
    if _h : offset ≤ start ∧ start < next ∧ next ≤ byteLength t then
      repeatRounds t round next state'
    else throw (.stalled offset)
termination_by byteLength t - offset

/-- The offset of the first byte outside a class. -/
def skipWhile (t : Text) (p : UInt8 → Bool) (offset : Nat) : Checked Nat :=
  if _h : offset < byteLength t then do
    let b ← byteAt t offset
    if p b then skipWhile t p (offset + 1) else return offset
  else return offset
termination_by byteLength t - offset

/-! ### Bytes and names -/

/-- White space inside tags. -/
def isSpaceByte (b : UInt8) : Bool :=
  b == ' '.toUInt8 || b == '\t'.toUInt8 || b == '\n'.toUInt8 || b == '\x0c'.toUInt8 ||
    b == '\r'.toUInt8

/-- The bytes that end the name of a tag. -/
def isNameEndByte (b : UInt8) : Bool :=
  isSpaceByte b || b == '/'.toUInt8 || b == '>'.toUInt8

/-- The bytes of letters. -/
def isAlphaByte (b : UInt8) : Bool :=
  decide (b ≥ 'A'.toUInt8 ∧ b ≤ 'Z'.toUInt8) || decide (b ≥ 'a'.toUInt8 ∧ b ≤ 'z'.toUInt8)

/-- The number of bytes in front of the first occurrence of `key`. -/
def offsetOf? (key t : Text) : Option Nat :=
  (cut? key t).map fun parts ↦ byteLength parts.1

/-- The offset behind the next `c`, or the end of the text. -/
def skipPast (t : Text) (offset : Nat) (c : Char) : Checked Nat := do
  let rest ← cutFrom t offset
  match offsetOf? [c] rest with
  | some size => return offset + size + c.utf8Size
  | none => return byteLength t

/-- The name at an offset, in lower case. -/
def readName (t : Text) (offset : Nat) : Checked Text := do
  let bytes ← bytesBetween t offset (byteLength t)
  let size := (bytes.findIdx? isNameEndByte).getD (byteLength t - offset)
  return lower (← cut t offset (offset + size))

/-! ### Start tags -/

/-- What a scan keeps of a start tag. -/
structure Tag where
  name : Text
  attributes : Dict Text
  stop : Nat
  selfClosing : Bool
  deriving DecidableEq

/-- The text from an offset up to the next quotation mark `mark`, and the offset behind that; none
when the text ends first. -/
def readQuoted (t : Text) (offset : Nat) (mark : Char) : Checked (Option (Text × Nat)) := do
  match offsetOf? [mark] (← cutFrom t offset) with
  | none => return none
  | some size =>
    let close := size + offset
    return some (← cut t offset close, close + 1)

/-- The value at an offset and the offset behind it; none when the text ends first. -/
def readValue (t : Text) (offset : Nat) : Checked (Option (Text × Nat)) :=
  match byteAt? t offset with
  | none => return none
  | some b =>
    if b == '"'.toUInt8 || b == '\''.toUInt8 then readQuoted t (offset + 1) (Char.ofUInt8 b)
    else do
      let stop ← skipWhile t (fun b ↦ !isSpaceByte b && b != '>'.toUInt8) offset
      return some (← cut t offset stop, stop)

/-- The value that is assigned at an offset and the offset behind it.  Without an equals sign the
value is empty and takes no part of the text. -/
def readAssignment (t : Text) (offset : Nat) : Checked (Option (Text × Nat)) := do
  let equals ← skipWhile t isSpaceByte offset
  if byteAt? t equals = some '='.toUInt8 then
    readValue t (← skipWhile t isSpaceByte (equals + 1))
  else return some ([], offset)

/-- The attribute at an offset, by lower-case name, and the offset behind it. -/
def readAttribute (t : Text) (offset : Nat) : Checked (Option ((Text × Text) × Nat)) := do
  let stop ← skipWhile t (fun b ↦ !isNameEndByte b && b != '='.toUInt8) offset
  let stop := if stop = offset then stop + 1 else stop
  let name ← cut t offset stop
  let value? ← readAssignment t stop
  return value?.map fun value ↦ ((lower name, value.1), value.2)

/-- A round of the loop over the inside of a start tag: it passes over a slash, reads an attribute,
or finds the end of the tag, with the attributes, the offset behind it and whether it closes itself.
There is no end when the text ends first. -/
def attributeRound (t : Text) (offset : Nat) (attributes : Dict Text) :
    Checked (Round (Dict Text) (Option (Dict Text × Nat × Bool))) := do
  let start ← skipWhile t isSpaceByte offset
  match byteAt? t start with
  | none => return .done none
  | some b =>
    if b = '>'.toUInt8 then return .done (some (attributes, start + 1, false))
    else if b = '/'.toUInt8 then
      if byteAt? t (start + 1) = some '>'.toUInt8 then
        return .done (some (attributes, start + 2, true))
      else return .proceed start (start + 1) attributes
    else
      match ← readAttribute t start with
      | none => return .done none
      | some (entry, next) => return .proceed start next (attributes.insertNew entry.1 entry.2)

/-- The start tag at an offset; none when the text ends first. -/
def scanStartTag (t : Text) (offset : Nat) : Checked (Option Tag) := do
  let name ← readName t (offset + 1)
  let inside? ← repeatRounds t (attributeRound t) (offset + 1 + byteLength name) ∅
  return inside?.map fun inside ↦ ⟨name, inside.1, inside.2.1, inside.2.2⟩

/-! ### End tags of raw text -/

/-- Whether the name `name` stands at an offset, in any case, and ends behind its length. -/
def hasNameAt (t name : Text) (offset : Nat) : Checked Bool := do
  let stop := offset + byteLength name
  if stop ≤ byteLength t then
    let word ← bytesBetween t offset stop
    return word.map lowerByte == (encode name).map lowerByte && (byteAt? t stop).all isNameEndByte
  else return false

/-- A round of the search for the end tag of the element `name`: it looks at the next `</`. -/
def endTagRound (t name : Text) (offset : Nat) (_ : Unit) : Checked (Round Unit (Option Span)) := do
  match offsetOf? ['<', '/'] (← cutFrom t offset) with
  | none => return .done none
  | some size =>
    let start := offset + size
    let nameStart := start + 2
    if ← hasNameAt t name nameStart then
      return .done (some ⟨start, ← skipPast t (nameStart + byteLength name) '>'⟩)
    else return .proceed start nameStart ()

/-- The place of the first end tag of the element `name` behind an offset. -/
def findEndTag (t : Text) (offset : Nat) (name : Text) : Checked (Option Span) :=
  repeatRounds t (endTagRound t name) offset ()

/-! ### Elements -/

/-- An open element.  A top-level element has an index in the list of elements. -/
structure Opened where
  name : Text
  index? : Option Nat
  deriving DecidableEq

/-- The top-level elements found so far and the open elements, the innermost first. -/
structure State where
  found : List Element
  opened : List Opened
  deriving DecidableEq

/-- Give the element of an index its end tag; an element inside another one has no index. -/
def setEndTag (found : List Element) (index? : Option Nat) (place : Span) :
    Checked (List Element) :=
  match index? with
  | none => return found
  | some index =>
    match found[index]? with
    | some e => return found.set index { e with endTag := some place }
    | none => throw (.noElement index)

/-- The effect of an end tag: it closes the innermost element of its name and everything inside
that. -/
def State.close (s : State) (name : Text) (place : Span) : Checked State :=
  match s.opened.findIdx? fun o ↦ o.name == name with
  | none => return s
  | some depth =>
    match s.opened[depth]? with
    | some o =>
      return ⟨← setEndTag s.found o.index? place, s.opened.drop (depth + 1)⟩
    | none => throw (.notOpen depth)

/-- The elements and an index when an element begins: an element inside another one is not kept. -/
def State.begin (s : State) (e : Element) : List Element × Option Nat :=
  if s.opened.isEmpty then (s.found ++ [e], some s.found.length) else (s.found, none)

/-- The effect of a start tag at the offset `start`: it begins an element, and where that is a whole
element or has raw text, it ends it as well. -/
def State.enter (t : Text) (s : State) (start : Nat) (tag : Tag) :
    Checked (Round State (List Element)) := do
  let begun := s.begin ⟨tag.name, tag.attributes, ⟨start, tag.stop⟩, none⟩
  if tag.selfClosing || voidNames.contains tag.name then
    let found ← setEndTag begun.1 begun.2 ⟨tag.stop, tag.stop⟩
    return .proceed start tag.stop ⟨found, s.opened⟩
  else if rawTextNames.contains tag.name then
    match ← findEndTag t tag.stop tag.name with
    | some place =>
      let found ← setEndTag begun.1 begun.2 place
      return .proceed start place.stop ⟨found, s.opened⟩
    | none => return .done begun.1
  else return .proceed start tag.stop ⟨begun.1, ⟨tag.name, begun.2⟩ :: s.opened⟩

/-- The offset behind the comment that begins at an offset. -/
def skipComment (t : Text) (offset : Nat) : Checked Nat := do
  match offsetOf? ['-', '-', '>'] (← cutFrom t (offset + 4)) with
  | some size => return offset + 4 + size + 3
  | none => return byteLength t

/-- What the `<` at an offset begins, and what that does to the open elements. -/
def markupRound (t : Text) (start : Nat) (s : State) : Checked (Round State (List Element)) := do
  let rest ← cutFrom t start
  if ['<', '!', '-', '-'].isPrefixOf rest then
    return .proceed start (← skipComment t start) s
  else if ['<', '!'].isPrefixOf rest || ['<', '?'].isPrefixOf rest then
    return .proceed start (← skipPast t start '>') s
  else if ['<', '/'].isPrefixOf rest then
    let name ← readName t (start + 2)
    if name.isEmpty then return .proceed start (start + 2) s
    else
      let stop ← skipPast t start '>'
      return .proceed start stop (← s.close name ⟨start, stop⟩)
  else if (byteAt? t (start + 1)).any isAlphaByte then
    match ← scanStartTag t start with
    | none => return .done s.found
    | some tag => s.enter t start tag
  else return .proceed start (start + 1) s

/-- A round of the scan for elements: it goes to the next `<`. -/
def elementRound (t : Text) (offset : Nat) (s : State) :
    Checked (Round State (List Element)) := do
  match offsetOf? ['<'] (← cutFrom t offset) with
  | none => return .done s.found
  | some size => markupRound t (offset + size) s

/-- The top-level elements of a text, found in place. -/
def scan (t : Text) : Checked (List Element) :=
  repeatRounds t (elementRound t) 0 ⟨[], []⟩

end ComponentFile.Markup.Scanner
