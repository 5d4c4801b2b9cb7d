import ComponentFile.Markup.StartTag

/-!
# End tags of raw text

The content of elements such as `script` and `style` is raw text: nothing in it is markup but the
end tag of the element itself, which is found here.

## Main definitions

* `Markup.startsEndTag` : whether an end tag of an element begins at the front of a text.
* `Markup.RawText.split?` : raw text, the end tag that closes it, and the text behind that.

## Main results

* `RawText.append_of_split?` : the split loses nothing.
-/

namespace ComponentFile.Markup

open Text

/-- Whether an end tag of the element `name` begins at the front of the text: `</` and the name,
in any ASCII case, followed by the end of a name or by nothing at all. -/
def startsEndTag (name t : Text) : Bool :=
  let size := name.length + 2
  lower (t.take size) == '<' :: '/' :: lower name && (t.drop size).head?.all isNameEnd

/-- The end tag of the element `name` at the front of the text, and the text behind it.  The tag
goes on through the next `>`, or to the end of the text. -/
def splitEndTag (name t : Text) : Text × Text :=
  let size := name.length + 2
  let tail := through '>' (t.drop size)
  (t.take size ++ tail.1, tail.2)

@[simp] theorem splitEndTag_append (name t : Text) :
    (splitEndTag name t).1 ++ (splitEndTag name t).2 = t := by
  simp only [splitEndTag, List.append_assoc, through_append, List.take_append_drop]

/-- Raw text cut at the end tag that closes it. -/
structure RawText where
  content : Text
  endTag : Text
  rest : Text
  deriving DecidableEq, Repr

namespace RawText

/-- Cut a text at the first end tag of the element `name`. -/
def split? (name : Text) : Text → Option RawText
  | [] => none
  | c :: t =>
    if startsEndTag name (c :: t) then
      some ⟨[], (splitEndTag name (c :: t)).1, (splitEndTag name (c :: t)).2⟩
    else (split? name t).map fun raw => { raw with content := c :: raw.content }

/-- The split loses nothing. -/
theorem append_of_split? {name t : Text} {raw : RawText} (h : split? name t = some raw) :
    raw.content ++ raw.endTag ++ raw.rest = t := by
  induction t generalizing raw with
  | nil => simp [split?] at h
  | cons c t ih =>
    rw [split?] at h
    split at h
    · cases h
      exact splitEndTag_append name (c :: t)
    · obtain ⟨inner, hinner, rfl⟩ := Option.map_eq_some_iff.mp h
      simpa using ih hinner

end RawText

end ComponentFile.Markup
