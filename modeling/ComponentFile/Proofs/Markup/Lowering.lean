import ComponentFile.Proofs.Dict
import ComponentFile.Proofs.Markup.Division
import ComponentFile.Proofs.Text.Bytes
import ComponentFile.Proofs.Text.Lowering

/-!
# Markup in lower case

Where a token ends is decided by characters that are no letters, by names that are compared in
lower case, and by the number of bytes, which lower case does not change.  So a text in lower case
is read as the tokens of the text, each of them in lower case, and has the same elements at the same
places; only the values of attributes show the case in which they were written.

## Main definitions

* `Token.lowered` : a token in lower case.
* `Element.lowered` : an element with the values of its attributes in lower case.

## Main results

* `StartTag.parse?_lower`, `Token.next?_lower`, `Token.ofText_lower` : each reader finds the same in
  lower case.
* `TopLevel.lowered` : tokens in lower case fall into elements in the same way.
* `elements_lower` : the elements of a text in lower case.
-/

namespace ComponentFile.Markup

open Text

variable {c : Char} {t : Text} {offset : Nat} {k : Token} {ks : List Token} {es : List Element}

/-! ### Values and assignments -/

theorem Quote.ofChar?_toLower (c : Char) : ofChar? c.toLower = ofChar? c := by
  simp only [ofChar?, toLower_eq_iff (show '"'.isAlpha = false from rfl),
    toLower_eq_iff (show '\''.isAlpha = false from rfl)]

theorem Quote.isAlpha_mark (q : Quote) : q.mark.isAlpha = false := by
  cases q <;> rfl

namespace Value

/-- A value in lower case. -/
def lowered : Value → Value
  | bare b => bare (Text.lower b)
  | quoted q b => quoted q (Text.lower b)

@[simp] theorem text_lowered (v : Value) : v.lowered.text = Text.lower v.text := by
  cases v <;> rfl

theorem spelling_lowered (v : Value) : v.lowered.spelling = Text.lower v.spelling := by
  cases v with
  | bare b => rfl
  | quoted q b => simp [spelling, lowered, toLower_eq_of_isAlpha_eq_false q.isAlpha_mark]

theorem ignoresCase_isBareChar : IgnoresCase isBareChar :=
  (IgnoresCase.not isSpace_toLower).and (ignoresCase_beq (c := '>') rfl).not

theorem read?_lower (t : Text) :
    read? (Text.lower t) = (read? t).map (Prod.map lowered Text.lower) := by
  cases t with
  | nil => rfl
  | cons c t =>
    rw [lower_cons, read?, read?, Quote.ofChar?_toLower, ← lower_cons,
      takeWhile_lower ignoresCase_isBareChar, dropWhile_lower ignoresCase_isBareChar]
    split
    · next q hq =>
      have hkey : ∀ c ∈ [q.mark], c.isAlpha = false := by simpa using q.isAlpha_mark
      simp only [cut?_lower hkey, Option.map_map]
      rfl
    · rfl

end Value

namespace Assignment

/-- An assignment in lower case. -/
def lowered (a : Assignment) : Assignment :=
  ⟨Text.lower a.before, Text.lower a.after, a.value.lowered⟩

theorem spelling_lowered (a : Assignment) : a.lowered.spelling = Text.lower a.spelling := by
  simp [spelling, lowered, Value.spelling_lowered, toLower_eq_of_isAlpha_eq_false (c := '=') rfl]

theorem read?_lower (t : Text) :
    read? (Text.lower t) = (read? t).map (Prod.map (Option.map lowered) Text.lower) := by
  rw [read?, read?, dropWhile_lower isSpace_toLower]
  cases hrest : t.dropWhile isSpace with
  | nil => rfl
  | cons c u =>
    by_cases hc : c = '='
    · subst hc
      have heq : '='.toLower = '=' := rfl
      simp only [lower_cons, heq, dropWhile_lower isSpace_toLower, takeWhile_lower isSpace_toLower,
        Value.read?_lower, Option.map_map]
      rfl
    · have hlower : c.toLower ≠ '=' := (toLower_eq_iff rfl).not.mpr hc
      simp [hc, hlower]

end Assignment

/-! ### Attributes -/

namespace Attribute

/-- An attribute in lower case. -/
def lowered (a : Attribute) : Attribute :=
  ⟨Text.lower a.gap, Text.lower a.name, a.assignment.map Assignment.lowered⟩

theorem valueText_lowered (a : Attribute) : a.lowered.valueText = Text.lower a.valueText := by
  cases h : a.assignment <;> simp [valueText, lowered, h, Assignment.lowered]

theorem spelling_lowered (a : Attribute) : a.lowered.spelling = Text.lower a.spelling := by
  cases h : a.assignment <;> simp [spelling, lowered, h, Assignment.spelling_lowered]

theorem ignoresCase_isNameChar : IgnoresCase isNameChar :=
  (IgnoresCase.not isNameEnd_toLower).and (ignoresCase_beq (c := '=') rfl).not

theorem splitName_lower (t : Text) :
    splitName (Text.lower t) = Prod.map Text.lower Text.lower (splitName t) := by
  by_cases h : t.takeWhile isNameChar = []
  · simp only [splitName, takeWhile_lower ignoresCase_isNameChar, h, lower_nil, Prod.map,
      lower_take, lower_drop]
  · have hlower : (Text.lower t).takeWhile isNameChar ≠ [] := by
      rw [takeWhile_lower ignoresCase_isNameChar]
      simpa [Text.lower] using h
    rw [splitName_of_takeWhile_ne_nil h, splitName_of_takeWhile_ne_nil hlower,
      takeWhile_lower ignoresCase_isNameChar, dropWhile_lower ignoresCase_isNameChar]
    rfl

theorem read?_lower (gap t : Text) :
    read? (Text.lower gap) (Text.lower t) = (read? gap t).map (Prod.map lowered Text.lower) := by
  simp only [read?, splitName_lower, Prod.map, Assignment.read?_lower, Option.map_map]
  rfl

end Attribute

theorem splitGap_lower (t : Text) :
    splitGap (lower t) = Prod.map lower lower (splitGap t) := by
  induction t with
  | nil => rfl
  | cons c t ih =>
    have hslash : (c.toLower == '/') = (c == '/') := ignoresCase_beq rfl c
    have hgt : ((lower t).head? != some '>') = (t.head? != some '>') := by
      cases t with
      | nil => rfl
      | cons d t => exact (ignoresCase_beq (c := '>') rfl).not d
    rw [lower_cons, splitGap, splitGap, isSpace_toLower, hslash, hgt, ih]
    split <;> rfl

/-! ### Start tags -/

namespace StartTag

/-- A start tag in lower case. -/
def lowered (tag : StartTag) : StartTag :=
  ⟨Text.lower tag.name, tag.attributes.map Attribute.lowered, Text.lower tag.gap, tag.selfClosing⟩

theorem ending_lower (gap : Text) (selfClosing : Bool) :
    ending (Text.lower gap) selfClosing = Text.lower (ending gap selfClosing) := by
  cases selfClosing <;> simp [ending, Text.lower]

theorem spelling_lowered (tag : StartTag) : tag.lowered.spelling = Text.lower tag.spelling := by
  have hattributes (as : List Attribute) :
      (as.map Attribute.lowered).flatMap Attribute.spelling =
        Text.lower (as.flatMap Attribute.spelling) := by
    induction as with
    | nil => rfl
    | cons a as ih => simp [ih, Attribute.spelling_lowered]
  have hlt : '<'.toLower = '<' := rfl
  simp [spelling, lowered, hattributes, ending_lower, hlt]

@[simp] theorem lowerName_lowered (tag : StartTag) : tag.lowered.lowerName = tag.lowerName :=
  lower_lower tag.name

@[simp] theorem isWhole_lowered (tag : StartTag) : tag.lowered.isWhole = tag.isWhole := by
  rw [isWhole, lowerName_lowered, isWhole]
  rfl

@[simp] theorem opensRawText_lowered (tag : StartTag) :
    tag.lowered.opensRawText = tag.opensRawText := by
  rw [opensRawText, isWhole_lowered, lowerName_lowered, opensRawText]

/-- In lower case each attribute has its value in lower case. -/
theorem dict_lowered (tag : StartTag) : tag.lowered.dict = tag.dict.mapValues Text.lower := by
  have hfold (as : List Attribute) (d : Dict Text) :
      (as.map Attribute.lowered).foldl
        (fun d a ↦ d.insertNew (Text.lower a.name) a.valueText) (d.mapValues Text.lower) =
      (as.foldl (fun d a ↦ d.insertNew (Text.lower a.name) a.valueText) d).mapValues
        Text.lower := by
    induction as generalizing d with
    | nil => rfl
    | cons a as ih =>
      have hname : Text.lower a.lowered.name = Text.lower a.name := lower_lower a.name
      rw [List.map_cons, List.foldl_cons, hname, Attribute.valueText_lowered,
        ← OrderedMap.mapValues_insertNew, ih, List.foldl_cons]
  exact hfold tag.attributes ∅

theorem readBody?_lower (t : Text) :
    readBody? (Text.lower t) = (readBody? t).map fun found ↦
      ((found.1.1.map Attribute.lowered, Text.lower found.1.2.1, found.1.2.2),
        Text.lower found.2) := by
  induction hlen : t.length using Nat.strong_induction_on generalizing t with
  | _ n ih =>
    subst hlen
    obtain ⟨-, hends⟩ := isGap_splitGap t
    have hsplit : splitGap t = ((splitGap t).1, (splitGap t).2) := rfl
    have hlower := splitGap_lower t
    generalize (splitGap t).1 = gap, (splitGap t).2 = inside at hsplit hends
    rw [hsplit] at hlower
    obtain rfl | ⟨selfClosing, rest, rfl⟩ | ⟨c, u, rfl, hc⟩ := endsGap_cases hends
    · rw [readBody?_of_nil hsplit, readBody?_of_nil hlower, Option.map_none]
    · have hlower' : splitGap (Text.lower t) =
          (Text.lower gap, ending [] selfClosing ++ Text.lower rest) := by
        rw [hlower, Prod.map, lower_append, ← ending_lower, lower_nil]
      rw [readBody?_of_ending hsplit, readBody?_of_ending hlower']
      rfl
    · have hc' : isNameEnd c.toLower = false := by rw [isNameEnd_toLower, hc]
      have hread := Attribute.read?_lower gap (c :: u)
      cases ha : Attribute.read? gap (c :: u) with
      | none =>
        rw [ha, Option.map_none] at hread
        rw [readBody?_of_read?_eq_none hsplit hc ha, readBody?_of_read?_eq_none hlower hc' hread,
          Option.map_none]
      | some found =>
        rw [ha, Option.map_some] at hread
        have hlt := Attribute.length_lt_of_read? ha (List.cons_ne_nil c u)
        have happ := congrArg List.length (splitGap_append t)
        simp only [hsplit, List.length_append] at happ
        rw [readBody?_of_attribute hsplit hc ha, readBody?_of_attribute hlower hc' hread,
          ih found.2.length (by omega) found.2 rfl, Option.map_map, Option.map_map]
        rfl

/-- In lower case the same start tag is read, in lower case. -/
theorem parse?_lower (t : Text) :
    parse? (Text.lower t) = (parse? t).map (Prod.map lowered Text.lower) := by
  have hname : IgnoresCase fun d ↦ !isNameEnd d := IgnoresCase.not isNameEnd_toLower
  cases t with
  | nil => rfl
  | cons c t =>
    by_cases hc : c = '<'
    · subst hc
      have hlt : '<'.toLower = '<' := rfl
      cases t with
      | nil => rfl
      | cons d t =>
        simp only [lower_cons, hlt, parse?, Char.isAlpha_toLower_eq_isAlpha]
        rw [← lower_cons, takeWhile_lower hname, dropWhile_lower hname, readBody?_lower]
        split
        · simp only [Option.map_map]
          rfl
        · rfl
    · have hlower : c.toLower ≠ '<' := (toLower_eq_iff rfl).not.mpr hc
      rw [lower_cons, parse?, parse?]
      · rfl
      · simp [hc]
      · simp [hlower]

end StartTag

/-! ### Raw text -/

theorem startsEndTag_lower (name t : Text) : startsEndTag name (lower t) = startsEndTag name t := by
  simp only [startsEndTag, ← lower_take, ← lower_drop, lower_lower,
    all_head?_lower isNameEnd_toLower]

theorem splitEndTag_lower (name t : Text) :
    splitEndTag name (lower t) = Prod.map lower lower (splitEndTag name t) := by
  simp only [splitEndTag, ← lower_take, ← lower_drop, through_lower (c := '>') rfl, lower_append,
    Prod.map]

/-- Raw text and its end tag in lower case. -/
def RawText.lowered (raw : RawText) : RawText :=
  ⟨Text.lower raw.content, Text.lower raw.endTag, Text.lower raw.rest⟩

theorem RawText.split?_lower (name t : Text) :
    split? name (Text.lower t) = (split? name t).map RawText.lowered := by
  induction t with
  | nil => rfl
  | cons c t ih =>
    rw [lower_cons, split?, split?, ← lower_cons, startsEndTag_lower, splitEndTag_lower, ih]
    split
    · rfl
    · simp only [Option.map_map]
      rfl

/-! ### Tokens -/

namespace Token

/-- A token in lower case. -/
def lowered : Token → Token
  | plain s => plain (Text.lower s)
  | comment s => comment (Text.lower s)
  | declaration s => declaration (Text.lower s)
  | endTag name tail => endTag (Text.lower name) (Text.lower tail)
  | startTag tag => startTag tag.lowered
  | rawElement tag content close =>
    rawElement tag.lowered (Text.lower content) (close.map Text.lower)

theorem spelling_lowered (k : Token) : k.lowered.spelling = Text.lower k.spelling := by
  have hlt : '<'.toLower = '<' := rfl
  have hslash : '/'.toLower = '/' := rfl
  cases k with
  | endTag name tail => simp [lowered, spelling, hlt, hslash]
  | startTag tag => exact tag.spelling_lowered
  | rawElement tag content close =>
    cases close <;> simp [lowered, spelling, StartTag.spelling_lowered]
  | _ => rfl

theorem readComment_lower (t : Text) :
    readComment (Text.lower t) = Prod.map lowered Text.lower (readComment t) := by
  have hkey : ∀ c ∈ ['-', '-', '>'], c.isAlpha = false := by simp
  rw [readComment, readComment, cut?_lower hkey]
  cases cut? ['-', '-', '>'] t with
  | none => rfl
  | some parts => simp [lowered, lower_append, toLower_eq_of_isAlpha_eq_false]

theorem readDeclaration_lower (t : Text) :
    readDeclaration (Text.lower t) = Prod.map lowered Text.lower (readDeclaration t) := by
  rw [readDeclaration, through_lower rfl]
  rfl

theorem readEndTag_lower (t : Text) :
    readEndTag (Text.lower t) = Prod.map lowered Text.lower (readEndTag t) := by
  have hname : IgnoresCase fun c ↦ !isNameEnd c := IgnoresCase.not isNameEnd_toLower
  rw [readEndTag, readEndTag, takeWhile_lower hname, dropWhile_lower hname, through_lower rfl]
  cases t.takeWhile fun c ↦ !isNameEnd c <;> rfl

theorem readStartTag_lower (t : Text) :
    readStartTag (Text.lower t) = Prod.map lowered Text.lower (readStartTag t) := by
  rw [readStartTag, readStartTag, StartTag.parse?_lower]
  cases StartTag.parse? t with
  | none => rfl
  | some found =>
    obtain ⟨tag, rest⟩ := found
    simp only [Option.map_some, Prod.map, StartTag.opensRawText_lowered, StartTag.lowerName_lowered,
      RawText.split?_lower]
    split
    · cases RawText.split? tag.lowerName rest <;> rfl
    · rfl

theorem beginsTag_toLower (c : Char) : BeginsTag c.toLower ↔ BeginsTag c := by
  simp only [BeginsTag, Char.isAlpha_toLower_eq_isAlpha,
    toLower_eq_iff (show '!'.isAlpha = false from rfl),
    toLower_eq_iff (show '?'.isAlpha = false from rfl),
    toLower_eq_iff (show '/'.isAlpha = false from rfl)]

theorem BeginsDeclaration.lowered (h : BeginsDeclaration t) : BeginsDeclaration (Text.lower t) := by
  obtain ⟨u, rfl, hu⟩ | ⟨u, rfl⟩ := h
  · refine .inl ⟨Text.lower u, rfl, ?_⟩
    rwa [← List.isPrefixOf_iff_prefix, isPrefixOf_lower (by simp), List.isPrefixOf_iff_prefix]
  · exact .inr ⟨Text.lower u, rfl⟩

/-- What begins with `<` in lower case.  The cases are the characters that give it a meaning. -/
theorem next?_lower_cons_lt (t : Text) :
    next? (Text.lower ('<' :: t)) = (next? ('<' :: t)).map (Prod.map lowered Text.lower) := by
  have hlt : Text.lower ('<' :: t) = '<' :: Text.lower t := rfl
  by_cases ht : ∀ c ∈ t.head?, ¬BeginsTag c
  · have hlower : ∀ c ∈ (Text.lower t).head?, ¬BeginsTag c := by
      cases t with
      | nil => simp
      | cons d t => simpa [beginsTag_toLower] using ht
    rw [hlt, next?_of_not_beginsTag ht, next?_of_not_beginsTag hlower]
    rfl
  · push Not at ht
    obtain ⟨d, hd, hbegins⟩ := ht
    obtain ⟨u, rfl⟩ := List.head?_eq_some_iff.mp hd
    have hdeclaration (h : BeginsDeclaration ('<' :: d :: u)) :
        next? (Text.lower ('<' :: d :: u)) =
          (next? ('<' :: d :: u)).map (Prod.map lowered Text.lower) := by
      rw [next?_of_beginsDeclaration h, next?_of_beginsDeclaration h.lowered, readDeclaration_lower]
      rfl
    obtain halpha | rfl | rfl | rfl := hbegins
    · have hlower : d.toLower.isAlpha = true := by rw [Char.isAlpha_toLower_eq_isAlpha, halpha]
      have hread := readStartTag_lower ('<' :: d :: u)
      rw [hlt, lower_cons] at hread ⊢
      rw [next?_of_isAlpha halpha, next?_of_isAlpha hlower, hread]
      rfl
    · by_cases hu : ['-', '-'] <+: u
      · obtain ⟨v, rfl⟩ := hu
        exact congrArg some (readComment_lower v)
      · exact hdeclaration (.inl ⟨u, rfl, hu⟩)
    · exact hdeclaration (.inr ⟨u, rfl⟩)
    · exact congrArg some (readEndTag_lower u)

/-- In lower case the same token comes next, in lower case. -/
theorem next?_lower (t : Text) :
    next? (Text.lower t) = (next? t).map (Prod.map lowered Text.lower) := by
  cases t with
  | nil => rfl
  | cons c t =>
    by_cases hc : c = '<'
    · exact hc ▸ next?_lower_cons_lt t
    · have hlower : c.toLower ≠ '<' := (toLower_eq_iff rfl).not.mpr hc
      have hp : IgnoresCase (· != '<') := (ignoresCase_beq rfl).not
      rw [lower_cons, next?_cons_of_ne hlower, next?_cons_of_ne hc, ← lower_cons,
        takeWhile_lower hp, dropWhile_lower hp]
      rfl

/-- The tokens of a text in lower case are those of the text, in lower case. -/
theorem ofText_lower (t : Text) : ofText (Text.lower t) = (ofText t).map lowered := by
  induction t using ofText.induct with
  | case1 t hnext =>
    rw [next?_eq_none_iff.mp hnext, lower_nil, ofText_nil, List.map_nil]
  | case2 t k rest hnext ih =>
    have hlower := next?_lower t
    rw [hnext] at hlower
    rw [ofText_of_next? hnext, ofText_of_next? hlower, ih, List.map_cons]

theorem size_map_lowered (ks : List Token) : size (ks.map lowered) = size ks := by
  induction ks with
  | nil => rfl
  | cons k ks ih => simp [ih, spelling_lowered]

theorem beginsElement_lowered (k : Token) : k.lowered.BeginsElement ↔ k.BeginsElement := by
  cases k <;> rfl

end Token

/-! ### Elements -/

/-- An element with the values of its attributes in lower case. -/
def Element.lowered (e : Element) : Element :=
  { e with attributes := e.attributes.mapValues Text.lower }

theorem StartTag.lowered_element (tag : StartTag) (offset : Nat) :
    (tag.element offset).lowered = tag.lowered.element offset := by
  simp [element, Element.lowered, dict_lowered, spelling_lowered]

theorem StartTag.lowered_element_with (tag : StartTag) (offset : Nat) (endTag? : Option Span) :
    Element.lowered { tag.element offset with endTag := endTag? } =
      { tag.lowered.element offset with endTag := endTag? } := by
  rw [← lowered_element]
  rfl

theorem rawEndTag_lower (offset : Nat) (tag : StartTag) (content : Text) (close : Option Text) :
    rawEndTag offset tag.lowered (lower content) (close.map lower) =
      rawEndTag offset tag content close := by
  cases close <;> simp [rawEndTag, StartTag.spelling_lowered]

theorem stepInside_lowered (name : Text) (inner : List Text) (k : Token) :
    stepInside name inner k.lowered = stepInside name inner k := by
  cases k <;> simp [stepInside, Token.lowered]

theorem runInside_map_lowered (name : Text) (inner : List Text) (ks : List Token) :
    runInside name inner (ks.map Token.lowered) = runInside name inner ks := by
  induction ks generalizing inner with
  | nil => rfl
  | cons k ks ih => simp only [List.map_cons, runInside_cons, stepInside_lowered, ih]

/-- Tokens in lower case fall into elements in the same way. -/
theorem TopLevel.lowered (h : TopLevel offset ks es) :
    TopLevel offset (ks.map Token.lowered) (es.map Element.lowered) := by
  induction h with
  | nil => exact .nil
  | @skip offset k ks es hk hks ih =>
    refine .skip (k.beginsElement_lowered.not.mpr hk) ?_
    rwa [Token.spelling_lowered, byteLength_lower]
  | @whole offset tag ks es htag hks ih =>
    have hsize : byteLength tag.lowered.spelling = byteLength tag.spelling := by
      rw [StartTag.spelling_lowered, byteLength_lower]
    rw [List.map_cons, List.map_cons, StartTag.lowered_element_with, ← hsize]
    exact .whole (by rwa [StartTag.isWhole_lowered]) (hsize ▸ ih)
  | @raw offset tag content close ks es hks ih =>
    rw [List.map_cons, List.map_cons, StartTag.lowered_element_with, ← rawEndTag_lower]
    refine .raw ?_
    rwa [← Token.lowered, Token.spelling_lowered, byteLength_lower]
  | @closed offset tag inside inner n tail ks es htag hinside hn hmem hks ih =>
    have hopening := Token.size_map_lowered (.startTag tag :: inside)
    have hwhole := Token.size_map_lowered (.startTag tag :: inside ++ [.endTag n tail])
    rw [List.map_append] at hwhole
    rw [List.map_append, List.map_cons, List.map_cons, List.map_cons, StartTag.lowered_element_with,
      ← hopening, ← hwhole]
    have hrun : runInside tag.lowered.lowerName [] (inside.map Token.lowered) = some inner := by
      rwa [StartTag.lowerName_lowered, runInside_map_lowered]
    refine .closed ?_ hrun ?_ ?_ ?_
    · rwa [StartTag.isWhole_lowered]
    · rwa [StartTag.lowerName_lowered, lower_lower]
    · rwa [StartTag.lowerName_lowered]
    · exact hwhole ▸ ih
  | @unclosed offset tag ks inner htag hks =>
    rw [List.map_cons, List.map_singleton, StartTag.lowered_element]
    have hrun : runInside tag.lowered.lowerName [] (ks.map Token.lowered) = some inner := by
      rwa [StartTag.lowerName_lowered, runInside_map_lowered]
    exact .unclosed (by rwa [StartTag.isWhole_lowered]) hrun

/-- A text in lower case has the elements of the text at the same places: only the values of their
attributes are in lower case. -/
theorem elements_lower (t : Text) : elements (lower t) = (elements t).map Element.lowered := by
  have h := (topLevel_elementsFrom 0 (Token.ofText t)).lowered
  rw [elements, Token.ofText_lower, ← h.eq_elementsFrom, elements]

end ComponentFile.Markup
