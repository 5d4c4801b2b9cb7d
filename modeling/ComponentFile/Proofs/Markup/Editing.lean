import ComponentFile.Proofs.Markup.Division

/-!
# Editing raw text

Raw text may be exchanged for any other text in which its end tag does not occur.  Nothing in front
of it sees what it is, nothing in it is markup, and behind its end tag no element is open.  So the
elements of the text stay the same; only what stands behind the raw text is found in another place.

## Main definitions

* `RawParts` : a text around the raw text of an element.
* `replaceContent` : a text with something else as the content of an element.
* `Element.move`, `Element.refill` : an element behind a content that is replaced, and the element
  of that content.
* `Element.Becomes` : what an element keeps when a content is replaced.

## Main results

* `TopLevel.isRawWithin` : tokens around raw text fall into elements whatever stands between them.
* `exists_rawParts` : the parts of a text around raw text, and its elements for every raw text.
* `elements_replaceContent` : the elements of a text whose raw text is replaced.
* `find?_replaceContent` : a search finds what has become of an element.
-/

namespace ComponentFile.Markup

open Text

variable {offset offset' : Nat} {ks : List Token} {e : Element} {es : List Element}
  {new t : Text} {span : Span}

/-! ### Elements behind a content that is replaced -/

/-- A span behind a content of `old` bytes that is replaced by one of `new` bytes. -/
def Span.move (old new : Nat) (span : Span) : Span :=
  ⟨span.start + new - old, span.stop + new - old⟩

/-- An element behind a content of `old` bytes that is replaced by one of `new` bytes. -/
def Element.move (old new : Nat) (e : Element) : Element :=
  { e with startTag := e.startTag.move old new, endTag := e.endTag.map (Span.move old new) }

/-- An element whose own content of `old` bytes is replaced by one of `new` bytes. -/
def Element.refill (old new : Nat) (e : Element) : Element :=
  { e with endTag := e.endTag.map (Span.move old new) }

theorem Span.move_shift (offset old new : Nat) (span : Span) :
    (span.shift (offset + old)).move old new = span.shift (offset + new) := by
  simp only [move, shift, mk.injEq]
  omega

theorem Element.move_shift (offset old new : Nat) (e : Element) :
    (e.shift (offset + old)).move old new = e.shift (offset + new) := by
  simp only [move, shift, Span.move_shift, Option.map_map, Function.comp_def]

/-- The text with `new` as the content of an element. -/
def replaceContent (t : Text) (e : Element) (new : Text) : Text :=
  (slice? t 0 e.contentStart).getD [] ++ new ++
    (slice? t (e.contentStop t) (byteLength t)).getD []

/-! ### Tokens around raw text -/

/-- The element `e` is one of the elements `es` in the tokens `ks`, and raw text with an end tag:
the tokens in front of it and those behind it fall into elements whatever stands between them. -/
def IsRawWithin (offset : Nat) (ks : List Token) (es : List Element) (e : Element) : Prop :=
  ∃ ks₁ tag content close ks₂ es₁ es₂,
    ks = ks₁ ++ .rawElement tag content (some close) :: ks₂ ∧ es = es₁ ++ e :: es₂ ∧
    e = { tag.element (offset + Token.size ks₁) with
      endTag := rawEndTag (offset + Token.size ks₁) tag content (some close) } ∧
    ∀ ks' es', TopLevel (offset + Token.size ks₁) ks' es' →
      TopLevel offset (ks₁ ++ ks') (es₁ ++ es')

/-- Raw text within tokens is raw text behind other tokens, too, whatever elements these form. -/
theorem IsRawWithin.append (h : IsRawWithin offset' ks es e) (before : List Token)
    (first : List Element) (hoffset : offset' = offset + Token.size before)
    (hfirst : ∀ ks es, TopLevel offset' ks es → TopLevel offset (before ++ ks) (first ++ es)) :
    IsRawWithin offset (before ++ ks) (first ++ es) e := by
  obtain ⟨ks₁, tag, content, close, ks₂, es₁, es₂, rfl, rfl, rfl, h₁⟩ := h
  have hsize : offset' + Token.size ks₁ = offset + Token.size (before ++ ks₁) := by
    rw [hoffset, Token.size_append, Nat.add_assoc]
  refine ⟨before ++ ks₁, tag, content, close, ks₂, first ++ es₁, es₂, by simp, by simp,
    by rw [hsize], fun ks' es' h ↦ ?_⟩
  rw [List.append_assoc, List.append_assoc]
  exact hfirst _ _ (h₁ _ _ (hsize ▸ h))

/-- An element with the name of raw text and an end tag that is written is raw text. -/
theorem TopLevel.isRawWithin {rest : Text} (h : TopLevel offset ks es)
    (hread : Token.AreRead rest ks) (he : e ∈ es) (hname : e.name ∈ rawTextNames)
    (hspan : e.endTag = some span) (hlt : span.start < span.stop) :
    IsRawWithin offset ks es e := by
  have hraw {tag : StartTag} (hwhole : tag.isWhole = false) (hmem : tag.lowerName ∈ rawTextNames) :
      tag.opensRawText = true := by simp [StartTag.opensRawText, hwhole, hmem]
  induction h with
  | nil => cases he
  | skip hk hks ih => exact (ih hread.2 he).append [_] [] (by simp) fun _ _ h ↦ .skip hk h
  | @whole offset tag ks es htag hks ih =>
    obtain rfl | he := List.mem_cons.mp he
    · cases hspan
      exact absurd hlt (Nat.lt_irrefl _)
    · exact (ih hread.2 he).append [.startTag tag] [_] (by simp [Token.spelling])
        fun _ _ h ↦ .whole htag h
  | @raw offset tag content close ks es hks ih =>
    obtain rfl | he := List.mem_cons.mp he
    · obtain _ | close := close
      · cases hspan
      · exact ⟨[], tag, content, close, ks, [], es, rfl, rfl, rfl, fun _ _ h ↦ h⟩
    · exact (ih hread.2 he).append [.rawElement tag content close] [_] (by simp) fun _ _ h ↦ .raw h
  | @closed offset tag inside inner n tail ks es htag hinside hn hmem hks ih =>
    obtain ⟨hfirst, hrest⟩ := Token.areRead_append_iff.mp hread
    obtain rfl | he := List.mem_cons.mp he
    · have hopens := hfirst.1.opensRawText_startTag
      rw [hraw htag hname] at hopens
      cases hopens
    · have hwithin := (ih hrest.2 he).append (.startTag tag :: inside ++ [.endTag n tail]) [_] rfl
        fun _ _ h ↦ by simpa using TopLevel.closed htag hinside hn hmem h
      simpa using hwithin
  | unclosed htag hks =>
    rw [List.mem_singleton] at he
    subst he
    cases hspan

/-! ### Texts around raw text -/

/-- An element with raw text, the text in front of it and the text behind it. -/
structure RawParts where
  front : Text
  tag : StartTag
  content : Text
  close : Text
  back : Text

namespace RawParts

variable {p : RawParts}

/-- The text that falls into these parts. -/
def text (p : RawParts) : Text :=
  p.front ++ (p.tag.spelling ++ p.content ++ p.close ++ p.back)

/-- The element between the text in front and the text behind. -/
def element (p : RawParts) : Element :=
  { p.tag.element (byteLength p.front) with
    endTag := rawEndTag (byteLength p.front) p.tag p.content (some p.close) }

/-- The parts with another raw text. -/
def replace (p : RawParts) (new : Text) : RawParts :=
  { p with content := new }

/-- The raw text ends at the end tag. -/
def IsWritten (p : RawParts) : Prop :=
  RawText.IsWritten p.tag.lowerName ⟨p.content, p.close, p.back⟩

/-- The offset at which the text behind the element begins. -/
def backStart (p : RawParts) : Nat :=
  byteLength (p.front ++ (p.tag.spelling ++ p.content ++ p.close))

/-- The text in front of the raw text. -/
def head (p : RawParts) : Text :=
  p.front ++ p.tag.spelling

/-- The text behind the raw text. -/
def tail (p : RawParts) : Text :=
  p.close ++ p.back

theorem text_eq (p : RawParts) : p.text = p.head ++ (p.content ++ p.tail) := by
  simp [text, head, tail]

theorem contentStart_element (p : RawParts) : p.element.contentStart = byteLength p.head := by
  simp [element, StartTag.element, Element.contentStart, head]

theorem contentStop_element (p : RawParts) (t : Text) :
    p.element.contentStop t = byteLength p.head + byteLength p.content := by
  simp [element, rawEndTag, Element.contentStop, head, Nat.add_assoc]

/-- The content of the element is the raw text. -/
theorem extract_element (p : RawParts) : extract p.text (some p.element) = p.content := by
  rw [extract_eq_getD_slice?, contentStart_element, contentStop_element, text_eq, slice?_append,
    Option.getD_some]

/-- To replace the content of the element is to replace the raw text. -/
theorem replaceContent_text (p : RawParts) (new : Text) :
    replaceContent p.text p.element new = (p.replace new).text := by
  have hhead : slice? (p.head ++ (p.content ++ p.tail)) 0 (byteLength p.head) = some p.head := by
    simpa using slice?_append [] p.head (p.content ++ p.tail)
  have htail : slice? (p.head ++ (p.content ++ p.tail)) (byteLength p.head + byteLength p.content)
      (byteLength (p.head ++ (p.content ++ p.tail))) = some p.tail := by
    simpa [Nat.add_assoc] using slice?_append (p.head ++ p.content) p.tail []
  rw [replaceContent, contentStart_element, contentStop_element, text_eq, hhead, htail]
  simp [text_eq, replace, head, tail]

/-- With another raw text the element has its end tag in another place, and nothing else changes. -/
theorem element_replace (p : RawParts) (new : Text) :
    (p.replace new).element = p.element.refill (byteLength p.content) (byteLength new) := by
  simp only [Element.refill, element, replace, rawEndTag, Option.map, byteLength_append, Span.move]
  congr 3 <;> omega

/-- The parts around raw text between tokens. -/
def ofTokens (ks₁ : List Token) (tag : StartTag) (content close : Text) (ks₂ : List Token) :
    RawParts :=
  ⟨ks₁.flatMap Token.spelling, tag, content, close, ks₂.flatMap Token.spelling⟩

section OfTokens

variable {ks₁ ks₂ : List Token} {tag : StartTag} {content close : Text} {es₁ : List Element}

theorem text_ofTokens : (ofTokens ks₁ tag content close ks₂).text =
    (ks₁ ++ .rawElement tag content (some close) :: ks₂).flatMap Token.spelling := by
  simp [ofTokens, text, Token.spelling]

/-- The tokens around raw text are read around another raw text, too. -/
theorem areRead_of_isWritten
    (h : Token.AreRead [] (ks₁ ++ .rawElement tag content (some close) :: ks₂))
    (hnew : (ofTokens ks₁ tag new close ks₂).IsWritten) :
    Token.AreRead [] (ks₁ ++ .rawElement tag new (some close) :: ks₂) := by
  obtain ⟨hread₁, hk, hread₂⟩ := Token.areRead_append_iff.mp h
  have htag : tag.spelling ≠ [] := List.length_pos_iff.mp tag.length_spelling_pos
  have hk' : Token.IsRead (ks₂.flatMap Token.spelling) (.rawElement tag new (some close)) := by
    cases hk with
    | rawElement htag hraw _ => exact .rawElement htag hraw hnew
  refine Token.areRead_append_iff.mpr ⟨hread₁.of_head?_eq ?_, by simpa using hk', hread₂⟩
  simp [Token.spelling, List.head?_append_of_ne_nil _ htag]

/-- The elements behind raw text are those of the text behind it. -/
theorem elements_ofTokens
    (h : Token.AreRead [] (ks₁ ++ .rawElement tag content (some close) :: ks₂))
    (htop : ∀ ks es, TopLevel (0 + Token.size ks₁) ks es → TopLevel 0 (ks₁ ++ ks) (es₁ ++ es)) :
    elements (ofTokens ks₁ tag content close ks₂).text =
      es₁ ++ (ofTokens ks₁ tag content close ks₂).element ::
        (elements (ofTokens ks₁ tag content close ks₂).back).map
          (Element.shift (ofTokens ks₁ tag content close ks₂).backStart) := by
  have hread₂ := (Token.areRead_append_iff.mp h).2.2
  have hback : elements (ofTokens ks₁ tag content close ks₂).back = elementsFrom 0 none ks₂ := by
    rw [elements, ofTokens, Token.ofText_flatMap_spelling hread₂]
  have hstart : 0 + (ofTokens ks₁ tag content close ks₂).backStart = 0 + Token.size ks₁ +
      byteLength (Token.rawElement tag content (some close)).spelling := by
    simp [ofTokens, backStart, Token.size, Token.spelling]
  have hbehind := topLevel_elementsFrom (0 + (ofTokens ks₁ tag content close ks₂).backStart) ks₂
  rw [elementsFrom_add, ← hback, hstart] at hbehind
  have hall := htop _ _ (TopLevel.raw hbehind)
  rw [elements, text_ofTokens, Token.ofText_flatMap_spelling h, ← hall.eq_elementsFrom,
    Nat.zero_add]
  rfl

end OfTokens

end RawParts

/-- A text falls into parts around each raw text with an end tag.  Whatever raw text stands there,
the elements in front of it are the same, and those behind it are found at the same distance from
its end. -/
theorem exists_rawParts (he : e ∈ elements t) (hname : e.name ∈ rawTextNames)
    (hspan : e.endTag = some span) (hlt : span.start < span.stop) :
    ∃ p : RawParts, p.text = t ∧ p.element = e ∧ p.IsWritten ∧
      ∃ before, ∀ new, (p.replace new).IsWritten →
        elements (p.replace new).text = before ++ (p.replace new).element ::
          (elements p.back).map (Element.shift (p.replace new).backStart) := by
  have hread := Token.areRead_ofText t
  have htext := Token.flatMap_spelling_ofText t
  obtain ⟨ks₁, tag, content, close, ks₂, es₁, -, hks, -, heq, htop⟩ :=
    (topLevel_elementsFrom 0 (Token.ofText t)).isRawWithin hread he hname hspan hlt
  rw [hks] at hread htext
  have hwritten : (RawParts.ofTokens ks₁ tag content close ks₂).IsWritten := by
    obtain ⟨-, hk, -⟩ := Token.areRead_append_iff.mp hread
    cases hk with
    | rawElement _ _ hclose => simpa [RawParts.ofTokens, RawParts.IsWritten] using hclose
  refine ⟨.ofTokens ks₁ tag content close ks₂, RawParts.text_ofTokens.trans htext, ?_, hwritten,
    es₁, fun new hnew ↦ RawParts.elements_ofTokens (RawParts.areRead_of_isWritten hread hnew) htop⟩
  rw [heq, Nat.zero_add]
  rfl

/-! ### Contents of elements -/

/-- The content of an element that ends in the first part of a text. -/
theorem extract_append_of_le {a : Text} (hspan : e.endTag = some span)
    (hle : span.start ≤ byteLength a) (b : Text) :
    extract (a ++ b) (some e) = extract a (some e) := by
  simp only [extract, hspan, slice?_append_of_le hle]

/-- The content of an element behind the first part of a text. -/
theorem extract_append_shift (a b : Text) (e : Element) :
    extract (a ++ b) (some (e.shift (byteLength a))) = extract b (some e) := by
  have hstart : (e.shift (byteLength a)).contentStart = byteLength a + e.contentStart :=
    Nat.add_comm ..
  have hstop : (e.shift (byteLength a)).contentStop (a ++ b) = byteLength a + e.contentStop b := by
    cases h : e.endTag <;> simp [Element.contentStop, Element.shift, Span.shift, h, Nat.add_comm]
  rw [extract_eq_getD_slice?, extract_eq_getD_slice?, hstart, hstop, slice?_append_add]

/-- What becomes of an element of the text `t` when the content of the element `e` is replaced by
`new`, so that the text is `t'`: it keeps its name, its attributes and, if it is not `e`, its
content. -/
structure Element.Becomes (t t' : Text) (e : Element) (new : Text) (e₁ e₂ : Element) : Prop where
  name : e₂.name = e₁.name
  attributes : e₂.attributes = e₁.attributes
  extract : extract t' (some e₂) = if e₁ = e then new else extract t (some e₁)

namespace RawParts

variable {p : RawParts}

theorem backStart_eq (p : RawParts) :
    p.backStart = byteLength (p.head ++ p.close) + byteLength p.content := by
  simp only [backStart, head, byteLength_append]
  omega

theorem startTag_element (p : RawParts) : p.element.startTag.start = byteLength p.front := rfl

/-- An element in front of the raw text keeps its place and its content. -/
theorem becomes_of_front (hspan : e.endTag = some span) (hle : span.stop ≤ byteLength p.front)
    (hlocated : e.IsLocatedIn p.text) (new : Text) :
    Element.Becomes p.text (p.replace new).text p.element new e e := by
  have hspans := hlocated.endTag_le span hspan
  have hlt := hlocated.startTag_lt
  have hne : e ≠ p.element := by
    rintro rfl
    rw [startTag_element] at hlt
    omega
  have hstart : span.start ≤ byteLength p.front := by omega
  refine ⟨rfl, rfl, ?_⟩
  rw [if_neg hne, text, text, replace, extract_append_of_le hspan hstart,
    extract_append_of_le hspan hstart]

/-- The element of the raw text has the new content. -/
theorem element_becomes (p : RawParts) (new : Text) :
    Element.Becomes p.text (p.replace new).text p.element new p.element
      (p.replace new).element := by
  refine ⟨rfl, rfl, ?_⟩
  rw [if_pos rfl, extract_element, replace]

/-- An element behind the raw text keeps its content. -/
theorem becomes_of_back (p : RawParts) (new : Text) (e : Element) :
    Element.Becomes p.text (p.replace new).text p.element new (e.shift p.backStart)
      (e.shift (p.replace new).backStart) := by
  have hne : e.shift p.backStart ≠ p.element := by
    intro heq
    have hstart : e.startTag.start + p.backStart = byteLength p.front :=
      congrArg (fun e : Element ↦ e.startTag.start) heq
    have hpos := byteLength_pos (List.length_pos_iff.mp p.tag.length_spelling_pos)
    simp only [backStart, byteLength_append] at hstart
    omega
  have htext (p : RawParts) :
      p.text = p.front ++ (p.tag.spelling ++ p.content ++ p.close) ++ p.back := by
    simp [text]
  refine ⟨rfl, rfl, ?_⟩
  rw [if_neg hne, htext, htext, backStart, backStart, extract_append_shift, extract_append_shift,
    replace]

end RawParts

/-- The elements of a text whose raw text is replaced: those in front stay, the raw text has its
end tag in another place, and those behind are moved; and so are their contents. -/
theorem elements_replaceContent (he : e ∈ elements t) (hname : e.name ∈ rawTextNames)
    (hspan : e.endTag = some span) (hlt : span.start < span.stop)
    (hnew : RawText.HasNoEndTag e.name new) :
    ∃ before after, elements t = before ++ e :: after ∧
      elements (replaceContent t e new) = before ++
        e.refill (byteLength (extract t (some e))) (byteLength new) ::
          after.map (Element.move (byteLength (extract t (some e))) (byteLength new)) ∧
      List.Forall₂ (Element.Becomes t (replaceContent t e new) e new) (elements t)
        (elements (replaceContent t e new)) := by
  obtain ⟨p, rfl, rfl, hwritten, before, hbefore⟩ := exists_rawParts he hname hspan hlt
  have hold : elements p.text = before ++ p.element :: (elements p.back).map
      (Element.shift p.backStart) := hbefore p.content hwritten
  have hlt' : '<' ∉ lower p.tag.lowerName := (by decide : ∀ n ∈ rawTextNames, '<' ∉ lower n) _ hname
  have hreplaced := hbefore new (hnew.isWritten hlt' hwritten.2)
  have hmove : ((elements p.back).map (Element.shift p.backStart)).map
      (Element.move (byteLength p.content) (byteLength new)) =
        (elements p.back).map (Element.shift (p.replace new).backStart) := by
    simp only [List.map_map, Function.comp_def, RawParts.backStart_eq, Element.move_shift]
    rfl
  refine ⟨before, (elements p.back).map (Element.shift p.backStart), hold, ?_, ?_⟩
  · rw [p.replaceContent_text, hreplaced, p.extract_element, hmove, p.element_replace]
  · have hpair : (elements p.text).Pairwise fun e e' ↦
        ∃ span, e.endTag = some span ∧ span.stop ≤ e'.startTag.start :=
      ((topLevel_elementsFrom 0 (Token.ofText p.text)).pairwise (Token.areRead_ofText p.text)).2
    rw [hold] at hpair
    have hfront : ∀ e₁ ∈ before,
        Element.Becomes p.text (p.replace new).text p.element new e₁ e₁ := by
      intro e₁ he₁
      obtain ⟨span₁, hspan₁, hle⟩ :=
        (List.pairwise_append.mp hpair).2.2 e₁ he₁ p.element List.mem_cons_self
      have hmem : e₁ ∈ elements p.text := hold ▸ List.mem_append_left _ he₁
      exact RawParts.becomes_of_front hspan₁ hle (isPlaced_of_mem_elements hmem).isLocatedIn new
    rw [p.replaceContent_text, hreplaced, hold]
    refine List.rel_append (List.forall₂_same.mpr hfront) (.cons (p.element_becomes new) ?_)
    rw [List.forall₂_map_left_iff, List.forall₂_map_right_iff]
    exact List.forall₂_same.mpr fun e _ ↦ p.becomes_of_back new e

/-! ### Searches -/

/-- A search by name finds related elements in lists of related elements. -/
theorem find?_rel {R : Element → Element → Prop} {es' : List Element}
    (hname : ∀ e₁ e₂, R e₁ e₂ → e₂.name = e₁.name) (h : List.Forall₂ R es es') (tag : Text) :
    Option.Rel R (find? es tag []) (find? es' tag []) := by
  induction h with
  | nil => exact .none
  | @cons e₁ e₂ es es' h₁ _ ih =>
    have hanswers : e₂.answers tag [] = e₁.answers tag [] := by
      simp [Element.answers, hname e₁ e₂ h₁]
    simp only [find?, List.find?_cons, hanswers] at ih ⊢
    cases e₁.answers tag [] with
    | true => exact .some h₁
    | false => exact ih

/-- A search finds an element and what becomes of it. -/
theorem find?_replaceContent (he : e ∈ elements t) (hname : e.name ∈ rawTextNames)
    (hspan : e.endTag = some span) (hlt : span.start < span.stop)
    (hnew : RawText.HasNoEndTag e.name new) (tag : Text) :
    Option.Rel (Element.Becomes t (replaceContent t e new) e new) (find? (elements t) tag [])
      (find? (elements (replaceContent t e new)) tag []) := by
  obtain ⟨-, -, -, -, h⟩ := elements_replaceContent he hname hspan hlt hnew
  exact find?_rel (fun _ _ h ↦ h.name) h tag

end ComponentFile.Markup
