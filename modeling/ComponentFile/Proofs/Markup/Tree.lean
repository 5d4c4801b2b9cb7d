import ComponentFile.Proofs.Markup.Contents

/-!
# Markup trees

A well-formed piece of markup is a list of trees: text, comments, declarations, and elements that
contain trees themselves.  The reader sees only a text and keeps only what it finds at the top
level, but of every text that is written from trees it finds each element with its name, its
attributes, its place and its content, whatever is nested inside.

## Main definitions

* `Tree`, `Tree.render`, `renderAll` : trees and how they are written.
* `Tree.IsWellFormed` : trees in which nothing looks like the end of something else.
* `Found` : what is found about an element.
* `foundFrom` : what should be found about the elements among trees.

## Main results

* `elementsAt_renderAll_append_inside` : a well-formed list of trees leaves the elements around it
  open.
* `Tree.found_render_append` : what is found about a well-formed tree that stands in a text.
* `elements_renderAll` : of a text that is written from trees, every element is found as it is.
-/

namespace ComponentFile.Markup

open Text

/-! ### Trees -/

/-- The characters of names: letters, digits and hyphens. -/
def isWordChar (c : Char) : Bool :=
  c.isAlphanum || c == '-'

/-- The name and the attributes of an element as they are written. -/
structure Label where
  name : Text
  attributes : List (Text × Text)
  deriving DecidableEq, Repr

/-- A piece of markup with everything that is nested in it.  A declaration begins with `<!`, an
instruction with `<?`. -/
inductive Tree where
  | text (t : Text)
  | comment (inside : Text)
  | declaration (inside : Text)
  | instruction (inside : Text)
  | void (label : Label)
  | selfClosed (label : Label)
  | raw (label : Label) (content : Text)
  | element (label : Label) (children : List Tree)

namespace Label

/-- An attribute in double quotation marks, with a space in front. -/
def renderAttribute (a : Text × Text) : Text :=
  ' ' :: a.1 ++ ['=', '"'] ++ a.2 ++ ['"']

/-- A start tag without its end. -/
def opening (l : Label) : Text :=
  '<' :: l.name ++ l.attributes.flatMap renderAttribute

/-- An end tag. -/
def closing (l : Label) : Text :=
  closingTag l.name

/-- The attributes by lower-case name. -/
def entries (l : Label) : List (Text × Text) :=
  l.attributes.map fun a ↦ (lower a.1, a.2)

/-- A name is a word that begins with a letter, attributes have distinct names, and their values
have no quotation mark. -/
def IsWellFormed (l : Label) : Prop :=
  (∃ c ∈ l.name.head?, c.isAlpha = true) ∧ (∀ c ∈ l.name, isWordChar c = true) ∧
    (∀ a ∈ l.attributes, a.1 ≠ [] ∧ (∀ c ∈ a.1, isWordChar c = true) ∧ '"' ∉ a.2) ∧
    (l.entries.map Prod.fst).Nodup

end Label

mutual

/-- A tree as it is written. -/
def Tree.render : Tree → Text
  | .text t => t
  | .comment c => ['<', '!', '-', '-'] ++ c ++ ['-', '-', '>']
  | .declaration d => ['<', '!'] ++ d ++ ['>']
  | .instruction d => ['<', '?'] ++ d ++ ['>']
  | .void l => l.opening ++ ['>']
  | .selfClosed l => l.opening ++ ['/', '>']
  | .raw l content => l.opening ++ ['>'] ++ content ++ l.closing
  | .element l ts => l.opening ++ ['>'] ++ renderAll ts ++ l.closing

/-- Trees as they are written, one after another. -/
def renderAll : List Tree → Text
  | [] => []
  | t :: ts => t.render ++ renderAll ts

end

mutual

/-- The trees in which nothing looks like the end of something else: there is no `<` in text, no
end of a comment in a comment and no `>` in a declaration, and raw text has no end tag of its own
element. -/
def Tree.IsWellFormed : Tree → Prop
  | .text t => '<' ∉ t
  | .comment c => ¬['-', '-', '>'] <:+: c
  | .declaration d => '>' ∉ d ∧ ¬['-', '-'] <+: d
  | .instruction d => '>' ∉ d
  | .void l => l.IsWellFormed ∧ lower l.name ∈ voidNames
  | .selfClosed l => l.IsWellFormed
  | .raw l content => l.IsWellFormed ∧ lower l.name ∈ rawTextNames ∧
      RawText.split? (lower l.name) content = none
  | .element l ts => l.IsWellFormed ∧ lower l.name ∉ voidNames ∧ lower l.name ∉ rawTextNames ∧
      AreWellFormed ts

/-- Every tree of a list is well formed. -/
def AreWellFormed : List Tree → Prop
  | [] => True
  | t :: ts => t.IsWellFormed ∧ AreWellFormed ts

end

/-- The instances go through the characters of a text, not through all characters. -/
instance (l : Label) : Decidable l.IsWellFormed :=
  have : Decidable (∃ c ∈ l.name.head?, c.isAlpha = true) :=
    Option.decidableExistsMem l.name.head?
  have (t : Text) : Decidable (∀ c ∈ t, isWordChar c = true) := List.decidableBAll _ t
  have : Decidable (∀ a ∈ l.attributes,
      a.1 ≠ [] ∧ (∀ c ∈ a.1, isWordChar c = true) ∧ '"' ∉ a.2) := List.decidableBAll _ _
  inferInstanceAs (Decidable (_ ∧ _ ∧ _ ∧ _))

mutual

/-- Whether a tree is well formed can be computed. -/
def Tree.decidableIsWellFormed : (t : Tree) → Decidable t.IsWellFormed
  | .text t => inferInstanceAs (Decidable ('<' ∉ t))
  | .comment c => inferInstanceAs (Decidable ¬['-', '-', '>'] <:+: c)
  | .declaration d => inferInstanceAs (Decidable ('>' ∉ d ∧ ¬['-', '-'] <+: d))
  | .instruction d => inferInstanceAs (Decidable ('>' ∉ d))
  | .void l => inferInstanceAs (Decidable (l.IsWellFormed ∧ lower l.name ∈ voidNames))
  | .selfClosed l => inferInstanceAs (Decidable l.IsWellFormed)
  | .raw l content => inferInstanceAs (Decidable (l.IsWellFormed ∧
      lower l.name ∈ rawTextNames ∧ RawText.split? (lower l.name) content = none))
  | .element l ts =>
    have := decidableAreWellFormed ts
    inferInstanceAs (Decidable (l.IsWellFormed ∧ lower l.name ∉ voidNames ∧
      lower l.name ∉ rawTextNames ∧ AreWellFormed ts))

/-- Whether every tree of a list is well formed can be computed. -/
def decidableAreWellFormed : (ts : List Tree) → Decidable (AreWellFormed ts)
  | [] => inferInstanceAs (Decidable True)
  | t :: ts =>
    have := t.decidableIsWellFormed
    have := decidableAreWellFormed ts
    inferInstanceAs (Decidable (t.IsWellFormed ∧ AreWellFormed ts))

end

instance (ts : List Tree) : Decidable (AreWellFormed ts) :=
  decidableAreWellFormed ts

/-! ### What should be found -/

/-- What is found about an element: its name, its attributes in their order, the places of its
tags, and its content. -/
structure Found where
  name : Text
  attributes : List (Text × Text)
  startTag : Span
  endTag : Option Span
  content : Text
  deriving DecidableEq, Repr

/-- What is found about an element of a text. -/
def Element.found (t : Text) (e : Element) : Found :=
  ⟨e.name, e.attributes.entries, e.startTag, e.endTag, extract t (some e)⟩

/-- What should be found about an element whose start tag, content and end tag are written from
the byte offset `offset` on. -/
def Label.found (l : Label) (offset : Nat) (start content close : Text) : Found where
  name := lower l.name
  attributes := l.entries
  startTag := ⟨offset, offset + byteLength start⟩
  endTag := some ⟨offset + byteLength (start ++ content),
    offset + byteLength (start ++ content ++ close)⟩
  content := content

/-- What should be found about a tree that is written from the byte offset `offset` on; nothing
unless the tree is an element. -/
def Tree.found? (offset : Nat) : Tree → Option Found
  | .void l => some (l.found offset (l.opening ++ ['>']) [] [])
  | .selfClosed l => some (l.found offset (l.opening ++ ['/', '>']) [] [])
  | .raw l content => some (l.found offset (l.opening ++ ['>']) content l.closing)
  | .element l ts => some (l.found offset (l.opening ++ ['>']) (renderAll ts) l.closing)
  | _ => none

/-- What should be found about trees that are written from the byte offset `offset` on. -/
def foundFrom (offset : Nat) : List Tree → List Found
  | [] => []
  | t :: ts => (t.found? offset).toList ++ foundFrom (offset + byteLength t.render) ts

/-! ### Tags and tokens of well-formed trees -/

variable {c : Char} {offset : Nat} {l : Label} {e : Element} {inner : List Text} {ts : List Tree}

theorem isNameEnd_eq_false_of_isWordChar (h : isWordChar c = true) : isNameEnd c = false := by
  rw [Bool.eq_false_iff]
  intro e
  simp only [isNameEnd, isSpace, Bool.or_eq_true, beq_iff_eq] at e
  obtain ((((((rfl | rfl) | rfl) | rfl) | rfl) | rfl) | rfl) := e <;> cases h

theorem isNameChar_of_isWordChar (h : isWordChar c = true) : Attribute.isNameChar c = true := by
  have hne : c ≠ '=' := by
    rintro rfl
    cases h
  simp [Attribute.isNameChar, isNameEnd_eq_false_of_isWordChar h, hne]

namespace Label

/-- The attributes of a label as the reader finds them. -/
def asAttribute (a : Text × Text) : Attribute :=
  ⟨[' '], a.1, some ⟨[], [], .quoted .double a.2⟩⟩

/-- The start tag of a label as the reader finds it. -/
def tag (l : Label) (selfClosing : Bool) : StartTag :=
  ⟨l.name, l.attributes.map asAttribute, [], selfClosing⟩

theorem spelling_asAttribute (a : Text × Text) : (asAttribute a).spelling = renderAttribute a := by
  simp [asAttribute, Attribute.spelling, Assignment.spelling, Value.spelling, Quote.mark,
    renderAttribute]

theorem spelling_tag (l : Label) (selfClosing : Bool) :
    (l.tag selfClosing).spelling = l.opening ++ StartTag.ending [] selfClosing := by
  have hattrs : (fun a ↦ (asAttribute a).spelling) = renderAttribute := funext spelling_asAttribute
  simp [StartTag.spelling, tag, opening, List.flatMap_map, hattrs]

theorem spelling_tag_false (l : Label) : (l.tag false).spelling = l.opening ++ ['>'] :=
  l.spelling_tag false

theorem spelling_tag_true (l : Label) : (l.tag true).spelling = l.opening ++ ['/', '>'] :=
  l.spelling_tag true

theorem isBody_attributes {selfClosing : Bool} {as : List (Text × Text)}
    (h : ∀ a ∈ as, a.1 ≠ [] ∧ (∀ c ∈ a.1, isWordChar c = true) ∧ '"' ∉ a.2) :
    StartTag.IsBody [] selfClosing (as.map asAttribute) := by
  induction as with
  | nil => simp [StartTag.IsBody, IsGap]
  | cons a as ih =>
    obtain ⟨⟨hne, hword, hquote⟩, has⟩ := List.forall_mem_cons.mp h
    have hgap : IsGap a.1 [' '] := by simp [IsGap, isSpace]
    refine ⟨hgap, ⟨.inr ⟨hne, fun c hc ↦ isNameChar_of_isWordChar (hword c hc), ?_⟩, ?_⟩, ih has⟩
    · rintro c ⟨⟩
      rfl
    · refine ⟨by simp, by simp, ?_, hquote⟩
      rintro c ⟨⟩
      rfl

/-- The start tag of a well-formed label is the one that is read. -/
theorem IsWellFormed.isWritten_tag (h : l.IsWellFormed) (selfClosing : Bool) :
    (l.tag selfClosing).IsWritten := by
  obtain ⟨hfirst, hname, hattrs, -⟩ := h
  refine ⟨hfirst, fun c hc ↦ isNameEnd_eq_false_of_isWordChar (hname c hc), ?_,
    isBody_attributes hattrs⟩
  cases hl : l.attributes with
  | nil => cases selfClosing <;> simp [tag, hl, StartTag.ending, isNameEnd]
  | cons a as =>
    simp only [tag, hl, List.map_cons, List.flatMap_cons, spelling_asAttribute]
    rintro c ⟨⟩
    rfl

/-- The end tag of a well-formed label is read whatever follows. -/
theorem IsWellFormed.isRead_endTag (h : l.IsWellFormed) (rest : Text) :
    Token.IsRead rest (.endTag l.name ['>']) := by
  obtain ⟨⟨c, hc, -⟩, hname, -⟩ := h
  refine .endTag ?_ (fun c hc ↦ isNameEnd_eq_false_of_isWordChar (hname c hc)) ?_
    (.inl ⟨[], rfl, List.not_mem_nil⟩)
  · rintro hnil
    simp [hnil] at hc
  · rintro c ⟨⟩
    rfl

theorem spelling_endTag (l : Label) : (Token.endTag l.name ['>']).spelling = l.closing := by
  simp [Token.spelling, closing, closingTag]

end Label

/-- A declaration ends where it is written, unless it begins like a comment. -/
theorem isRead_declaration {d : Text} (hend : '>' ∉ d) (hcomment : ¬['-', '-'] <+: d)
    (rest : Text) : Token.IsRead rest (.declaration (['<', '!'] ++ d ++ ['>'])) := by
  refine .declaration (.inl ⟨d ++ ['>'], rfl, fun hlong ↦ ?_⟩) (.inl ⟨['<', '!'] ++ d, rfl, ?_⟩)
  · match d, hcomment with
    | [], _ => simp at hlong
    | [c], _ => simp at hlong
    | c :: c' :: d, hcomment =>
      refine hcomment ?_
      simpa [List.cons_prefix_cons] using hlong
  · simpa using hend

/-- An instruction ends where it is written. -/
theorem isRead_instruction {d : Text} (hend : '>' ∉ d) (rest : Text) :
    Token.IsRead rest (.declaration (['<', '?'] ++ d ++ ['>'])) :=
  .declaration (.inr ⟨d ++ ['>'], rfl⟩) (.inl ⟨['<', '?'] ++ d, rfl, by simpa using hend⟩)

namespace Label

theorem isWhole_tag_false_iff : (l.tag false).isWhole = true ↔ lower l.name ∈ voidNames := by
  simp [StartTag.isWhole, StartTag.lowerName, tag]

theorem opensRawText_tag_false_iff :
    (l.tag false).opensRawText = true ↔
      lower l.name ∉ voidNames ∧ lower l.name ∈ rawTextNames := by
  simp [StartTag.opensRawText, StartTag.isWhole, StartTag.lowerName, tag]

theorem isWhole_tag_false (h : lower l.name ∉ voidNames) : (l.tag false).isWhole = false :=
  Bool.eq_false_iff.mpr fun hwhole ↦ h (isWhole_tag_false_iff.mp hwhole)

theorem opensRawText_tag_false (h : lower l.name ∉ rawTextNames) :
    (l.tag false).opensRawText = false :=
  Bool.eq_false_iff.mpr fun hraw ↦ h (opensRawText_tag_false_iff.mp hraw).2

/-- Raw text without an end tag of its element ends where it is closed. -/
theorem isWritten_rawText {content : Text} (hraw : lower l.name ∈ rawTextNames)
    (hcontent : RawText.split? (lower l.name) content = none) (rest : Text) :
    RawText.IsWritten (l.tag false).lowerName ⟨content, l.closing, rest⟩ := by
  have hname : '<' ∉ lower (lower l.name) := by
    rw [lower_lower]
    exact (by decide : ∀ n ∈ rawTextNames, '<' ∉ n) _ hraw
  exact (RawText.split?_eq_none_iff.mp hcontent).isWritten hname
    (isEndTag_closingTag (lower_lower l.name).symm rest)

theorem opensRawText_tag_false_of_mem (hraw : lower l.name ∈ rawTextNames) :
    (l.tag false).opensRawText = true :=
  opensRawText_tag_false_iff.mpr ⟨(by decide : ∀ n ∈ rawTextNames, n ∉ voidNames) _ hraw, hraw⟩

theorem spelling_rawElement (l : Label) (content : Text) :
    (Token.rawElement (l.tag false) content (some l.closing)).spelling =
      l.opening ++ ['>'] ++ content ++ l.closing := by
  rw [Token.spelling, spelling_tag_false, Option.getD_some]

end Label

/-! ### Trees inside an element -/

/-- A tag that is a whole element leaves the elements around it open. -/
theorem elementsAt_append_whole_inside {tag : StartTag} (htag : tag.IsWritten)
    (hwhole : tag.isWhole = true) (rest : Text) :
    elementsAt offset (some ⟨e, inner⟩) (tag.spelling ++ rest) =
      elementsAt (offset + byteLength tag.spelling) (some ⟨e, inner⟩) rest := by
  have hread : Token.IsRead rest (.startTag tag) :=
    .startTag htag (opensRawText_of_isWhole hwhole)
  exact elementsAt_append_inside hread (by simp [stepInside, hwhole])

mutual

/-- A well-formed tree leaves the elements around it open. -/
theorem Tree.elementsAt_render_append_inside (t : Tree) (ht : t.IsWellFormed) (offset : Nat)
    (inner : List Text) (rest : Text) :
    elementsAt offset (some ⟨e, inner⟩) (t.render ++ rest) =
      elementsAt (offset + byteLength t.render) (some ⟨e, inner⟩) rest := by
  cases t with
  | text t => exact elementsAt_append_plain ht
  | comment c => exact elementsAt_append_inside (.comment ht) rfl
  | declaration d => exact elementsAt_append_inside (isRead_declaration ht.1 ht.2 rest) rfl
  | instruction d => exact elementsAt_append_inside (isRead_instruction ht rest) rfl
  | void l =>
    rw [Tree.render, ← Label.spelling_tag_false]
    exact elementsAt_append_whole_inside (ht.1.isWritten_tag false)
      (Label.isWhole_tag_false_iff.mpr ht.2) rest
  | selfClosed l =>
    rw [Tree.render, ← Label.spelling_tag_true]
    exact elementsAt_append_whole_inside (Label.IsWellFormed.isWritten_tag ht true) rfl rest
  | raw l content =>
    obtain ⟨hl, hraw, hcontent⟩ := ht
    rw [Tree.render, ← Label.spelling_rawElement]
    exact elementsAt_append_inside (.rawElement (hl.isWritten_tag false)
      (Label.opensRawText_tag_false_of_mem hraw) (Label.isWritten_rawText hraw hcontent rest)) rfl
  | element l ts =>
    obtain ⟨hl, hvoid, hraw, hts⟩ := ht
    have hwhole := Label.isWhole_tag_false hvoid
    have hopens := Label.opensRawText_tag_false hraw
    have hstep : stepInside e.name inner (.startTag (l.tag false)) =
        some (lower l.name :: inner) := by
      simp only [stepInside, hwhole, Bool.false_eq_true, if_false]
      rfl
    have hread : Token.IsRead (renderAll ts ++ (l.closing ++ rest)) (.startTag (l.tag false)) :=
      .startTag (hl.isWritten_tag false) hopens
    have hopen : elementsAt offset (some ⟨e, inner⟩)
        (l.opening ++ ['>'] ++ (renderAll ts ++ (l.closing ++ rest))) =
        elementsAt (offset + byteLength (l.opening ++ ['>'])) (some ⟨e, lower l.name :: inner⟩)
          (renderAll ts ++ (l.closing ++ rest)) := by
      rw [← Label.spelling_tag_false]
      exact elementsAt_append_inside hread hstep
    have hchildren := elementsAt_renderAll_append_inside ts hts
      (offset + byteLength (l.opening ++ ['>'])) (lower l.name :: inner) (l.closing ++ rest)
    have hback : stepInside e.name (lower l.name :: inner) (.endTag l.name ['>']) =
        some inner := by
      simp [stepInside]
    have hclose (offset : Nat) :
        elementsAt offset (some ⟨e, lower l.name :: inner⟩) (l.closing ++ rest) =
          elementsAt (offset + byteLength l.closing) (some ⟨e, inner⟩) rest := by
      rw [← Label.spelling_endTag]
      exact elementsAt_append_inside (hl.isRead_endTag rest) hback
    rw [Tree.render, List.append_assoc, List.append_assoc, hopen, hchildren, hclose]
    simp only [byteLength_append, Nat.add_assoc]

/-- Well-formed trees leave the elements around them open. -/
theorem elementsAt_renderAll_append_inside (ts : List Tree) (hts : AreWellFormed ts)
    (offset : Nat) (inner : List Text) (rest : Text) :
    elementsAt offset (some ⟨e, inner⟩) (renderAll ts ++ rest) =
      elementsAt (offset + byteLength (renderAll ts)) (some ⟨e, inner⟩) rest := by
  cases ts with
  | nil => rfl
  | cons t ts =>
    have htree := t.elementsAt_render_append_inside hts.1 offset inner
      (renderAll ts ++ rest)
    have htrees := elementsAt_renderAll_append_inside ts hts.2
      (offset + byteLength t.render) inner rest
    rw [renderAll, List.append_assoc, htree, htrees, byteLength_append, Nat.add_assoc]

end

/-! ### Trees at the top level -/

namespace Label

/-- The dictionary of the start tag of a well-formed label holds its attributes as they are. -/
theorem IsWellFormed.entries_dict_tag (h : l.IsWellFormed) (selfClosing : Bool) :
    (l.tag selfClosing).dict.entries = l.entries := by
  have hentries : (l.tag selfClosing).attributes.map (fun a ↦ (lower a.name, a.valueText)) =
      l.entries := by
    simp [tag, entries, asAttribute, Attribute.valueText, Value.text]
  have hnodup := h.2.2.2
  rw [← hentries, List.map_map] at hnodup
  rw [StartTag.entries_dict hnodup, hentries]

/-- What is found about an element whose parts stand one after another in a text. -/
theorem IsWellFormed.found_elementWith (h : l.IsWellFormed) (selfClosing : Bool)
    (before content close rest : Text) :
    Element.found (before ++ ((l.tag selfClosing).spelling ++ content ++ close) ++ rest)
        ((l.tag selfClosing).elementWith (byteLength before) content close) =
      l.found (byteLength before) (l.tag selfClosing).spelling content close := by
  rw [Element.found, extract_elementWith]
  exact congrArg (Found.mk _ · _ _ _) (h.entries_dict_tag selfClosing)

/-- An element of well-formed trees is found. -/
theorem IsWellFormed.elementsAt_append_element (hl : l.IsWellFormed)
    (hvoid : lower l.name ∉ voidNames) (hraw : lower l.name ∉ rawTextNames)
    (hts : AreWellFormed ts) (offset : Nat) (rest : Text) :
    elementsAt offset none ((l.tag false).spelling ++ renderAll ts ++ l.closing ++ rest) =
      (l.tag false).elementWith offset (renderAll ts) l.closing ::
        elementsAt (offset + byteLength ((l.tag false).spelling ++ renderAll ts ++ l.closing))
          none rest := by
  have hchildren := elementsAt_renderAll_append_inside
    (e := (l.tag false).element offset) ts hts
    (offset + byteLength (l.tag false).spelling) [] (l.closing ++ rest)
  rw [List.append_assoc, List.append_assoc, elementsAt_append_open (hl.isWritten_tag false)
    (isWhole_tag_false hvoid) (opensRawText_tag_false hraw), hchildren, ← spelling_endTag,
    elementsAt_append_endTag (hl.isRead_endTag rest) rfl List.not_mem_nil]
  simp only [StartTag.elementWith, closingSpan, byteLength_append, Nat.add_assoc]

end Label

namespace Tree

/-- What is found about a well-formed tree that stands in a text. -/
theorem found_render_append (t : Tree) (ht : t.IsWellFormed) (before rest : Text) :
    (elementsAt (byteLength before) none (t.render ++ rest)).map
        (Element.found (before ++ t.render ++ rest)) =
      (t.found? (byteLength before)).toList ++
        (elementsAt (byteLength (before ++ t.render)) none rest).map
          (Element.found (before ++ t.render ++ rest)) := by
  rw [byteLength_append before]
  cases t with
  | text t =>
    rw [render, elementsAt_append_plain ht]
    rfl
  | comment c =>
    have hread : Token.IsRead rest (.comment (['<', '!', '-', '-'] ++ c ++ ['-', '-', '>'])) :=
      .comment ht
    exact congrArg (List.map _) (elementsAt_append_of_not_beginsElement hread id)
  | declaration d =>
    exact congrArg (List.map _)
      (elementsAt_append_of_not_beginsElement (isRead_declaration ht.1 ht.2 rest) id)
  | instruction d =>
    exact congrArg (List.map _)
      (elementsAt_append_of_not_beginsElement (isRead_instruction ht rest) id)
  | void l =>
    have hfollowed : (l.tag false).IsFollowedBy rest [] [] :=
      .whole (Label.isWhole_tag_false_iff.mpr ht.2)
    have happ := hfollowed.elementsAt_append (ht.1.isWritten_tag false) (byteLength before)
    have hfound := ht.1.found_elementWith false before [] [] rest
    rw [List.append_nil, List.append_nil] at happ hfound
    rw [render, found?, ← Label.spelling_tag_false, happ, List.map_cons, hfound]
    rfl
  | selfClosed l =>
    have hl : l.IsWellFormed := ht
    have hfollowed : (l.tag true).IsFollowedBy rest [] [] := .whole rfl
    have happ := hfollowed.elementsAt_append (hl.isWritten_tag true) (byteLength before)
    have hfound := hl.found_elementWith true before [] [] rest
    rw [List.append_nil, List.append_nil] at happ hfound
    rw [render, found?, ← Label.spelling_tag_true, happ, List.map_cons, hfound]
    rfl
  | raw l content =>
    obtain ⟨hl, hraw, hcontent⟩ := ht
    have hfollowed : (l.tag false).IsFollowedBy rest content l.closing :=
      .raw (Label.opensRawText_tag_false_of_mem hraw) (Label.isWritten_rawText hraw hcontent rest)
    have happ := hfollowed.elementsAt_append (hl.isWritten_tag false) (byteLength before)
    have hfound := hl.found_elementWith false before content l.closing rest
    rw [render, found?, ← Label.spelling_tag_false, happ, List.map_cons, hfound]
    rfl
  | element l ts =>
    obtain ⟨hl, hvoid, hraw, hts⟩ := ht
    have happ := hl.elementsAt_append_element hvoid hraw hts (byteLength before) rest
    have hfound := hl.found_elementWith false before (renderAll ts) l.closing rest
    rw [render, found?, ← Label.spelling_tag_false, happ, List.map_cons, hfound]
    rfl

end Tree

/-- What is found about well-formed trees that stand at the end of a text. -/
theorem found_renderAll (ts : List Tree) (hts : AreWellFormed ts) (before : Text) :
    (elementsAt (byteLength before) none (renderAll ts)).map
        (Element.found (before ++ renderAll ts)) = foundFrom (byteLength before) ts := by
  induction ts generalizing before with
  | nil => simp [renderAll, foundFrom]
  | cons t ts ih =>
    have hrest := ih hts.2 (before ++ t.render)
    rw [renderAll, foundFrom, ← List.append_assoc, t.found_render_append hts.1, hrest,
      byteLength_append]

/-- Of a text that is written from well-formed trees, the elements at the top level are found in
their order, each with its lower-case name, its attributes in the order in which they are written,
the places of its tags, and exactly what is written between these. -/
theorem elements_renderAll (ts : List Tree) (hts : AreWellFormed ts) :
    (elements (renderAll ts)).map (Element.found (renderAll ts)) = foundFrom 0 ts :=
  found_renderAll ts hts []

/-- Trees of every kind, in which ends of other trees occur as text. -/
def sampleTrees : List Tree :=
  [.declaration "DOCTYPE html".toList, .comment " <p> -> </div> ".toList,
    .element ⟨"DIV".toList, [("Id".toList, "</div>".toList), ("a-1".toList, [])]⟩
      [.text "x > ".toList, .element ⟨"div".toList, []⟩ [.comment "</div>".toList],
        .raw ⟨"style".toList, []⟩ "</div></styles>".toList, .void ⟨"br".toList, []⟩],
    .instruction "a='</p'".toList,
    .raw ⟨"Script".toList, [("lang".toList, "ts".toList)]⟩ "if (a</b/i) </scripts".toList,
    .selfClosed ⟨"my-part".toList, [("if".toList, "a > 'b'".toList)]⟩]

theorem elements_renderAll_sampleTrees :
    AreWellFormed sampleTrees ∧
      (elements (renderAll sampleTrees)).map (Element.found (renderAll sampleTrees)) =
        [⟨"div".toList, [("id".toList, "</div>".toList), ("a-1".toList, [])],
            ⟨37, 61⟩, some ⟨123, 129⟩,
            "x > <div><!--</div>--></div><style></div></styles></style><br>".toList⟩,
          ⟨"script".toList, [("lang".toList, "ts".toList)], ⟨139, 157⟩, some ⟨178, 187⟩,
            "if (a</b/i) </scripts".toList⟩,
          ⟨"my-part".toList, [("if".toList, "a > 'b'".toList)], ⟨187, 210⟩,
            some ⟨210, 210⟩, []⟩] :=
  ⟨by decide +kernel,
    (elements_renderAll sampleTrees (by decide +kernel)).trans (by decide +kernel)⟩

end ComponentFile.Markup
