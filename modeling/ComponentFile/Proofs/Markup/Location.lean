import ComponentFile.Markup.Block
import ComponentFile.Proofs.Markup.Enclosure
import ComponentFile.Proofs.Text.Offsets

/-!
# Places of elements

The places of the tags of a top-level element are offsets into the text.  That they are right is
shown once, by writing the text as what stands before the element, its start tag, its content, its
end tag and what stands behind it; every statement about offsets is read off from that.

## Main definitions

* `Element.IsPlaced` : an element with the parts of the text that it was read from.
* `Element.IsLocatedIn` : what the offsets of an element say about the text.

## Main results

* `TopLevel.isPlaced` : every top-level element falls into its parts.
* `TopLevel.pairwise` : top-level elements follow one another, and only the last may be open.
* `elements_located` : the offsets of all elements fit the text and each other.
-/

namespace ComponentFile.Markup

open Text

variable {t : Text} {offset : Nat} {k : Token} {ks : List Token} {e : Element} {es : List Element}

/-! ### The parts of an element -/

/-- What may follow a start tag in front of the text `after`: nothing when the tag is a whole
element, raw text with its end tag, or an enclosed text with an end tag. -/
inductive StartTag.IsFollowedBy (tag : StartTag) (after : Text) : Text → Text → Prop
  | whole (htag : tag.isWhole = true) : IsFollowedBy tag after [] []
  | raw {content close : Text} (htag : tag.opensRawText = true)
      (hclose : RawText.IsWritten tag.lowerName ⟨content, close, after⟩) :
      IsFollowedBy tag after content close
  | nested {content close : Text} (hraw : tag.opensRawText = false)
      (hwhole : tag.isWhole = false) (hcontent : IsEnclosed tag.lowerName content)
      (hclose : IsEndTag tag.lowerName after close) : IsFollowedBy tag after content close

/-- What follows a start tag is an end tag, or nothing at all. -/
theorem StartTag.IsFollowedBy.isEndTag {tag : StartTag} {content close after : Text}
    (h : tag.IsFollowedBy after content close) :
    (content = [] ∧ close = []) ∨ IsEndTag tag.lowerName after close := by
  cases h with
  | whole _ => exact .inl ⟨rfl, rfl⟩
  | raw _ hclose => exact .inr hclose.2
  | nested _ _ _ hclose => exact .inr hclose

/-- An element of the text `t` with the parts of the text that it was read from.  Raw text without
an end tag has no end tag in it. -/
inductive Element.IsPlaced (t : Text) (e : Element) : Prop
  | closed {tag : StartTag} {before content close after : Text} (htag : tag.IsWritten)
      (ht : t = before ++ (tag.spelling ++ (content ++ (close ++ after))))
      (he : e = { tag.element (byteLength before) with
        endTag := some ⟨byteLength before + byteLength tag.spelling + byteLength content,
          byteLength before + byteLength tag.spelling + byteLength content + byteLength close⟩ })
      (hclose : tag.IsFollowedBy after content close)
  | unclosed {tag : StartTag} {before content : Text} (htag : tag.IsWritten)
      (ht : t = before ++ (tag.spelling ++ content)) (he : e = tag.element (byteLength before))
      (hwhole : tag.isWhole = false)
      (hopen : tag.opensRawText = true → RawText.HasNoEndTag tag.lowerName content)

/-- Every top-level element falls into its parts. -/
theorem TopLevel.isPlaced (h : TopLevel offset ks es) (hread : Token.AreRead [] ks)
    (before : Text) (hbefore : byteLength before = offset) :
    ∀ e ∈ es, e.IsPlaced (before ++ ks.flatMap Token.spelling) := by
  induction h generalizing before with
  | nil => simp
  | @skip offset k ks es hk hks ih =>
    have hplaced := ih hread.2 (before ++ k.spelling) (by simp [hbefore])
    simpa using hplaced
  | @whole offset tag ks es htag hks ih =>
    have hplaced := ih hread.2 (before ++ tag.spelling) (by simp [hbefore])
    rintro e (_ | ⟨_, he⟩)
    · refine @Element.IsPlaced.closed _ _ tag before [] [] (ks.flatMap Token.spelling)
        hread.1.isWritten_startTag (by simp [Token.spelling]) ?_ (.whole htag)
      simp [hbefore]
    · simpa [Token.spelling] using hplaced e he
  | @raw offset tag content close ks es hks ih =>
    have hplaced := ih hread.2 (before ++ (Token.rawElement tag content close).spelling)
      (by simp [hbefore])
    rintro e (_ | ⟨_, he⟩)
    · have hwritten := hread.1.isWritten_rawElement
      cases hread.1 with
      | openRawElement _ hraw hcontent hrest =>
        have hnil : ks.flatMap Token.spelling = [] := by simpa using hrest
        refine @Element.IsPlaced.unclosed _ _ tag before content hwritten ?_ ?_
          (isWhole_of_opensRawText hraw) fun _ ↦ hcontent
        · simp [Token.spelling, hnil]
        · simp [rawEndTag, hbefore, StartTag.element]
      | @rawElement _ _ close _ hraw hclose =>
        rw [List.append_nil] at hclose
        refine @Element.IsPlaced.closed _ _ tag before content close (ks.flatMap Token.spelling)
          hwritten (by simp [Token.spelling]) ?_ (.raw hraw hclose)
        simp [rawEndTag, hbefore, Nat.add_assoc]
    · simpa [Token.spelling] using hplaced e he
  | @closed offset tag inside inner n tail ks es htag hinside hn hmem hks ih =>
    obtain ⟨hfirst, hread⟩ := Token.areRead_append_iff.mp hread
    have hplaced := ih hread.2
      (before ++ (Token.startTag tag :: inside ++ [Token.endTag n tail]).flatMap Token.spelling)
      (by simp [hbefore, Token.size])
    rintro e (_ | ⟨_, he⟩)
    · refine @Element.IsPlaced.closed _ _ tag before (inside.flatMap Token.spelling)
        (Token.endTag n tail).spelling (ks.flatMap Token.spelling)
        hfirst.1.isWritten_startTag (by simp [Token.spelling]) ?_
        (.nested hfirst.1.opensRawText_startTag htag
          ⟨inside, inner, rfl, hfirst.2.of_head?_eq rfl, hinside, hmem⟩ ?_)
      · simp [hbefore, Token.size, Token.spelling, Nat.add_assoc]
      · have hname : lower n = lower tag.lowerName := by rw [hn, StartTag.lowerName, lower_lower]
        simpa using hread.1.isEndTag hname
    · simpa using hplaced e he
  | @unclosed offset tag ks inner htag hks =>
    simp only [List.mem_singleton, forall_eq]
    refine @Element.IsPlaced.unclosed _ _ tag before (ks.flatMap Token.spelling)
      hread.1.isWritten_startTag (by simp [Token.spelling]) (by rw [hbefore]) htag fun hraw ↦ ?_
    rw [hread.1.opensRawText_startTag] at hraw
    cases hraw

/-- Top-level elements follow one another, and only the last may be open. -/
theorem TopLevel.pairwise (h : TopLevel offset ks es) (hread : Token.AreRead [] ks) :
    (∀ e ∈ es, offset ≤ e.startTag.start) ∧
      es.Pairwise fun e e' ↦ ∃ span, e.endTag = some span ∧ span.stop ≤ e'.startTag.start := by
  induction h with
  | nil => simp
  | @skip offset k ks es hk hks ih =>
    obtain ⟨hstart, hpair⟩ := ih hread.2
    exact ⟨fun e he ↦ (Nat.le_add_right _ _).trans (hstart e he), hpair⟩
  | @whole offset tag ks es htag hks ih =>
    obtain ⟨hstart, hpair⟩ := ih hread.2
    refine ⟨?_, List.pairwise_cons.mpr ⟨fun e he ↦ ⟨_, rfl, hstart e he⟩, hpair⟩⟩
    rintro e (_ | ⟨_, he⟩)
    · exact le_rfl
    · exact (Nat.le_add_right _ _).trans (hstart e he)
  | @raw offset tag content close ks es hks ih =>
    obtain ⟨hstart, hpair⟩ := ih hread.2
    refine ⟨?_, List.pairwise_cons.mpr ⟨fun e he ↦ ?_, hpair⟩⟩
    · rintro e (_ | ⟨_, he⟩)
      · exact le_rfl
      · exact (Nat.le_add_right _ _).trans (hstart e he)
    · cases close with
      | none =>
        -- without an end tag nothing follows, so there is no further element
        have hnil : ks.flatMap Token.spelling = [] := by
          cases hread.1 with
          | openRawElement _ _ _ hrest => simpa using hrest
        obtain rfl := hread.2.eq_nil_of_spelling hnil
        rw [hks.eq_nil] at he
        cases he
      | some close => exact ⟨_, rfl, by simpa [Token.spelling] using hstart e he⟩
  | @closed offset tag inside inner n tail ks es htag hinside hn hmem hks ih =>
    obtain ⟨hstart, hpair⟩ := ih (Token.areRead_append_iff.mp hread).2.2
    refine ⟨?_, List.pairwise_cons.mpr ⟨fun e he ↦ ⟨_, rfl, hstart e he⟩, hpair⟩⟩
    rintro e (_ | ⟨_, he⟩)
    · exact le_rfl
    · exact (Nat.le_add_right _ _).trans (hstart e he)
  | @unclosed offset tag ks inner htag hks =>
    simp [StartTag.element]

/-- Every element of a text falls into its parts. -/
theorem isPlaced_of_mem_elements (he : e ∈ elements t) : e.IsPlaced t := by
  have hplaced :=
    (topLevel_elementsFrom 0 (Token.ofText t)).isPlaced (Token.areRead_ofText t) [] rfl e he
  rwa [Token.flatMap_spelling_ofText] at hplaced

/-! ### Offsets -/

namespace Element

/-- The offset at which the content of an element ends; an element that is never closed goes on to
the end of the text. -/
def contentStop (t : Text) (e : Element) : Nat :=
  match e.endTag with
  | some span => span.start
  | none => byteLength t

/-- The offsets of the tags of an element. -/
def offsets (e : Element) : List Nat :=
  e.startTag.start :: e.startTag.stop :: e.endTag.elim [] fun span ↦ [span.start, span.stop]

/-- An end tag of the element `name` is written at a place of the text.  It goes on through the
next `>` or to the end of the text, and its name is followed by what ends a name. -/
def HasEndTagAt (t name : Text) (span : Span) : Prop :=
  ∃ n tail, slice? t span.start span.stop = some ('<' :: '/' :: (n ++ tail)) ∧
    lower n = name ∧ (∀ c ∈ tail.head?, isNameEnd c = true) ∧
    (tail = [] → span.stop = byteLength t) ∧
    (tail.getLast? = some '>' ∨ span.stop = byteLength t)

/-- The offsets of an element fit the text: its start tag begins with `<` and its name and ends
with `>`, and its end tag, if any, is the empty place behind the start tag or is written at its
place. -/
structure IsLocatedIn (t : Text) (e : Element) : Prop where
  startTag_lt : e.startTag.start < e.startTag.stop
  startTag_le : e.startTag.stop ≤ byteLength t
  startTag_text : ∃ n inside,
    slice? t e.startTag.start e.startTag.stop = some ('<' :: (n ++ (inside ++ ['>']))) ∧
      lower n = e.name
  endTag_le : ∀ span ∈ e.endTag,
    e.startTag.stop ≤ span.start ∧ span.start ≤ span.stop ∧ span.stop ≤ byteLength t
  endTag_text : ∀ span ∈ e.endTag,
    span = ⟨e.startTag.stop, e.startTag.stop⟩ ∨ HasEndTagAt t e.name span
  isBoundary : ∀ offset ∈ e.offsets, IsBoundary t offset

end Element

/-- A start tag begins with `<` and its name and ends with `>`. -/
theorem StartTag.exists_spelling_eq_append (tag : StartTag) :
    ∃ inside, tag.spelling = '<' :: (tag.name ++ (inside ++ ['>'])) := by
  refine ⟨tag.attributes.flatMap Attribute.spelling ++
    (tag.gap ++ if tag.selfClosing then ['/'] else []), ?_⟩
  cases h : tag.selfClosing <;> simp [spelling, ending, h]

theorem isBoundary_append (a b : Text) : IsBoundary (a ++ b) (byteLength a) :=
  ⟨a, b, rfl, rfl⟩

/-- An element that falls into its parts has the offsets of these parts. -/
theorem Element.IsPlaced.isLocatedIn (h : e.IsPlaced t) : e.IsLocatedIn t := by
  cases h with
  | @closed tag before content close after htag ht he hclose =>
    obtain ⟨inside, hinside⟩ := tag.exists_spelling_eq_append
    have hpos : 0 < byteLength tag.spelling := byteLength_pos (by simp [hinside])
    have hlen := congrArg byteLength ht
    simp only [byteLength_append] at hlen
    subst he
    refine ⟨by simpa [StartTag.element] using hpos, ?_, ?_, ?_, ?_, ?_⟩
    · simp only [StartTag.element]
      omega
    · rw [ht]
      exact ⟨tag.name, inside, by rw [← hinside]; exact slice?_append _ _ _, rfl⟩
    · rintro span ⟨⟩
      simp only [StartTag.element]
      omega
    · rintro span ⟨⟩
      obtain ⟨rfl, rfl⟩ | ⟨n, tail, hspell, hn, htail, hend⟩ := hclose.isEndTag
      · exact .inl (by simp [StartTag.element])
      · refine .inr ⟨n, tail, ?_, hn.trans (lower_lower tag.name), htail, ?_, ?_⟩
        · have hslice := slice?_append (before ++ (tag.spelling ++ content)) close after
          simpa [ht, ← hspell, Nat.add_assoc] using hslice
        · rintro rfl
          obtain ⟨p, hp, -⟩ | ⟨-, rfl⟩ := hend
          · simp at hp
          · simp [hlen, Nat.add_assoc]
        · obtain ⟨p, rfl, -⟩ | ⟨-, rfl⟩ := hend
          · exact .inl (by simp)
          · exact .inr (by simp [hlen, Nat.add_assoc])
    · have h₁ := isBoundary_append before (tag.spelling ++ (content ++ (close ++ after)))
      have h₂ := isBoundary_append (before ++ tag.spelling) (content ++ (close ++ after))
      have h₃ := isBoundary_append (before ++ tag.spelling ++ content) (close ++ after)
      have h₄ := isBoundary_append (before ++ tag.spelling ++ content ++ close) after
      simp only [List.append_assoc, byteLength_append, ← ht] at h₁ h₂ h₃ h₄
      simp [offsets, StartTag.element, Nat.add_assoc, h₁, h₂, h₃, h₄]
  | @unclosed tag before content htag ht he =>
    obtain ⟨inside, hinside⟩ := tag.exists_spelling_eq_append
    have hpos : 0 < byteLength tag.spelling := byteLength_pos (by simp [hinside])
    have hlen := congrArg byteLength ht
    simp only [byteLength_append] at hlen
    subst he
    refine ⟨by simpa [StartTag.element] using hpos, by simp [StartTag.element]; omega, ?_,
      by simp [StartTag.element], by simp [StartTag.element], ?_⟩
    · rw [ht]
      exact ⟨tag.name, inside, by rw [← hinside]; exact slice?_append _ _ _, rfl⟩
    · have h₁ := isBoundary_append before (tag.spelling ++ content)
      have h₂ := isBoundary_append (before ++ tag.spelling) content
      simp only [List.append_assoc, byteLength_append, ← ht] at h₁ h₂
      simp [offsets, StartTag.element, h₁, h₂]

/-! ### Contents -/

theorem extract_eq_getD_slice? (t : Text) (e : Element) :
    extract t (some e) = (slice? t e.contentStart (e.contentStop t)).getD [] := by
  cases h : e.endTag <;> simp [extract, Element.contentStop, h]

/-- The content of an element occurs in the text that it was found in. -/
theorem infix_extract (t : Text) (e? : Option Element) : extract t e? <:+: t := by
  cases e? with
  | none => exact List.nil_infix
  | some e =>
    rw [extract_eq_getD_slice?]
    cases h : slice? t e.contentStart (e.contentStop t) with
    | none => exact List.nil_infix
    | some content => exact infix_of_slice? h

/-- The content of an element is what stands between its tags. -/
theorem extract_append {span : Span} (before start content after : Text)
    (hstart : e.startTag.stop = byteLength before + byteLength start)
    (hend : e.endTag = some span) (hstop : span.start = e.startTag.stop + byteLength content) :
    extract (before ++ (start ++ (content ++ after))) (some e) = content := by
  have hslice := slice?_append (before ++ start) content after
  rw [byteLength_append, ← hstart, ← hstop, List.append_assoc] at hslice
  simp only [extract_eq_getD_slice?, Element.contentStop, hend, Element.contentStart, hslice,
    Option.getD_some]

/-- The content of an element that falls into its parts is one of these parts. -/
theorem Element.IsPlaced.slice?_eq (h : e.IsPlaced t) :
    slice? t e.contentStart (e.contentStop t) = some (extract t (some e)) := by
  rw [extract_eq_getD_slice?]
  suffices hslice : ∃ content, slice? t e.contentStart (e.contentStop t) = some content by
    obtain ⟨content, hcontent⟩ := hslice
    rw [hcontent, Option.getD_some]
  cases h with
  | @closed tag before content close after htag ht he hclose =>
    have hslice := slice?_append (before ++ tag.spelling) content (close ++ after)
    refine ⟨content, ?_⟩
    simpa [he, ht, StartTag.element, contentStart, contentStop] using hslice
  | @unclosed tag before content htag ht he =>
    have hslice := slice?_append (before ++ tag.spelling) content []
    refine ⟨content, ?_⟩
    simpa [he, ht, StartTag.element, contentStart, contentStop, Nat.add_assoc] using hslice

/-- The offsets of all top-level elements fit the text and each other: each element is located in
the text and its content is cut out there, only the last may be without an end tag, and every
other one ends before the next begins, so that contents do not overlap. -/
theorem elements_located (t : Text) :
    (∀ e ∈ elements t, e.IsLocatedIn t ∧
      slice? t e.contentStart (e.contentStop t) = some (extract t (some e))) ∧
    ((elements t).Pairwise fun e e' ↦
      ∃ span, e.endTag = some span ∧ span.stop ≤ e'.startTag.start) ∧
    (elements t).Pairwise fun e e' ↦ e.contentStop t ≤ e'.contentStart := by
  have hlocated : ∀ e ∈ elements t, e.IsLocatedIn t := fun e he ↦
    (isPlaced_of_mem_elements he).isLocatedIn
  have hpair :=
    ((topLevel_elementsFrom 0 (Token.ofText t)).pairwise (Token.areRead_ofText t)).2
  refine ⟨fun e he ↦ ⟨hlocated e he, (isPlaced_of_mem_elements he).slice?_eq⟩, hpair, ?_⟩
  refine hpair.imp_of_mem fun {e e'} he he' ⟨span, hspan, hle⟩ ↦ ?_
  have hspans := (hlocated e he).endTag_le span hspan
  have hstart := (hlocated e' he').startTag_lt
  simp only [Element.contentStop, hspan, Element.contentStart]
  omega

end ComponentFile.Markup
