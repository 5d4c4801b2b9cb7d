import ComponentFile.Proofs.Markup.Location

/-!
# Contents of elements

An element that was found falls into its start tag, its content and its end tag, and the content is
of the kind that its start tag asks for.  Conversely, where these parts stand one after another an
element is found, with exactly that content.

## Main results

* `StartTag.IsFollowedBy.elementsAt_append` : where the parts of an element stand one after another,
  an element is found.
* `isEnclosed_extract` : the content of a closed element without raw text is enclosed.
* `hasNoEndTag_extract` : raw text has no end tag of its element in it.
-/

namespace ComponentFile.Markup

open Text

variable {e : Element} {tag : StartTag} {t before content close after : Text}

/-! ### From the parts to the element -/

/-- An end tag of an element that was read is a token. -/
theorem IsEndTag.exists_isRead (h : IsEndTag tag.lowerName after close) (htag : tag.IsWritten) :
    ∃ n tail, close = (Token.endTag n tail).spelling ∧ lower n = tag.lowerName ∧
      Token.IsRead after (.endTag n tail) := by
  obtain ⟨n, tail, rfl, hn, htail, hend⟩ := h
  rw [StartTag.lowerName, lower_lower] at hn
  obtain ⟨⟨c, hc, -⟩, hname, -⟩ := htag
  refine ⟨n, tail, rfl, hn, .endTag ?_ (fun d hd ↦ ?_) htail hend⟩
  · rintro rfl
    rw [eq_comm, lower, lower, List.map_nil, List.map_eq_nil_iff] at hn
    simp [hn] at hc
  · obtain ⟨d', hd', hlower⟩ := List.mem_map.mp (hn ▸ toLower_mem_lower hd)
    rw [← isNameEnd_toLower, ← hlower, isNameEnd_toLower, hname d' hd']

/-- The place of an end tag behind a start tag and a content. -/
def closingSpan (offset : Nat) (start content close : Text) : Span :=
  ⟨offset + byteLength (start ++ content), offset + byteLength (start ++ content ++ close)⟩

/-- The element of a start tag that is written at an offset and followed by a content and an end
tag. -/
def StartTag.elementWith (tag : StartTag) (offset : Nat) (content close : Text) : Element :=
  { tag.element offset with endTag := some (closingSpan offset tag.spelling content close) }

/-- Where the parts of an element stand one after another, an element is found. -/
theorem StartTag.IsFollowedBy.elementsAt_append (h : tag.IsFollowedBy after content close)
    (htag : tag.IsWritten) (offset : Nat) :
    elementsAt offset none (tag.spelling ++ content ++ close ++ after) =
      tag.elementWith offset content close ::
        elementsAt (offset + byteLength (tag.spelling ++ content ++ close)) none after := by
  cases h with
  | whole hwhole =>
    simpa [elementWith, closingSpan] using elementsAt_append_whole htag hwhole
  | raw hraw hclose => exact elementsAt_append_raw (.rawElement htag hraw hclose)
  | nested hraw hwhole hcontent hclose =>
    obtain ⟨n, tail, rfl, hn, hread⟩ := hclose.exists_isRead htag
    rw [List.append_assoc, List.append_assoc, elementsAt_append_open htag hwhole hraw,
      hcontent.elementsAt_append (e := tag.element offset) hread hn]
    simp only [elementWith, closingSpan, byteLength_append, Nat.add_assoc]

/-- The content of an element whose parts stand one after another in a text. -/
theorem extract_elementWith (before after : Text) :
    extract (before ++ (tag.spelling ++ content ++ close) ++ after)
      (some (tag.elementWith (byteLength before) content close)) = content := by
  have hcontent := extract_append before tag.spelling content (close ++ after)
    (e := tag.elementWith (byteLength before) content close) rfl rfl
    (by simp [closingSpan, StartTag.elementWith, StartTag.element, Nat.add_assoc])
  simpa using hcontent

/-! ### From the element to the parts -/

/-- What is known about the content of an element that was found. -/
theorem Element.IsPlaced.extract_cases (h : e.IsPlaced t) :
    (∃ tag after close, e.name = StartTag.lowerName tag ∧
      tag.IsFollowedBy after (extract t (some e)) close) ∨
    (e.endTag = none ∧ ∃ tag, e.name = StartTag.lowerName tag ∧ tag.isWhole = false ∧
      (tag.opensRawText = true → RawText.HasNoEndTag e.name (extract t (some e)))) := by
  cases h with
  | @closed tag before content close after htag ht he hclose =>
    have hcontent : extract t (some e) = content := by
      rw [ht]
      exact extract_append before tag.spelling content (close ++ after) (by rw [he]; rfl)
        (by rw [he]) (by rw [he]; rfl)
    refine .inl ⟨tag, after, close, by rw [he]; rfl, ?_⟩
    rwa [hcontent]
  | @unclosed tag before content htag ht he hwhole hopen =>
    have hcontent : extract t (some e) = content := by
      have hslice := slice?_append (before ++ tag.spelling) content []
      rw [List.append_nil, List.append_assoc, ← byteLength_append, List.append_assoc,
        ← ht] at hslice
      have hstop : e.contentStop t = byteLength t := by rw [he]; rfl
      have hstart : e.contentStart = byteLength (before ++ tag.spelling) := by
        rw [he, byteLength_append]; rfl
      rw [extract_eq_getD_slice?, hstart, hstop, hslice, Option.getD_some]
    refine .inr ⟨by rw [he]; rfl, tag, by rw [he]; rfl, hwhole, fun hraw ↦ ?_⟩
    rw [hcontent, he]
    exact hopen hraw

/-- The content of a closed element without raw text is enclosed. -/
theorem isEnclosed_extract (he : e ∈ elements t) (hend : e.endTag.isSome = true)
    (hname : e.name ∉ rawTextNames) : IsEnclosed e.name (extract t (some e)) := by
  obtain ⟨tag, after, close, htag, h⟩ | ⟨hnone, -⟩ := (isPlaced_of_mem_elements he).extract_cases
  · generalize extract t (some e) = content at h
    cases h with
    | whole _ => exact isEnclosed_nil _
    | raw hraw _ =>
      rw [htag] at hname
      simp [StartTag.opensRawText, hname] at hraw
    | nested _ _ hcontent _ => rwa [htag]
  · rw [hnone] at hend
    cases hend

/-- A text in which no end tag begins as long as one follows has none in it, unless it ends with
the beginning of one. -/
theorem RawText.IsWritten.hasNoEndTag {name : Text} (h : IsWritten name ⟨content, close, after⟩)
    (hsuffix : ¬('<' :: '/' :: lower name <:+ lower content)) : HasNoEndTag name content := by
  rintro p s rfl hs
  rw [Bool.eq_false_iff]
  intro hstart
  obtain ⟨n, r, rfl, hn, hr⟩ := startsEndTag_iff.mp hstart
  cases r with
  | nil =>
    apply hsuffix
    have hlower : lower ('<' :: '/' :: n) = '<' :: '/' :: lower name := by
      rw [← hn, lower_cons, lower_cons, toLower_eq_of_isAlpha_eq_false rfl,
        toLower_eq_of_isAlpha_eq_false rfl]
    refine ⟨lower p, ?_⟩
    rw [List.append_nil, ← hlower]
    simp only [lower, List.map_append]
  | cons c r =>
    have hlong := h.1 p _ rfl hs
    rw [Bool.eq_false_iff] at hlong
    exact hlong (startsEndTag_iff.mpr ⟨n, c :: r ++ close, by simp, hn, by simpa using hr⟩)

/-- Raw text has no end tag of its element in it, unless it ends with the beginning of one. -/
theorem hasNoEndTag_extract (he : e ∈ elements t) (hname : e.name ∈ rawTextNames)
    (hsuffix : ¬('<' :: '/' :: lower e.name <:+ lower (extract t (some e)))) :
    RawText.HasNoEndTag e.name (extract t (some e)) := by
  obtain ⟨tag, after, close, htag, h⟩ | ⟨-, tag, htag, hwhole, hopen⟩ :=
    (isPlaced_of_mem_elements he).extract_cases
  · generalize extract t (some e) = content at h hsuffix ⊢
    cases h with
    | whole _ => exact RawText.hasNoEndTag_nil _
    | raw hraw hclose => exact (htag ▸ hclose).hasNoEndTag hsuffix
    | nested hraw hwhole _ _ =>
      rw [htag] at hname
      simp [StartTag.opensRawText, hwhole, hname] at hraw
  · rw [htag] at hname
    exact hopen (by simp [StartTag.opensRawText, hwhole, hname])

end ComponentFile.Markup
