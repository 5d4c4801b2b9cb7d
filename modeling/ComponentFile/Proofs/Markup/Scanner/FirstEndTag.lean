import ComponentFile.Proofs.Markup.Scanner.EndTag

/-!
# The first end tag of raw text

A search for the end of raw text goes from one `</` to the next and compares bytes.  It passes over
two bytes at each place that it rejects, and the bytes it compares may end inside a character.
Nothing is lost by that: what it finds is described here by single bytes of the text, wherever these
stand, and without the search.

## Main definitions

* `Scanner.HasEndTagAt` : the bytes of an end tag begin at an offset.
* `Scanner.IsTagEnd` : the offset behind the next `>`, or that of the end of the text.
* `Scanner.IsFirstEndTag` : the first end tag behind an offset.

## Main results

* `Scanner.hasEndTagAt_iff` : the bytes of an end tag are an end tag.
* `Scanner.isTagEnd_startOf` : a text is split behind the next `>`.
* `Scanner.isFirstEndTag_endTagPlace` : raw text is cut at the first end tag.
* `Scanner.findEndTag_finds_first` : a search finds the first end tag, if there is one.
-/

namespace ComponentFile.Markup.Scanner

open Text

variable {name q r s t : Text} {offset place : Nat} {raw : RawText}

/-! ### Bytes of an end tag -/

/-- The bytes that may stand behind the name in an end tag: white space, `/` and `>`. -/
def nameEnds : List UInt8 :=
  ['\t', '\n', '\x0c', '\r', ' ', '/', '>'].map Char.toUInt8

/-- At an offset stand the bytes of `</` and of the name in any case, and behind them one that ends
names unless the text ends there. -/
def HasEndTagAt (t name : Text) (place : Nat) : Prop :=
  (encode t)[place]? = some '<'.toUInt8 ∧ (encode t)[place + 1]? = some '/'.toUInt8 ∧
    (((encode t).drop (place + 2)).take (byteLength name)).map lowerByte =
      (encode name).map lowerByte ∧
    ∀ b ∈ (encode t)[place + 2 + byteLength name]?, b ∈ nameEnds

theorem mem_nameEnds_iff {b : UInt8} : b ∈ nameEnds ↔ isNameEndByte b = true := by
  simp only [nameEnds, List.map_cons, List.map_nil, List.mem_cons, List.not_mem_nil, or_false,
    isNameEndByte, isSpaceByte, Bool.or_eq_true, beq_iff_eq]
  tauto

theorem isAt_cons_cons_iff {c d : Char} (hc : c.toNat < 128) (hd : d.toNat < 128) :
    (encode t)[place]? = some c.toUInt8 ∧ (encode t)[place + 1]? = some d.toUInt8 ↔
      ∃ q, IsAt t place (c :: d :: q) := by
  rw [getElem?_encode_eq_some_iff hc]
  constructor
  · rintro ⟨⟨r, hr⟩, hnext⟩
    have hrest := hr.of_cons hc
    obtain ⟨q, rfl⟩ := List.head?_eq_some_iff.mp ((byteAt?_eq_some_iff hrest hd).mp hnext)
    exact ⟨q, hr⟩
  · rintro ⟨q, hq⟩
    exact ⟨⟨_, hq⟩, (byteAt?_eq_some_iff (hq.of_cons hc) hd).mpr rfl⟩

/-- Behind `</` and the name the next byte decides whether an end tag begins. -/
theorem startsEndTag_append_iff {w v : Text} (hw : lower w = lower name)
    (h : IsAt t place ('<' :: '/' :: (w ++ v))) :
    startsEndTag name ('<' :: '/' :: (w ++ v)) = true ↔
      ∀ b ∈ (encode t)[place + 2 + byteLength name]?, b ∈ nameEnds := by
  have hname : IsAt t (place + 2) (w ++ v) := (h.of_cons (by decide)).of_cons (by decide)
  have hstop : IsAt t (place + 2 + byteLength name) v :=
    byteLength_eq_of_lower_eq hw ▸ hname.append
  rw [startsEndTag_append_eq hw, ← all_byteAt? hstop isByteClass_isNameEndByte, byteAt?]
  cases (encode t)[place + 2 + byteLength name]? <;> simp [mem_nameEnds_iff]

/-- The bytes of an end tag are an end tag. -/
theorem hasEndTagAt_iff :
    HasEndTagAt t name place ↔ ∃ s, IsAt t place s ∧ startsEndTag name s = true := by
  rw [HasEndTagAt, ← and_assoc, isAt_cons_cons_iff (by decide) (by decide)]
  constructor
  · rintro ⟨⟨q, hq⟩, hword, hend⟩
    have hname : IsAt t (place + 2) q := (hq.of_cons (by decide)).of_cons (by decide)
    -- bytes that agree with a name are those of whole characters
    rw [hname.drop_encode, word_eq_iff] at hword
    obtain ⟨w, v, rfl, hw⟩ := hword
    exact ⟨_, hq, (startsEndTag_append_iff hw hq).mpr hend⟩
  · rintro ⟨s, hs, hstart⟩
    obtain ⟨w, v, rfl, hw, -⟩ := startsEndTag_iff.mp hstart
    have hname : IsAt t (place + 2) (w ++ v) := (hs.of_cons (by decide)).of_cons (by decide)
    refine ⟨⟨_, hs⟩, ?_, (startsEndTag_append_iff hw hs).mp hstart⟩
    rw [hname.drop_encode, word_eq_iff]
    exact ⟨w, v, rfl, hw⟩

/-! ### Bytes behind an offset -/

/-- Behind an offset an end tag begins exactly where one begins in the remaining text. -/
theorem hasEndTagAt_iff_of_isAt (h : IsAt t offset r) (hle : offset ≤ place) :
    HasEndTagAt t name place ↔
      ∃ p s, r = p ++ s ∧ place = offset + byteLength p ∧ startsEndTag name s = true := by
  rw [hasEndTagAt_iff]
  constructor
  · rintro ⟨s, hs, hstart⟩
    obtain ⟨p, hr, hplace⟩ := h.exists_eq_append hs hle
    exact ⟨p, s, hr, hplace, hstart⟩
  · rintro ⟨p, s, rfl, rfl, hstart⟩
    exact ⟨s, h.append, hstart⟩

/-- Without an end tag in the remaining text there is none behind the offset. -/
theorem hasNoEndTag_iff_of_isAt (h : IsAt t offset r) :
    RawText.HasNoEndTag name r ↔ ∀ place, offset ≤ place → ¬HasEndTagAt t name place := by
  constructor
  · intro hnone place hle hplace
    obtain ⟨p, s, hr, -, hstart⟩ := (hasEndTagAt_iff_of_isAt h hle).mp hplace
    have hne : s ≠ [] := by
      rintro rfl
      simp [startsEndTag] at hstart
    rw [hnone p s hr hne] at hstart
    cases hstart
  · intro hnone p s hr _
    rw [Bool.eq_false_iff]
    intro hstart
    have hle : offset ≤ offset + byteLength p := Nat.le_add_right _ _
    exact hnone _ hle ((hasEndTagAt_iff_of_isAt h hle).mpr ⟨p, s, hr, rfl, hstart⟩)

/-! ### The end of a tag -/

/-- The end of a tag whose name ends at an offset lies behind the next `>`, or at the end of the
text when there is none. -/
def IsTagEnd (t : Text) (offset stop : Nat) : Prop :=
  (∃ n, offset ≤ n ∧ (encode t)[n]? = some '>'.toUInt8 ∧ stop = n + 1 ∧
    ∀ m, offset ≤ m → (encode t)[m]? = some '>'.toUInt8 → n ≤ m) ∨
  (∀ n, offset ≤ n → (encode t)[n]? ≠ some '>'.toUInt8) ∧ stop = byteLength t

/-- Behind an offset the byte of a character stands exactly where the character stands in the
remaining text. -/
theorem getElem?_encode_eq_some_iff_of_isAt {c : Char} (h : IsAt t offset r) (hc : c.toNat < 128)
    (hle : offset ≤ place) :
    (encode t)[place]? = some c.toUInt8 ↔
      ∃ p s, r = p ++ c :: s ∧ place = offset + byteLength p := by
  rw [getElem?_encode_eq_some_iff hc]
  constructor
  · rintro ⟨s, hs⟩
    obtain ⟨p, hr, hplace⟩ := h.exists_eq_append hs hle
    exact ⟨p, s, hr, hplace⟩
  · rintro ⟨p, s, rfl, rfl⟩
    exact ⟨s, h.append⟩

/-- A text is split behind the next `>`, or at its end. -/
theorem isTagEnd_startOf (h : IsAt t offset (s ++ r)) (hthrough : IsThrough '>' r s) :
    IsTagEnd t offset (startOf t r) := by
  rw [← h.append.eq_startOf]
  obtain ⟨p, rfl, hp⟩ | ⟨hs, rfl⟩ := hthrough
  · left
    refine ⟨offset + byteLength p, Nat.le_add_right _ _, ?_, ?_, fun m hle hm ↦ ?_⟩
    · exact (getElem?_encode_eq_some_iff_of_isAt h (by decide) (Nat.le_add_right _ _)).mpr
        ⟨p, r, by simp, rfl⟩
    · rw [byteLength_append, ← Nat.add_assoc]
      rfl
    · obtain ⟨a, b, happ, rfl⟩ := (getElem?_encode_eq_some_iff_of_isAt h (by decide) hle).mp hm
      rw [List.append_assoc] at happ
      obtain ⟨m, rfl⟩ := isPrefix_of_append_eq hp happ
      rw [byteLength_append]
      omega
  · right
    refine ⟨fun n hle hn ↦ ?_, ?_⟩
    · obtain ⟨p, u, hps, -⟩ := (getElem?_encode_eq_some_iff_of_isAt h (by decide) hle).mp hn
      rw [List.append_nil] at hps
      exact hs (hps ▸ List.mem_append_right p List.mem_cons_self)
    · rw [h.append.eq_startOf]
      simp [startOf]

/-! ### The first end tag -/

/-- In front of the end tag that closes raw text no other one begins. -/
theorem byteLength_content_le {p s : Text} (h : raw.IsWritten name)
    (happ : raw.content ++ raw.endTag ++ raw.rest = p ++ s) (hstart : startsEndTag name s = true) :
    byteLength raw.content ≤ byteLength p := by
  rw [List.append_assoc] at happ
  obtain ⟨m, rfl, -⟩ | ⟨m, hcontent, rfl⟩ := List.append_eq_append_iff.mp happ
  · rw [byteLength_append]
    exact Nat.le_add_right _ _
  · -- an end tag in the content would show before the one that closes it has ended
    by_contra hlt
    have hm : m ≠ [] := by
      rintro rfl
      simp [hcontent] at hlt
    have hlen := h.length_le
    have hpos := List.length_pos_iff.mpr hm
    rw [← List.append_assoc, startsEndTag_append (by rw [List.length_append]; omega),
      h.1 p m hcontent hm] at hstart
    cases hstart

/-- The place of the first end tag behind an offset. -/
structure IsFirstEndTag (t name : Text) (offset : Nat) (found : Span) : Prop where
  le_start : offset ≤ found.start
  hasEndTagAt : HasEndTagAt t name found.start
  start_le : ∀ place, offset ≤ place → HasEndTagAt t name place → found.start ≤ place
  isTagEnd : IsTagEnd t (found.start + 2 + byteLength name) found.stop

/-- Raw text is cut at the first end tag. -/
theorem isFirstEndTag_endTagPlace (h : IsAt t offset (raw.content ++ raw.endTag ++ raw.rest))
    (hwritten : raw.IsWritten name) : IsFirstEndTag t name offset (endTagPlace t raw) := by
  have hat : IsAt t (offset + byteLength raw.content) (raw.endTag ++ raw.rest) :=
    (List.append_assoc _ _ _ ▸ h).append
  have hstart : (endTagPlace t raw).start = offset + byteLength raw.content :=
    hat.eq_startOf.symm
  refine ⟨?_, ?_, fun place hle hplace ↦ ?_, ?_⟩ <;> rw [hstart]
  · exact Nat.le_add_right _ _
  · exact hasEndTagAt_iff.mpr ⟨_, hat, hwritten.2.startsEndTag⟩
  · obtain ⟨p, s, happ, rfl, hs⟩ := (hasEndTagAt_iff_of_isAt h hle).mp hplace
    exact Nat.add_le_add_left (byteLength_content_le hwritten happ hs) offset
  · obtain ⟨n, tail, hend, hn, -, hthrough⟩ := hwritten.2
    rw [hend, List.cons_append, List.cons_append, List.append_assoc] at hat
    have hname := (hat.of_cons (by decide)).of_cons (by decide)
    exact isTagEnd_startOf (byteLength_eq_of_lower_eq hn ▸ hname.append) hthrough

/-- A search that begins between two characters always comes to an end.  It finds nothing exactly
when the bytes of an end tag stand nowhere behind the offset, and otherwise it finds the first
place where they stand. -/
theorem findEndTag_finds_first (h : IsBoundary t offset) (name : Text) :
    ∃ place?, findEndTag t offset name = .ok place? ∧
      (place? = none ↔ ∀ place, offset ≤ place → ¬HasEndTagAt t name place) ∧
      ∀ found ∈ place?, IsFirstEndTag t name offset found := by
  obtain ⟨r, hr⟩ := isBoundary_iff.mp h
  refine ⟨_, findEndTag_eq hr name, ?_, fun found hfound ↦ ?_⟩
  · rw [Option.map_eq_none_iff, RawText.split?_eq_none_iff, hasNoEndTag_iff_of_isAt hr]
  · obtain ⟨raw, hraw, rfl⟩ := Option.map_eq_some_iff.mp hfound
    obtain ⟨rfl, hwritten⟩ := RawText.split?_eq_some_iff.mp hraw
    exact isFirstEndTag_endTagPlace hr hwritten

/-- Raw text with a name that goes on, a name that ends inside a character, an end tag in front of
the offset, and two behind it, of which the first is written in capitals. -/
def nearlyClosedText : Text :=
  "</style>é</styles></stylé></é</STYLE é></style>".toList

theorem nearlyClosedText_findEndTag_finds_first :
    IsBoundary nearlyClosedText 10 ∧
      findEndTag nearlyClosedText 10 "style".toList = .ok (some ⟨32, 43⟩) ∧
      IsFirstEndTag nearlyClosedText "style".toList 10 ⟨32, 43⟩ := by
  have hboundary : IsBoundary nearlyClosedText 10 := ⟨"</style>é".toList, _, rfl, rfl⟩
  have hfind : findEndTag nearlyClosedText 10 "style".toList = .ok (some ⟨32, 43⟩) := by
    decide +kernel
  obtain ⟨place?, hplace, -, hfirst⟩ := findEndTag_finds_first hboundary "style".toList
  obtain rfl : some ⟨32, 43⟩ = place? := Except.ok.inj (hfind.symm.trans hplace)
  exact ⟨hboundary, hfind, hfirst _ rfl⟩

end ComponentFile.Markup.Scanner
