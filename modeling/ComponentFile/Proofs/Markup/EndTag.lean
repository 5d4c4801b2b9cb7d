import ComponentFile.Markup.EndTag
import ComponentFile.Proofs.Text.Case
import ComponentFile.Proofs.Text.Search

/-!
# Where raw text ends

Raw text goes on up to the first end tag of its element.  Whether an end tag begins at some place
depends on the few characters behind that place, so a text without an end tag keeps that property
when something is written behind it that cannot complete one.

## Main definitions

* `IsEndTag` : the end tags of an element in front of a text.
* `RawText.HasNoEndTag` : the texts in which an end tag begins nowhere.
* `RawText.IsWritten` : raw text and the end tag that closes it, as a search finds them.

## Main results

* `startsEndTag_iff` : what an end tag looks like.
* `RawText.split?_eq_none_iff` : a search fails exactly when an end tag begins nowhere.
* `RawText.split?_eq_some_iff` : a search finds exactly the first end tag.
-/

namespace ComponentFile.Markup

open Text

variable {c : Char} {name s t : Text}

/-- The end of a tag name and the end of the text both end a name. -/
theorem all_head?_isNameEnd_iff (t : Text) :
    t.head?.all isNameEnd = true ↔ ∀ c ∈ t.head?, isNameEnd c = true := by
  cases t <;> simp

/-- An end tag begins with `</` and the name of the element in any case, and the name ends
there. -/
theorem startsEndTag_iff :
    startsEndTag name t = true ↔ ∃ n r, t = '<' :: '/' :: (n ++ r) ∧ lower n = lower name ∧
      ∀ c ∈ r.head?, isNameEnd c = true := by
  simp only [startsEndTag, Bool.and_eq_true, beq_iff_eq, all_head?_isNameEnd_iff]
  constructor
  · rintro ⟨htake, hdrop⟩
    obtain ⟨u, hu, hlower⟩ := (lower_eq_cons_iff rfl).mp htake
    obtain ⟨n, rfl, hn⟩ := (lower_eq_cons_iff rfl).mp hlower
    refine ⟨n, t.drop (name.length + 2), ?_, hn, hdrop⟩
    have happ := List.take_append_drop (name.length + 2) t
    rwa [hu, eq_comm] at happ
  · rintro ⟨n, r, rfl, hn, hr⟩
    have hlen : n.length = name.length := by simpa using congrArg List.length hn
    have htake : ('<' :: '/' :: (n ++ r)).take (name.length + 2) = '<' :: '/' :: n := by
      simp [← hlen]
    have hdrop : ('<' :: '/' :: (n ++ r)).drop (name.length + 2) = r := by
      simp [← hlen]
    rw [htake, hdrop]
    exact ⟨by simp [hn, toLower_eq_of_isAlpha_eq_false], hr⟩

theorem startsEndTag_cons_of_ne (hc : c ≠ '<') : startsEndTag name (c :: t) = false := by
  rw [Bool.eq_false_iff]
  intro hstart
  obtain ⟨n, r, hcons, -⟩ := startsEndTag_iff.mp hstart
  exact hc (List.cons.inj hcons).1

/-- The end tags of the element `name` as they are written in front of the text `rest`: they go on
through the next `>` or to the end of the text. -/
def IsEndTag (name rest close : Text) : Prop :=
  ∃ n tail, close = '<' :: '/' :: (n ++ tail) ∧ lower n = lower name ∧
    (∀ c ∈ tail.head?, isNameEnd c = true) ∧ IsThrough '>' rest tail

/-- The end tag of a name, without white space. -/
def closingTag (name : Text) : Text :=
  '<' :: '/' :: (name ++ ['>'])

theorem isEndTag_closingTag {n : Text} (hn : lower n = lower name) (rest : Text) :
    IsEndTag name rest (closingTag n) := by
  refine ⟨n, ['>'], rfl, hn, ?_, .inl ⟨[], rfl, List.not_mem_nil⟩⟩
  rintro c ⟨⟩
  rfl

theorem IsEndTag.startsEndTag {rest close : Text} (h : IsEndTag name rest close) :
    startsEndTag name (close ++ rest) = true := by
  obtain ⟨n, tail, rfl, hn, htail, hthrough⟩ := h
  refine startsEndTag_iff.mpr ⟨n, tail ++ rest, by simp, hn, ?_⟩
  obtain ⟨p, hp, -⟩ | ⟨-, hrest⟩ := hthrough
  · rwa [List.head?_append_of_ne_nil _ (by simp [hp])]
  · rwa [hrest, List.append_nil]

theorem splitEndTag_append_eq {n r : Text} (hn : lower n = lower name) :
    splitEndTag name ('<' :: '/' :: (n ++ r)) =
      ('<' :: '/' :: (n ++ (through '>' r).1), (through '>' r).2) := by
  have hlen : n.length = name.length := by simpa using congrArg List.length hn
  simp [splitEndTag, ← hlen]

/-- Whether an end tag begins at the front of a text shows in the characters of `</`, of the name
and in one more. -/
theorem startsEndTag_append (h : name.length + 2 < s.length) :
    startsEndTag name (s ++ t) = startsEndTag name s := by
  have hdrop : s.drop (name.length + 2) ≠ [] := by simpa using h
  simp only [startsEndTag, List.take_append_of_le_length h.le, List.drop_append_of_le_length h.le,
    List.head?_append_of_ne_nil _ hdrop]

/-- Where no end tag begins, none begins when a character follows that is neither a slash nor a
character of the name: such a character cannot complete the beginning of an end tag, and in place
of the end of the text it does not end a name that did not end before. -/
theorem startsEndTag_append_cons_eq_false (h : startsEndTag name s = false) (hs : s ≠ [])
    (hslash : c ≠ '/') (hname : c.toLower ∉ lower name) :
    startsEndTag name (s ++ c :: t) = false := by
  rw [Bool.eq_false_iff] at h ⊢
  intro hlong
  obtain ⟨n, r, happ, hn, hr⟩ := startsEndTag_iff.mp hlong
  have hshort : '<' :: '/' :: n <+: s ++ c :: t := ⟨r, happ.symm⟩
  obtain ⟨u, hu⟩ | ⟨u, hu⟩ :=
    List.prefix_or_prefix_of_prefix (List.prefix_append s (c :: t)) hshort
  · -- the text ends within `</` and the name, and the next character belongs to these
    cases u with
    | nil =>
      apply h
      rw [List.append_nil] at hu
      exact startsEndTag_iff.mpr ⟨n, [], by simp [hu], hn, by simp⟩
    | cons d u =>
      obtain ⟨e, s', rfl⟩ := List.exists_cons_of_ne_nil hs
      obtain ⟨-, hs'⟩ := List.cons.inj hu
      have hfull : (e :: s') ++ c :: t = (e :: s') ++ d :: (u ++ r) := by
        rw [happ, ← List.cons_append, ← List.cons_append, ← hu]
        simp
      obtain rfl : c = d := (List.cons.inj (List.append_cancel_left hfull)).1
      have hmem : c ∈ '/' :: n := hs' ▸ by simp
      obtain hc | hc := List.mem_cons.mp hmem
      · exact hslash hc
      · exact hname (hn ▸ toLower_mem_lower hc)
  · apply h
    refine startsEndTag_iff.mpr ⟨n, u, by simp [← hu], hn, ?_⟩
    cases u with
    | nil => simp
    | cons d u =>
      intro e he
      apply hr e
      rw [← hu] at happ
      have : r = d :: (u ++ c :: t) := by simpa using happ.symm
      rw [this]
      exact he

/-! ### The search -/

namespace RawText

/-- An end tag begins nowhere in the text. -/
def HasNoEndTag (name t : Text) : Prop :=
  ∀ p s, t = p ++ s → s ≠ [] → startsEndTag name s = false

theorem hasNoEndTag_nil (name : Text) : HasNoEndTag name [] := by
  simp [HasNoEndTag]

/-- A search fails exactly when an end tag begins nowhere. -/
theorem split?_eq_none_iff : split? name t = none ↔ HasNoEndTag name t := by
  induction t with
  | nil => simp [split?, HasNoEndTag]
  | cons c t ih =>
    constructor
    · intro h
      rw [split?] at h
      split at h
      · cases h
      · next hc =>
        have htail := ih.mp (Option.map_eq_none_iff.mp h)
        intro p s hps hs
        cases p with
        | nil => simpa [← show c :: t = s by simpa using hps] using hc
        | cons d p => exact htail p s (List.cons.inj hps).2 hs
    · intro h
      have hc := h [] (c :: t) rfl (List.cons_ne_nil c t)
      rw [split?, if_neg (by simp [hc]), ih.mpr fun p s hps hs ↦ h (c :: p) s (by simp [hps]) hs]
      rfl

/-- Where `</` and the name do not occur in any case, no end tag begins. -/
theorem hasNoEndTag_of_contains {name : Text}
    (h : contains ('<' :: '/' :: lower name) (lower t) = false) : HasNoEndTag name t := by
  rintro p s rfl -
  rw [Bool.eq_false_iff] at h ⊢
  intro hstart
  obtain ⟨n, r, rfl, hn, -⟩ := startsEndTag_iff.mp hstart
  refine h (contains_iff.mpr ⟨lower p, lower r, ?_⟩)
  simp [← hn, toLower_eq_of_isAlpha_eq_false]

/-- A text without an end tag has none either when a character follows that cannot complete
one. -/
theorem HasNoEndTag.startsEndTag_append_cons {p : Text} (h : HasNoEndTag name (p ++ s))
    (hs : s ≠ []) (hslash : c ≠ '/') (hname : c.toLower ∉ lower name) :
    startsEndTag name (s ++ c :: t) = false :=
  startsEndTag_append_cons_eq_false (h p s rfl hs) hs hslash hname

theorem HasNoEndTag.of_append {p : Text} (h : HasNoEndTag name (p ++ s)) : HasNoEndTag name s :=
  fun q r hqr hr ↦ h (p ++ q) r (by rw [hqr, List.append_assoc]) hr

/-- The end of a line divides a text into two without end tags if it stands in no name: an end tag
that begins in front of it also ends there. -/
theorem hasNoEndTag_append_newline_iff (hname : '\n' ∉ lower name) :
    HasNoEndTag name (s ++ '\n' :: t) ↔ HasNoEndTag name s ∧ HasNoEndTag name t := by
  constructor
  · intro h
    refine ⟨fun p r hpr hr ↦ ?_, HasNoEndTag.of_append (p := s ++ ['\n']) (by simpa using h)⟩
    rw [Bool.eq_false_iff]
    intro hstart
    obtain ⟨n, u, rfl, hn, hu⟩ := startsEndTag_iff.mp hstart
    have hlong : startsEndTag name ('<' :: '/' :: (n ++ u) ++ '\n' :: t) = true := by
      refine startsEndTag_iff.mpr ⟨n, u ++ '\n' :: t, by simp, hn, ?_⟩
      cases u with
      | nil => simp [isNameEnd, isSpace]
      | cons c u => exact hu
    rw [h p _ (by rw [hpr, List.append_assoc]) (by simp)] at hlong
    cases hlong
  · rintro ⟨hs, ht⟩ p r hpr hr
    obtain ⟨u, rfl, hu⟩ | ⟨u, rfl, hu⟩ := List.append_eq_append_iff.mp hpr
    · cases u with
      | nil =>
        rw [← show '\n' :: t = r from hu]
        exact startsEndTag_cons_of_ne (by decide)
      | cons c u => exact ht u r (List.cons.inj hu).2 hr
    · rw [hu]
      by_cases hnil : u = []
      · subst hnil
        exact startsEndTag_cons_of_ne (by decide)
      · exact hs.startsEndTag_append_cons hnil (by decide) hname

/-- Raw text and its end tag as a search for the element `name` finds them. -/
def IsWritten (name : Text) (raw : RawText) : Prop :=
  (∀ p s, raw.content = p ++ s → s ≠ [] → startsEndTag name (s ++ raw.endTag) = false) ∧
    IsEndTag name raw.rest raw.endTag

/-- A text without an end tag is raw text in front of an end tag: the `<` of that is no character of
a name, so that nothing in the text is completed by it. -/
theorem HasNoEndTag.isWritten {rest close : Text} (h : HasNoEndTag name t)
    (hname : '<' ∉ lower name) (hclose : IsEndTag name rest close) :
    IsWritten name ⟨t, close, rest⟩ := by
  refine ⟨fun p s hps hs ↦ ?_, hclose⟩
  obtain ⟨n, tail, rfl, -⟩ := hclose
  rw [show t = p ++ s from hps] at h
  exact h.startsEndTag_append_cons hs (by decide) hname

/-- The end tag of written raw text is as long as `</` and the name. -/
theorem IsWritten.length_le {raw : RawText} (h : raw.IsWritten name) :
    name.length + 2 ≤ raw.endTag.length := by
  obtain ⟨-, n, tail, hend, hn, -⟩ := h
  have hlen : n.length = name.length := by simpa using congrArg List.length hn
  simp [hend, hlen]

theorem isWritten_of_split? {raw : RawText} (h : split? name t = some raw) :
    raw.IsWritten name := by
  induction t generalizing raw with
  | nil => simp [split?] at h
  | cons c t ih =>
    rw [split?] at h
    split at h
    · next hstart =>
      obtain ⟨n, r, htext, hn, hr⟩ := startsEndTag_iff.mp hstart
      rw [htext, splitEndTag_append_eq hn] at h
      cases h
      refine ⟨by simp, n, _, rfl, hn, ?_, isThrough_through '>' r⟩
      rwa [head?_through]
    · next hstart =>
      obtain ⟨inner, hinner, rfl⟩ := Option.map_eq_some_iff.mp h
      have hwritten := ih hinner
      refine ⟨?_, hwritten.2⟩
      intro p s hps hs
      cases p with
      | nil =>
        obtain rfl : c :: inner.content = s := by simpa using hps
        have happ := append_of_split? hinner
        rw [Bool.not_eq_true] at hstart
        rw [← hstart, ← happ, ← startsEndTag_append (t := inner.rest)
          (by have := hwritten.length_le; simp; omega)]
        simp
      | cons d p => exact hwritten.1 p s (List.cons.inj hps).2 hs

theorem split?_append {raw : RawText} (h : raw.IsWritten name) :
    split? name (raw.content ++ raw.endTag ++ raw.rest) = some raw := by
  obtain ⟨content, endTag, rest⟩ := raw
  have hlen := h.length_le
  have hstart : startsEndTag name (endTag ++ rest) = true := h.2.startsEndTag
  obtain ⟨hcontent, n, tail, hend, hn, -, hthrough⟩ := h
  dsimp only at *
  induction content with
  | nil =>
    have hsplit : splitEndTag name (endTag ++ rest) = (endTag, rest) := by
      have htext : endTag ++ rest = '<' :: '/' :: (n ++ (tail ++ rest)) := by simp [hend]
      rw [htext, splitEndTag_append_eq hn, through_eq_iff.mpr ⟨rfl, hthrough⟩, hend]
    obtain ⟨d, u, hdu⟩ : ∃ d u, endTag ++ rest = d :: u :=
      ⟨'<', '/' :: (n ++ (tail ++ rest)), by simp [hend]⟩
    rw [List.nil_append, hdu, split?, ← hdu, if_pos hstart, hsplit]
  | cons c content ih =>
    have hc := hcontent [] (c :: content) rfl (List.cons_ne_nil c content)
    rw [← startsEndTag_append (t := rest) (by simp; omega)] at hc
    simp only [List.cons_append] at hc ⊢
    rw [split?, if_neg (by rw [hc]; exact Bool.false_ne_true),
      ih fun p s hps hs ↦ hcontent (c :: p) s (by simp [hps]) hs]
    rfl

/-- A search finds exactly the first end tag. -/
theorem split?_eq_some_iff {raw : RawText} :
    split? name t = some raw ↔
      t = raw.content ++ raw.endTag ++ raw.rest ∧ raw.IsWritten name :=
  ⟨fun h ↦ ⟨(append_of_split? h).symm, isWritten_of_split? h⟩,
    fun ⟨ht, h⟩ ↦ ht ▸ split?_append h⟩

end RawText

end ComponentFile.Markup
