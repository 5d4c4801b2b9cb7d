import ComponentFile.Proofs.Markup.Location

/-!
# Texts divided behind an element

Behind the end tag of a top-level element a text may be divided: the elements of the whole text
are those of the part in front and those of the part behind, the latter moved to the place where
that part begins.  Nothing in front looks at what follows the end tag, because a token that ends
there is either followed by nothing or closed, and nothing behind knows what came before, because
no element is open there.

## Main definitions

* `Span.shift`, `Element.shift` : a span and an element moved towards the end of a text.
* `IsDivided` : an offset at which tokens fall apart, and their elements with them.

## Main results

* `TopLevel.eq_elementsFrom` : tokens fall into elements in one way only.
* `TopLevel.shift` : in a text that begins later, everything is found later.
* `TopLevel.isDivided` : the tokens up to the end of an element and those behind it fall into
  elements separately.
* `elements_eq_append` : the elements of a text that is divided behind one of them.
-/

namespace ComponentFile.Markup

open Text

variable {offset offset' stop : Nat} {k : Token} {ks : List Token} {e : Element}
  {es : List Element} {rest t : Text} {span : Span}

/-! ### Elements in another place -/

/-- A span moved by `d` bytes. -/
def Span.shift (d : Nat) (span : Span) : Span :=
  ⟨span.start + d, span.stop + d⟩

/-- An element whose tags are moved by `d` bytes. -/
def Element.shift (d : Nat) (e : Element) : Element :=
  { e with startTag := e.startTag.shift d, endTag := e.endTag.map (Span.shift d) }

theorem Span.shift_add (d offset m n : Nat) :
    Span.shift d ⟨offset + m, offset + n⟩ = ⟨offset + d + m, offset + d + n⟩ := by
  simp only [shift, Nat.add_right_comm]

theorem StartTag.shift_element (d offset : Nat) (tag : StartTag) :
    (tag.element offset).shift d = tag.element (offset + d) := by
  simp only [Element.shift, element, Span.shift, Nat.add_right_comm, Option.map_none]

theorem StartTag.shift_element_with (d offset : Nat) (tag : StartTag) (endTag? : Option Span) :
    Element.shift d { tag.element offset with endTag := endTag? } =
      { tag.element (offset + d) with endTag := endTag?.map (Span.shift d) } := by
  rw [← shift_element]
  rfl

theorem shift_rawEndTag (d offset : Nat) (tag : StartTag) (content : Text) (close : Option Text) :
    (rawEndTag offset tag content close).map (Span.shift d) =
      rawEndTag (offset + d) tag content close := by
  cases close <;> simp only [rawEndTag, Option.map, Span.shift_add]

/-- In a text that begins later, everything is found later. -/
theorem TopLevel.shift (h : TopLevel offset ks es) (d : Nat) :
    TopLevel (offset + d) ks (es.map (Element.shift d)) := by
  induction h with
  | nil => exact .nil
  | skip hk hks ih => exact .skip hk (Nat.add_right_comm .. ▸ ih)
  | whole htag hks ih =>
    rw [List.map_cons, StartTag.shift_element_with, Option.map_some, Span.shift_add]
    exact .whole htag (Nat.add_right_comm .. ▸ ih)
  | raw hks ih =>
    rw [List.map_cons, StartTag.shift_element_with, shift_rawEndTag]
    exact .raw (Nat.add_right_comm .. ▸ ih)
  | closed htag hinside hn hmem hks ih =>
    rw [List.map_cons, StartTag.shift_element_with, Option.map_some, Span.shift_add]
    exact .closed htag hinside hn hmem (Nat.add_right_comm .. ▸ ih)
  | unclosed htag hks =>
    rw [List.map_singleton, StartTag.shift_element]
    exact .unclosed htag hks

/-- Tokens fall into elements in one way only. -/
theorem TopLevel.eq_elementsFrom (h : TopLevel offset ks es) :
    es = elementsFrom offset none ks := by
  induction h with
  | nil => rfl
  | skip hk hks ih => rw [elementsFrom_cons_of_not_beginsElement hk, ← ih]
  | whole htag hks ih => rw [elementsFrom_cons_whole htag, ← ih]
  | raw hks ih => rw [elementsFrom_cons_raw, ← ih]
  | @closed offset tag inside inner n tail ks es htag hinside hn hmem hks ih =>
    have hopen : elementsFrom offset none (.startTag tag :: (inside ++ .endTag n tail :: ks)) = _ :=
      elementsFrom_cons_open htag
    rw [elementsFrom_append_inside (e := tag.element offset) hinside,
      elementsFrom_endTag_closes (e := tag.element offset) hn hmem] at hopen
    refine Eq.trans ?_ hopen.symm
    simp [ih, Token.spelling, Nat.add_assoc]
  | @unclosed offset tag ks inner htag hks =>
    rw [elementsFrom_cons_open htag, elementsFrom_inside (e := tag.element offset) hks]

/-- The elements found in tokens that begin later. -/
theorem elementsFrom_add (offset d : Nat) (ks : List Token) :
    elementsFrom (offset + d) none ks = (elementsFrom offset none ks).map (Element.shift d) :=
  ((topLevel_elementsFrom offset ks).shift d).eq_elementsFrom.symm

/-- The elements found in a text that begins later. -/
theorem elementsAt_add (offset d : Nat) (t : Text) :
    elementsAt (offset + d) none t = (elementsAt offset none t).map (Element.shift d) :=
  elementsFrom_add offset d (Token.ofText t)

/-! ### The end of an element -/

/-- The tokens `ks`, which fall into the elements `es`, may be divided at the offset `stop`: those
in front end with markup, and both parts fall into elements separately. -/
def IsDivided (offset : Nat) (ks : List Token) (es : List Element) (stop : Nat) : Prop :=
  ∃ ks₁ k ks₂ es₁ es₂, ks = ks₁ ++ k :: ks₂ ∧ es = es₁ ++ es₂ ∧ (∀ s, k ≠ .plain s) ∧
    stop = offset + Token.size (ks₁ ++ [k]) ∧ TopLevel offset (ks₁ ++ [k]) es₁ ∧
    TopLevel stop ks₂ es₂

/-- Tokens that may be divided may also be divided behind other tokens, whatever elements these
form. -/
theorem IsDivided.append (h : IsDivided offset' ks es stop) (before : List Token)
    (first : List Element) (hoffset : offset' = offset + Token.size before)
    (hfirst : ∀ ks es, TopLevel offset' ks es → TopLevel offset (before ++ ks) (first ++ es)) :
    IsDivided offset (before ++ ks) (first ++ es) stop := by
  obtain ⟨ks₁, k, ks₂, es₁, es₂, rfl, rfl, hk, hstop, h₁, h₂⟩ := h
  have htop := hfirst _ _ h₁
  rw [← List.append_assoc] at htop
  exact ⟨before ++ ks₁, k, ks₂, first ++ es₁, es₂, by simp, by simp, hk,
    by simp [hstop, hoffset, Nat.add_assoc], htop, h₂⟩

/-- The tokens up to the end of an element and those behind it fall into elements separately. -/
theorem TopLevel.isDivided (h : TopLevel offset ks es) (he : e ∈ es)
    (hspan : e.endTag = some span) : IsDivided offset ks es span.stop := by
  induction h with
  | nil => cases he
  | skip hk hks ih => exact (ih he).append [_] [] (by simp) fun _ _ h ↦ .skip hk h
  | @whole offset tag ks es htag hks ih =>
    obtain rfl | he := List.mem_cons.mp he
    · cases hspan
      exact ⟨[], .startTag tag, ks, [_], es, rfl, rfl, by simp, by simp [Token.spelling],
        .whole htag .nil, hks⟩
    · exact (ih he).append [.startTag tag] [_] (by simp [Token.spelling]) fun _ _ h ↦ .whole htag h
  | @raw offset tag content close ks es hks ih =>
    obtain rfl | he := List.mem_cons.mp he
    · obtain _ | close := close
      · cases hspan
      · cases hspan
        exact ⟨[], .rawElement tag content (some close), ks, [_], es, rfl, rfl, by simp,
          by simp [Token.spelling], .raw .nil, hks⟩
    · exact (ih he).append [.rawElement tag content close] [_] (by simp) fun _ _ h ↦ .raw h
  | @closed offset tag inside inner n tail ks es htag hinside hn hmem hks ih =>
    obtain rfl | he := List.mem_cons.mp he
    · cases hspan
      exact ⟨.startTag tag :: inside, .endTag n tail, ks, [_], es, rfl, rfl, by simp, rfl,
        .closed htag hinside hn hmem .nil, hks⟩
    · have hdivided := (ih he).append (.startTag tag :: inside ++ [.endTag n tail]) [_] rfl
        fun _ _ h ↦ by simpa using TopLevel.closed htag hinside hn hmem h
      simpa using hdivided
  | unclosed htag hks =>
    rw [List.mem_singleton] at he
    subst he
    cases hspan

/-- Tokens that end with markup are read in the same way when nothing follows. -/
theorem Token.AreRead.of_concat (h : AreRead rest (ks ++ [k])) (hk : ∀ s, k ≠ plain s) :
    AreRead [] (ks ++ [k]) := by
  by_cases hrest : rest = []
  · exact hrest ▸ h
  · obtain ⟨hks, hlast, -⟩ := areRead_append_iff.mp h
    have hclosed : IsRead [] k := hlast.isClosed (by simpa using hrest) hk []
    refine areRead_append_iff.mpr ⟨hks.of_head?_eq ?_, by simpa using hclosed, trivial⟩
    simp [List.head?_append_of_ne_nil _ hlast.spelling_ne_nil]

/-- A text may be divided behind each of its elements that has an end tag: its elements are those
of the part in front and, moved by the length of that, those of the part behind. -/
theorem elements_eq_append (he : e ∈ elements t) (hspan : e.endTag = some span) :
    ∃ a b, splitBytes? span.stop t = some (a, b) ∧
      elements t = elements a ++ (elements b).map (Element.shift span.stop) := by
  obtain ⟨ks₁, k, ks₂, es₁, es₂, hks, hes, hk, hstop, h₁, h₂⟩ :=
    (topLevel_elementsFrom 0 (Token.ofText t)).isDivided he hspan
  have hread := Token.areRead_ofText t
  have htext := Token.flatMap_spelling_ofText t
  rw [hks, ← List.singleton_append, ← List.append_assoc] at hread htext
  obtain ⟨hread₁, hread₂⟩ := Token.areRead_append_iff.mp hread
  have htokens₁ := Token.ofText_append (hread₁.of_concat hk)
  have htokens₂ := Token.ofText_append hread₂
  simp only [List.append_nil, Token.ofText_nil] at htokens₁ htokens₂
  rw [List.flatMap_append] at htext
  refine ⟨(ks₁ ++ [k]).flatMap Token.spelling, ks₂.flatMap Token.spelling, ?_, ?_⟩
  · rw [hstop, Nat.zero_add, Token.size, ← htext, splitBytes?_append]
  · have hfront : elements ((ks₁ ++ [k]).flatMap Token.spelling) = es₁ := by
      rw [elements, htokens₁, h₁.eq_elementsFrom]
    have hback := elementsAt_add 0 span.stop (ks₂.flatMap Token.spelling)
    rw [Nat.zero_add, elementsAt, htokens₂, ← h₂.eq_elementsFrom] at hback
    rw [elements, hes, hfront, hback, elements_eq_elementsAt]

/-- A text with stray tags and a quoted end tag around its first element and the beginning of an end
tag in its second, whose third element is followed by a tag that does not end. -/
def dividedText : Text :=
  "< </ <p a='</p>'><i></b></p>é<style></styl</style >ü<u>ü</u><b <x".toList

theorem elements_eq_append_dividedText :
    (∃ e ∈ elements dividedText, e.endTag = some ⟨43, 52⟩) ∧
      ∃ a b, splitBytes? 52 dividedText = some (a, b) ∧
        elements dividedText = elements a ++ (elements b).map (Element.shift 52) := by
  have hexists : ∃ e ∈ elements dividedText, e.endTag = some ⟨43, 52⟩ := by decide +kernel
  obtain ⟨e, he, hspan⟩ := hexists
  exact ⟨⟨e, he, hspan⟩, elements_eq_append he hspan⟩

end ComponentFile.Markup
