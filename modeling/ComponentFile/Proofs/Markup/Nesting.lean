import ComponentFile.Markup.Element
import ComponentFile.Proofs.Markup.Token

/-!
# Nested elements

What happens inside an open top-level element depends on the names of tags only, neither on
offsets nor on attributes.  One step of that is `stepInside`, and a run over several tokens is
`runInside`; both fail as soon as the element itself is closed.  From these the pass over the
tokens of a text is described as a whole: `TopLevel` says how a list of tokens falls into
top-level elements and what stands between them.

## Main definitions

* `stepInside`, `runInside` : the names of the elements open inside an element, after one token
  and after several.
* `TopLevel` : tokens with the top-level elements found in them.
* `elementsAt` : the elements found in a text that begins at an offset.

## Main results

* `elementsFrom_append_inside` : tokens that leave an element open are passed over.
* `elementsFrom_endTag_closes` : an end tag closes the open element if nothing inside has its
  name.
* `topLevel_elementsFrom` : how the tokens of a text fall into elements.
* `elementsAt_append_plain` : text without markup is passed over, wherever it is cut.
-/

namespace ComponentFile.Markup

open Text

variable {name n tail : Text} {inner inner' : List Text} {offset : Nat} {k : Token}
  {ks ks' : List Token} {e : Element} {s t : Text}

/-- The number of bytes of tokens as they are written. -/
def Token.size (ks : List Token) : Nat :=
  byteLength (ks.flatMap Token.spelling)

@[simp] theorem Token.size_nil : Token.size [] = 0 := rfl

@[simp] theorem Token.size_cons (k : Token) (ks : List Token) :
    Token.size (k :: ks) = byteLength k.spelling + Token.size ks := by
  simp [Token.size]

@[simp] theorem Token.size_append (ks ks' : List Token) :
    Token.size (ks ++ ks') = Token.size ks + Token.size ks' := by
  simp [Token.size]

/-! ### Inside an element -/

/-- The names of the elements open inside the element `name` after a token, the innermost first;
none when the token closes the element itself. -/
def stepInside (name : Text) (inner : List Text) : Token → Option (List Text)
  | .startTag tag => some (if tag.isWhole then inner else tag.lowerName :: inner)
  | .endTag n _ =>
    match inner.dropWhile (· != lower n) with
    | _ :: outer => some outer
    | [] => if name = lower n then none else some inner
  | _ => some inner

/-- The names of the elements open inside the element `name` after several tokens. -/
def runInside (name : Text) (inner : List Text) (ks : List Token) : Option (List Text) :=
  ks.foldlM (stepInside name) inner

@[simp] theorem runInside_nil : runInside name inner [] = some inner := rfl

theorem runInside_cons :
    runInside name inner (k :: ks) =
      (stepInside name inner k).bind fun inner' ↦ runInside name inner' ks := rfl

theorem runInside_append :
    runInside name inner (ks ++ ks') =
      (runInside name inner ks).bind fun inner' ↦ runInside name inner' ks' :=
  List.foldlM_append

/-- An element is closed by an end tag of its name, when nothing open inside it has that name. -/
theorem stepInside_eq_none_iff :
    stepInside name inner k = none ↔
      ∃ n tail, k = .endTag n tail ∧ lower n = name ∧ name ∉ inner := by
  cases k with
  | endTag n tail =>
    simp only [stepInside]
    split
    · next outer hdrop =>
      simp only [reduceCtorEq, Token.endTag.injEq, false_iff]
      rintro ⟨_, _, ⟨rfl, rfl⟩, rfl, hmem⟩
      have hnil : inner.dropWhile (· != lower n) = [] :=
        List.dropWhile_eq_nil_iff.mpr fun m hm ↦ by simpa using fun h : m = lower n ↦ hmem (h ▸ hm)
      simp [hdrop] at hnil
    · next hdrop =>
      have hmem : lower n ∉ inner := fun h ↦ by
        simpa using List.dropWhile_eq_nil_iff.mp hdrop (lower n) h
      constructor
      · intro h
        split at h
        · next hn => exact ⟨n, tail, rfl, hn.symm, hn ▸ hmem⟩
        · cases h
      · rintro ⟨_, _, ⟨rfl, rfl⟩, rfl, -⟩
        rw [if_pos rfl]
  | _ => simp [stepInside]

/-- Every run over tokens leaves the element open, or reaches the end tag that closes it. -/
theorem runInside_cases (name : Text) (inner : List Text) (ks : List Token) :
    (∃ inner', runInside name inner ks = some inner') ∨
      ∃ ks₁ n tail ks₂ inner', ks = ks₁ ++ .endTag n tail :: ks₂ ∧
        runInside name inner ks₁ = some inner' ∧ lower n = name ∧ name ∉ inner' := by
  induction ks generalizing inner with
  | nil => exact .inl ⟨inner, rfl⟩
  | cons k ks ih =>
    cases hk : stepInside name inner k with
    | none =>
      obtain ⟨n, tail, rfl, hn, hmem⟩ := stepInside_eq_none_iff.mp hk
      exact .inr ⟨[], n, tail, ks, inner, rfl, rfl, hn, hmem⟩
    | some inner₁ =>
      obtain ⟨inner', h⟩ | ⟨ks₁, n, tail, ks₂, inner', rfl, h, hn, hmem⟩ := ih inner₁
      · exact .inl ⟨inner', by rw [runInside_cons, hk, Option.bind_some, h]⟩
      · exact .inr ⟨k :: ks₁, n, tail, ks₂, inner', rfl,
          by rw [runInside_cons, hk, Option.bind_some, h], hn, hmem⟩

/-! ### The pass over the tokens inside an element -/

/-- A token that leaves the open element open is passed over. -/
theorem elementsFrom_cons_inside (h : stepInside e.name inner k = some inner') :
    elementsFrom offset (some ⟨e, inner⟩) (k :: ks) =
      elementsFrom (offset + byteLength k.spelling) (some ⟨e, inner'⟩) ks := by
  cases k with
  | startTag tag =>
    simp only [stepInside, Option.some.injEq] at h
    subst h
    rw [elementsFrom]
    split <;> rfl
  | endTag n tail =>
    simp only [stepInside] at h
    rw [elementsFrom, OpenElement.close]
    split at h
    · next hdrop =>
      cases h
      simp only [hdrop]
    · next hdrop =>
      split at h
      · cases h
      · next hne =>
        cases h
        simp only [hdrop, if_neg hne]
  | _ =>
    cases h
    rw [elementsFrom] <;> simp

/-- Tokens that leave the open element open are passed over. -/
theorem elementsFrom_append_inside (h : runInside e.name inner ks = some inner') :
    elementsFrom offset (some ⟨e, inner⟩) (ks ++ ks') =
      elementsFrom (offset + Token.size ks) (some ⟨e, inner'⟩) ks' := by
  induction ks generalizing offset inner with
  | nil =>
    cases h
    rfl
  | cons k ks ih =>
    obtain ⟨inner₁, hk, hks⟩ := Option.bind_eq_some_iff.mp (runInside_cons ▸ h)
    rw [List.cons_append, elementsFrom_cons_inside hk, ih hks, Token.size_cons, Nat.add_assoc]

/-- An end tag of its name closes the open element if nothing inside has that name. -/
theorem elementsFrom_endTag_closes (hn : lower n = e.name) (hmem : e.name ∉ inner) :
    elementsFrom offset (some ⟨e, inner⟩) (.endTag n tail :: ks) =
      { e with endTag := some ⟨offset, offset + byteLength (Token.endTag n tail).spelling⟩ } ::
        elementsFrom (offset + byteLength (Token.endTag n tail).spelling) none ks := by
  have hdrop : inner.dropWhile (· != lower n) = [] :=
    List.dropWhile_eq_nil_iff.mpr fun m hm ↦ by
      simpa using fun h : m = lower n ↦ hmem (hn ▸ h ▸ hm)
  rw [elementsFrom, OpenElement.close]
  simp only [hdrop, if_pos hn.symm]

/-- An element that is open at the end of the tokens stays without an end tag. -/
theorem elementsFrom_inside (h : runInside e.name inner ks = some inner') :
    elementsFrom offset (some ⟨e, inner⟩) ks = [e] := by
  have happ : elementsFrom offset (some ⟨e, inner⟩) (ks ++ []) = _ := elementsFrom_append_inside h
  rw [List.append_nil] at happ
  rw [happ]
  rfl

/-! ### The pass over the tokens of a text -/

/-- A token that begins an element. -/
def Token.BeginsElement : Token → Prop
  | .startTag _ => True
  | .rawElement _ _ _ => True
  | _ => False

/-- The place of the end tag of raw text that begins at an offset. -/
def rawEndTag (offset : Nat) (tag : StartTag) (content : Text) : Option Text → Option Span
  | some close => some ⟨offset + byteLength (tag.spelling ++ content),
      offset + byteLength (tag.spelling ++ content ++ close)⟩
  | none => none

/-- The tokens `ks` begin at the byte offset `offset`, and `es` are the top-level elements in
them: whole elements, elements with raw text, elements that are closed, and at the end possibly
one that is not. -/
inductive TopLevel : Nat → List Token → List Element → Prop
  | nil {offset : Nat} : TopLevel offset [] []
  | skip {offset k ks es} (hk : ¬k.BeginsElement)
      (hks : TopLevel (offset + byteLength k.spelling) ks es) : TopLevel offset (k :: ks) es
  | whole {offset tag ks es} (htag : tag.isWhole = true)
      (hks : TopLevel (offset + byteLength tag.spelling) ks es) :
      TopLevel offset (.startTag tag :: ks)
        ({ tag.element offset with
            endTag := some ⟨offset + byteLength tag.spelling,
              offset + byteLength tag.spelling⟩ } :: es)
  | raw {offset tag content close ks es}
      (hks : TopLevel (offset + byteLength (Token.rawElement tag content close).spelling) ks es) :
      TopLevel offset (.rawElement tag content close :: ks)
        ({ tag.element offset with endTag := rawEndTag offset tag content close } :: es)
  | closed {offset tag inside inner n tail ks es} (htag : tag.isWhole = false)
      (hinside : runInside tag.lowerName [] inside = some inner) (hn : lower n = tag.lowerName)
      (hmem : tag.lowerName ∉ inner)
      (hks : TopLevel (offset + Token.size (.startTag tag :: inside ++ [.endTag n tail])) ks es) :
      TopLevel offset (.startTag tag :: inside ++ .endTag n tail :: ks)
        ({ tag.element offset with
            endTag := some ⟨offset + Token.size (.startTag tag :: inside),
              offset + Token.size (.startTag tag :: inside ++ [.endTag n tail])⟩ } :: es)
  | unclosed {offset tag ks inner} (htag : tag.isWhole = false)
      (hks : runInside tag.lowerName [] ks = some inner) :
      TopLevel offset (.startTag tag :: ks) [tag.element offset]

theorem TopLevel.eq_nil {es : List Element} (h : TopLevel offset [] es) : es = [] := by
  cases h
  rfl

theorem elementsFrom_cons_of_not_beginsElement (hk : ¬k.BeginsElement) :
    elementsFrom offset none (k :: ks) =
      elementsFrom (offset + byteLength k.spelling) none ks := by
  cases k with
  | startTag tag => exact absurd trivial hk
  | rawElement tag content close => exact absurd trivial hk
  | _ => rw [elementsFrom] <;> simp

theorem elementsFrom_cons_whole {tag : StartTag} (htag : tag.isWhole = true) :
    elementsFrom offset none (.startTag tag :: ks) =
      { tag.element offset with
          endTag := some ⟨offset + byteLength tag.spelling,
            offset + byteLength tag.spelling⟩ } ::
        elementsFrom (offset + byteLength tag.spelling) none ks := by
  rw [elementsFrom, if_pos htag]
  rfl

theorem elementsFrom_cons_open {tag : StartTag} (htag : tag.isWhole = false) :
    elementsFrom offset none (.startTag tag :: ks) =
      elementsFrom (offset + byteLength tag.spelling) (some ⟨tag.element offset, []⟩) ks := by
  rw [elementsFrom, if_neg (by simp [htag])]
  rfl

theorem elementsFrom_cons_raw {tag : StartTag} {content : Text} {close : Option Text} :
    elementsFrom offset none (.rawElement tag content close :: ks) =
      { tag.element offset with endTag := rawEndTag offset tag content close } ::
        elementsFrom (offset + byteLength (Token.rawElement tag content close).spelling)
          none ks := by
  rw [elementsFrom]
  cases close <;> rfl

/-- How the tokens of a text fall into elements.  The induction is on the number of tokens: behind
a closed element it goes on with the tokens that follow its end tag. -/
theorem topLevel_elementsFrom (offset : Nat) (ks : List Token) :
    TopLevel offset ks (elementsFrom offset none ks) := by
  induction hlen : ks.length using Nat.strong_induction_on generalizing offset ks with
  | _ m ih =>
    subst hlen
    cases ks with
    | nil => exact .nil
    | cons k ks =>
      have hrest (o : Nat) : TopLevel o ks (elementsFrom o none ks) :=
        ih ks.length (by simp) o ks rfl
      by_cases hk : k.BeginsElement
      · match k, hk with
        | .rawElement tag content close, _ =>
          rw [elementsFrom_cons_raw]
          exact .raw (hrest _)
        | .startTag tag, _ =>
          cases htag : tag.isWhole with
          | true =>
            rw [elementsFrom_cons_whole htag]
            exact .whole htag (hrest _)
          | false =>
            rw [elementsFrom_cons_open htag]
            obtain ⟨inner, h⟩ | ⟨inside, n, tail, after, inner, rfl, h, hn, hmem⟩ :=
              runInside_cases tag.lowerName [] ks
            · rw [elementsFrom_inside (e := tag.element offset) h]
              exact .unclosed htag h
            · rw [elementsFrom_append_inside (e := tag.element offset) h,
                elementsFrom_endTag_closes (e := tag.element offset) hn hmem]
              have hafter := ih after.length (by simp; omega)
                (offset + Token.size (.startTag tag :: inside ++ [.endTag n tail])) after rfl
              have hclosed := TopLevel.closed htag h hn hmem hafter
              simpa [Nat.add_assoc, Token.spelling] using hclosed
      · rw [elementsFrom_cons_of_not_beginsElement hk]
        exact .skip hk (hrest _)

/-! ### The elements of a text -/

/-- The elements found in a text that begins at the byte offset `offset`, while the element
`current?` is open. -/
def elementsAt (offset : Nat) (current? : Option OpenElement) (t : Text) : List Element :=
  elementsFrom offset current? (Token.ofText t)

theorem elements_eq_elementsAt (t : Text) : elements t = elementsAt 0 none t := rfl

@[simp] theorem elementsAt_nil (offset : Nat) : elementsAt offset none [] = [] := by
  simp [elementsAt, elementsFrom]

theorem elementsFrom_cons_plain {current? : Option OpenElement} :
    elementsFrom offset current? (.plain s :: ks) =
      elementsFrom (offset + byteLength s) current? ks := by
  cases current? <;> rw [elementsFrom] <;> simp [Token.spelling]

private theorem elementsAt_append_run {current? : Option OpenElement} (hs : '<' ∉ s)
    (ht : ∀ c ∈ t.head?, c = '<') :
    elementsAt offset current? (s ++ t) = elementsAt (offset + byteLength s) current? t := by
  by_cases hnil : s = []
  · subst hnil
    rfl
  · have hread : Token.IsRead t (.plain s) := .text hnil hs ht
    have htokens : Token.ofText (s ++ t) = .plain s :: Token.ofText t := hread.ofText_append
    rw [elementsAt, htokens, elementsFrom_cons_plain, elementsAt]

/-- Text without markup is passed over, wherever it is cut. -/
theorem elementsAt_append_plain {current? : Option OpenElement} (hs : '<' ∉ s) :
    elementsAt offset current? (s ++ t) = elementsAt (offset + byteLength s) current? t := by
  -- the run of plain text that `s` belongs to may go on in `t`
  have hplain : '<' ∉ t.takeWhile (· != '<') := fun h ↦ by
    simpa using List.mem_takeWhile_imp h
  have hstop : ∀ c ∈ (t.dropWhile (· != '<')).head?, c = '<' := fun c hc ↦ by
    simpa using head?_dropWhile_eq_false _ _ c hc
  have hboth : '<' ∉ s ++ t.takeWhile (· != '<') := by simp [hs, hplain]
  rw [← List.takeWhile_append_dropWhile (p := (· != '<')) (l := t), ← List.append_assoc,
    elementsAt_append_run hboth hstop, elementsAt_append_run hplain hstop, byteLength_append,
    Nat.add_assoc]

/-- Tokens that are read in front of a text come first in the pass over it. -/
theorem elementsAt_append_of_areRead {current? : Option OpenElement} (h : Token.AreRead t ks) :
    elementsAt offset current? (ks.flatMap Token.spelling ++ t) =
      elementsFrom offset current? (ks ++ Token.ofText t) := by
  rw [elementsAt, Token.ofText_append h]

theorem elementsAt_append_of_isRead {current? : Option OpenElement} (h : Token.IsRead t k) :
    elementsAt offset current? (k.spelling ++ t) =
      elementsFrom offset current? (k :: Token.ofText t) := by
  rw [elementsAt, h.ofText_append]

theorem elementsAt_append_inside (h : Token.IsRead t k)
    (hstep : stepInside e.name inner k = some inner') :
    elementsAt offset (some ⟨e, inner⟩) (k.spelling ++ t) =
      elementsAt (offset + byteLength k.spelling) (some ⟨e, inner'⟩) t := by
  rw [elementsAt_append_of_isRead h, elementsFrom_cons_inside hstep, elementsAt]

theorem elementsAt_append_of_not_beginsElement (h : Token.IsRead t k)
    (hk : ¬k.BeginsElement) :
    elementsAt offset none (k.spelling ++ t) =
      elementsAt (offset + byteLength k.spelling) none t := by
  rw [elementsAt_append_of_isRead h, elementsFrom_cons_of_not_beginsElement hk, elementsAt]

/-! ### Elements at the front of a text -/

theorem opensRawText_of_isWhole {tag : StartTag} (h : tag.isWhole = true) :
    tag.opensRawText = false := by
  simp [StartTag.opensRawText, h]

theorem isWhole_of_opensRawText {tag : StartTag} (h : tag.opensRawText = true) :
    tag.isWhole = false := by
  rw [Bool.eq_false_iff]
  intro hwhole
  rw [opensRawText_of_isWhole hwhole] at h
  cases h

/-- A start tag that is a whole element is found. -/
theorem elementsAt_append_whole {tag : StartTag} (htag : tag.IsWritten)
    (hwhole : tag.isWhole = true) :
    elementsAt offset none (tag.spelling ++ t) =
      { tag.element offset with
          endTag := some ⟨offset + byteLength tag.spelling,
            offset + byteLength tag.spelling⟩ } ::
        elementsAt (offset + byteLength tag.spelling) none t := by
  have hread : Token.IsRead t (.startTag tag) := .startTag htag (opensRawText_of_isWhole hwhole)
  exact (elementsAt_append_of_isRead hread).trans (elementsFrom_cons_whole hwhole)

/-- A start tag that is no whole element opens one. -/
theorem elementsAt_append_open {tag : StartTag} (htag : tag.IsWritten)
    (hwhole : tag.isWhole = false) (hraw : tag.opensRawText = false) :
    elementsAt offset none (tag.spelling ++ t) =
      elementsAt (offset + byteLength tag.spelling) (some ⟨tag.element offset, []⟩) t := by
  have hread : Token.IsRead t (.startTag tag) := .startTag htag hraw
  exact (elementsAt_append_of_isRead hread).trans (elementsFrom_cons_open hwhole)

/-- An element with raw text is found. -/
theorem elementsAt_append_raw {tag : StartTag} {content close : Text}
    (h : Token.IsRead t (.rawElement tag content (some close))) :
    elementsAt offset none (tag.spelling ++ content ++ close ++ t) =
      { tag.element offset with
          endTag := some ⟨offset + byteLength (tag.spelling ++ content),
            offset + byteLength (tag.spelling ++ content ++ close)⟩ } ::
        elementsAt (offset + byteLength (tag.spelling ++ content ++ close)) none t := by
  exact (elementsAt_append_of_isRead h).trans elementsFrom_cons_raw

/-- An end tag of its name closes the open element if nothing inside has that name. -/
theorem elementsAt_append_endTag (h : Token.IsRead t (.endTag n tail)) (hn : lower n = e.name)
    (hmem : e.name ∉ inner) :
    elementsAt offset (some ⟨e, inner⟩) ((Token.endTag n tail).spelling ++ t) =
      { e with endTag := some ⟨offset, offset + byteLength (Token.endTag n tail).spelling⟩ } ::
        elementsAt (offset + byteLength (Token.endTag n tail).spelling) none t := by
  exact (elementsAt_append_of_isRead h).trans (elementsFrom_endTag_closes hn hmem)

end ComponentFile.Markup
