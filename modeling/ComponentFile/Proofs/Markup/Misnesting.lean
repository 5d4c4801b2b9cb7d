import ComponentFile.Proofs.Markup.Division
import ComponentFile.Proofs.Markup.Tree

/-!
# Misnested markup

What stands inside an element need not be well formed: start tags may lack their end tags, end tags
their start tags, and elements may be closed in the wrong order.  None of that moves the end of the
element around it, as long as nothing inside has its name.  An end tag closes the innermost element
of its own name and what is open inside that, so the names that are open inside may change in any
way; but the name of the element itself never gets among them, and no end tag with another name
reaches below them.

## Main definitions

* `Piece`, `Piece.render` : a piece of markup that opens or closes at most one element.
* `Piece.IsForeignTo` : the pieces that have nothing to do with the elements of a name.

## Main results

* `exists_stepInside_of_isForeignTo` : what a foreign token leaves open.
* `Piece.exists_elementsAt_render_append`, `exists_elementsAt_flatMap_render_append` : a foreign
  piece, and a sequence of them, leave the element open.
* `elements_misnested` : an element ends with its own end tag, whatever is misnested in it.
-/

namespace ComponentFile.Markup

open Text

variable {name rest : Text} {inner : List Text} {k : Token} {e : Element}

/-! ### Pieces -/

/-- A piece of markup that is not nested: text, a comment, a single tag, or raw text with the tags
around it, of which the second may spell the name in another case. -/
inductive Piece where
  | text (t : Text)
  | comment (inside : Text)
  | opening (label : Label)
  | selfClosed (label : Label)
  | closing (name : Text)
  | raw (label : Label) (content close : Text)

namespace Piece

/-- A piece as it is written. -/
def render : Piece → Text
  | text t => t
  | comment c => ['<', '!', '-', '-'] ++ c ++ ['-', '-', '>']
  | opening l => l.opening ++ ['>']
  | selfClosed l => l.opening ++ ['/', '>']
  | closing n => closingTag n
  | raw l content close => l.opening ++ ['>'] ++ content ++ closingTag close

/-- A piece that neither opens nor closes an element of the given name.  There is no `<` in text and
no end of a comment in a comment, and raw text has no end tag of its own element. -/
def IsForeignTo (name : Text) : Piece → Prop
  | text t => '<' ∉ t
  | comment c => ¬['-', '-', '>'] <:+: c
  | opening l => l.IsWellFormed ∧ lower l.name ≠ lower name ∧ lower l.name ∉ rawTextNames
  | selfClosed l => l.IsWellFormed
  | closing n => (Label.mk n []).IsWellFormed ∧ lower n ≠ lower name
  | raw l content close => l.IsWellFormed ∧ lower l.name ∈ rawTextNames ∧
      RawText.split? (lower l.name) content = none ∧ lower close = lower l.name

instance (name : Text) : (p : Piece) → Decidable (p.IsForeignTo name)
  | text t => inferInstanceAs (Decidable ('<' ∉ t))
  | comment c => inferInstanceAs (Decidable ¬['-', '-', '>'] <:+: c)
  | opening l => inferInstanceAs (Decidable (l.IsWellFormed ∧ lower l.name ≠ lower name ∧
      lower l.name ∉ rawTextNames))
  | selfClosed l => inferInstanceAs (Decidable l.IsWellFormed)
  | closing n => inferInstanceAs (Decidable ((Label.mk n []).IsWellFormed ∧ lower n ≠ lower name))
  | raw l content close => inferInstanceAs (Decidable (l.IsWellFormed ∧
      lower l.name ∈ rawTextNames ∧ RawText.split? (lower l.name) content = none ∧
      lower close = lower l.name))

end Piece

/-! ### Steps that do not reach the element -/

/-- A token that neither opens nor closes an element of the given name. -/
def Token.IsForeignTo (name : Text) : Token → Prop
  | startTag tag => tag.isWhole = true ∨ tag.lowerName ≠ name
  | endTag n _ => lower n ≠ name
  | _ => True

/-- A foreign token leaves the element open, and no element of its name gets open inside. -/
theorem exists_stepInside_of_isForeignTo (hk : k.IsForeignTo name) (hmem : name ∉ inner) :
    ∃ inner', stepInside name inner k = some inner' ∧ name ∉ inner' := by
  cases k with
  | startTag tag =>
    refine ⟨_, rfl, ?_⟩
    split
    · exact hmem
    · next hwhole => exact List.not_mem_cons_of_ne_of_not_mem (hk.resolve_left hwhole).symm hmem
  | endTag n tail =>
    have hne : name ≠ lower n := fun h ↦ hk h.symm
    simp only [stepInside, if_neg hne]
    split
    · next m outer hdrop =>
      -- what stays open was open before
      have hsub : outer ⊆ inner := fun o ho ↦
        (List.dropWhile_suffix _).subset (hdrop ▸ List.mem_cons_of_mem m ho)
      exact ⟨outer, rfl, fun h ↦ hmem (hsub h)⟩
    · exact ⟨inner, rfl, hmem⟩
  | _ => exact ⟨inner, rfl, hmem⟩

theorem exists_elementsAt_append_of_isForeignTo (hread : Token.IsRead rest k)
    (hk : k.IsForeignTo e.name) (hmem : e.name ∉ inner) (offset : Nat) :
    ∃ inner', e.name ∉ inner' ∧
      elementsAt offset (some ⟨e, inner⟩) (k.spelling ++ rest) =
        elementsAt (offset + byteLength k.spelling) (some ⟨e, inner'⟩) rest := by
  obtain ⟨inner', hstep, hmem'⟩ := exists_stepInside_of_isForeignTo hk hmem
  exact ⟨inner', hmem', elementsAt_append_inside hread hstep⟩

/-- A foreign piece leaves the element open, and no element of its name gets open inside. -/
theorem Piece.exists_elementsAt_render_append {p : Piece} (hp : p.IsForeignTo name)
    (he : e.name = lower name) (hmem : e.name ∉ inner) (offset : Nat) (rest : Text) :
    ∃ inner', e.name ∉ inner' ∧
      elementsAt offset (some ⟨e, inner⟩) (p.render ++ rest) =
        elementsAt (offset + byteLength p.render) (some ⟨e, inner'⟩) rest := by
  cases p with
  | text t => exact ⟨inner, hmem, elementsAt_append_plain hp⟩
  | comment c => exact exists_elementsAt_append_of_isForeignTo (.comment hp) trivial hmem offset
  | opening l =>
    obtain ⟨hl, hne, hraw⟩ := hp
    have hread : Token.IsRead rest (.startTag (l.tag false)) :=
      .startTag (hl.isWritten_tag false) (Label.opensRawText_tag_false hraw)
    rw [render, ← Label.spelling_tag_false]
    exact exists_elementsAt_append_of_isForeignTo hread (.inr (he ▸ hne)) hmem offset
  | selfClosed l =>
    have hread : Token.IsRead rest (.startTag (l.tag true)) :=
      .startTag (Label.IsWellFormed.isWritten_tag hp true) (opensRawText_of_isWhole rfl)
    rw [render, ← Label.spelling_tag_true]
    exact exists_elementsAt_append_of_isForeignTo hread (.inl rfl) hmem offset
  | closing n =>
    have hread := hp.1.isRead_endTag rest
    have hspell : (Token.endTag n ['>']).spelling = closingTag n := Label.spelling_endTag ⟨n, []⟩
    rw [render, ← hspell]
    exact exists_elementsAt_append_of_isForeignTo hread (he ▸ hp.2) hmem offset
  | raw l content close =>
    obtain ⟨hl, hraw, hcontent, hclose⟩ := hp
    have hname : '<' ∉ lower (lower l.name) := by
      rw [lower_lower]
      exact (by decide : ∀ n ∈ rawTextNames, '<' ∉ n) _ hraw
    have hwritten : RawText.IsWritten (lower l.name) ⟨content, closingTag close, rest⟩ :=
      (RawText.split?_eq_none_iff.mp hcontent).isWritten hname
        (isEndTag_closingTag (hclose.trans (lower_lower l.name).symm) rest)
    have hread : Token.IsRead rest (.rawElement (l.tag false) content (some (closingTag close))) :=
      .rawElement (hl.isWritten_tag false) (Label.opensRawText_tag_false_of_mem hraw) hwritten
    have hstep := exists_elementsAt_append_of_isForeignTo hread trivial hmem offset
    rwa [Token.spelling, Label.spelling_tag_false, Option.getD_some] at hstep

/-- Foreign pieces in any order leave the element open, and no element of its name gets open
inside. -/
theorem exists_elementsAt_flatMap_render_append {pieces : List Piece}
    (hpieces : ∀ p ∈ pieces, p.IsForeignTo name) (he : e.name = lower name)
    (hmem : e.name ∉ inner) (offset : Nat) (rest : Text) :
    ∃ inner', e.name ∉ inner' ∧
      elementsAt offset (some ⟨e, inner⟩) (pieces.flatMap Piece.render ++ rest) =
        elementsAt (offset + byteLength (pieces.flatMap Piece.render)) (some ⟨e, inner'⟩) rest := by
  induction pieces generalizing offset inner with
  | nil => exact ⟨inner, hmem, rfl⟩
  | cons p pieces ih =>
    obtain ⟨hp, hpieces⟩ := List.forall_mem_cons.mp hpieces
    obtain ⟨inner₁, hmem₁, hstep⟩ := Piece.exists_elementsAt_render_append hp he hmem offset
      (pieces.flatMap Piece.render ++ rest)
    obtain ⟨inner', hmem', hrun⟩ := ih hpieces hmem₁ (offset + byteLength p.render)
    refine ⟨inner', hmem', ?_⟩
    rw [List.flatMap_cons, List.append_assoc, hstep, hrun, byteLength_append, Nat.add_assoc]

/-! ### The end of the element -/

/-- An element whose name is neither void nor that of raw text ends with its own end tag, whatever
pieces that are foreign to it stand inside, in whatever order: it is the first element that is
found, its content is exactly what is written between its tags, and the elements found behind it
are those of the text behind it. -/
theorem elements_misnested (l : Label) (pieces : List Piece) (rest : Text) (hl : l.IsWellFormed)
    (hvoid : lower l.name ∉ voidNames) (hraw : lower l.name ∉ rawTextNames)
    (hpieces : ∀ p ∈ pieces, p.IsForeignTo l.name) :
    let start := l.opening ++ ['>']
    let content := pieces.flatMap Piece.render
    let whole := start ++ content ++ l.closing
    ∃ e, elements (whole ++ rest) =
        e :: (elements rest).map (Element.shift (byteLength whole)) ∧
      e.found (whole ++ rest) = l.found 0 start content l.closing := by
  intro start content whole
  have hstart : (l.tag false).spelling = start := l.spelling_tag_false
  refine ⟨(l.tag false).elementWith 0 content l.closing, ?_, ?_⟩
  · obtain ⟨inner, hmem, hrun⟩ := exists_elementsAt_flatMap_render_append
      (e := (l.tag false).element 0) hpieces rfl List.not_mem_nil
      (byteLength start) (l.closing ++ rest)
    have hopen : elementsAt 0 none
        ((l.tag false).spelling ++ (content ++ (l.closing ++ rest))) = _ :=
      elementsAt_append_open (hl.isWritten_tag false) (Label.isWhole_tag_false hvoid)
        (Label.opensRawText_tag_false hraw)
    have hclose : elementsAt (byteLength start + byteLength content)
        (some ⟨(l.tag false).element 0, inner⟩) (_ ++ rest) = _ :=
      elementsAt_append_endTag (hl.isRead_endTag rest) rfl hmem
    rw [hstart, Nat.zero_add] at hopen
    rw [Label.spelling_endTag] at hclose
    have hlen : byteLength start + byteLength content + byteLength l.closing =
        0 + byteLength whole := by
      simp only [whole, byteLength_append, Nat.zero_add]
    calc elements (whole ++ rest)
        = elementsAt 0 none (start ++ (content ++ (l.closing ++ rest))) := by
          rw [elements_eq_elementsAt]
          simp only [whole, List.append_assoc]
      _ = elementsAt (byteLength start) (some ⟨(l.tag false).element 0, []⟩)
            (content ++ (l.closing ++ rest)) := hopen
      _ = elementsAt (byteLength start + byteLength content)
            (some ⟨(l.tag false).element 0, inner⟩) (l.closing ++ rest) := hrun
      _ = (l.tag false).elementWith 0 content l.closing ::
            elementsAt (0 + byteLength whole) none rest := by
          rw [hclose, hlen, StartTag.elementWith, closingSpan, hstart]
          simp only [byteLength_append, Nat.zero_add, whole]
      _ = (l.tag false).elementWith 0 content l.closing ::
            (elements rest).map (Element.shift (byteLength whole)) := by
          rw [elementsAt_add, elements_eq_elementsAt]
  · have hfound := hl.found_elementWith false [] content l.closing rest
    rw [hstart] at hfound
    exact hfound

/-- Start tags without end tags, end tags without start tags, and elements that are closed in the
wrong order, with end tags of the element around them in a comment, in a value and in raw text. -/
def misnestedPieces : List Piece :=
  [.closing "p".toList, .opening ⟨"b".toList, []⟩,
    .opening ⟨"I".toList, [("x".toList, "</div>".toList)]⟩, .text " é > ".toList,
    .closing "B".toList, .comment "</div>".toList, .closing "i".toList,
    .opening ⟨"br".toList, []⟩, .selfClosed ⟨"div".toList, []⟩, .closing "script".toList,
    .raw ⟨"style".toList, []⟩ "</div></styl".toList "STYLE".toList, .opening ⟨"p".toList, []⟩]

theorem elements_misnested_misnestedPieces :
    ((Label.mk "DIV".toList []).IsWellFormed ∧ lower "DIV".toList ∉ voidNames ∧
      lower "DIV".toList ∉ rawTextNames ∧
      ∀ p ∈ misnestedPieces, p.IsForeignTo "DIV".toList) ∧
    ∃ e, elements ("<DIV>".toList ++ misnestedPieces.flatMap Piece.render ++ "</DIV>".toList ++
          "</p><p>".toList) =
        e :: (elements "</p><p>".toList).map (Element.shift 108) ∧
      e.endTag = some ⟨102, 108⟩ := by
  have hl : (Label.mk "DIV".toList []).IsWellFormed := by decide +kernel
  have hpieces : ∀ p ∈ misnestedPieces, p.IsForeignTo "DIV".toList := by decide +kernel
  obtain ⟨e, helements, hfound⟩ := elements_misnested ⟨"DIV".toList, []⟩ misnestedPieces
    "</p><p>".toList hl (by decide) (by decide) hpieces
  exact ⟨⟨hl, by decide, by decide, hpieces⟩, e, helements, congrArg Found.endTag hfound⟩

end ComponentFile.Markup
