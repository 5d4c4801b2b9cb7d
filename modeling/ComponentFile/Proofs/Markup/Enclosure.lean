import ComponentFile.Proofs.Markup.Nesting
import ComponentFile.Proofs.Text.BlankLines

/-!
# Enclosed texts

The content of an element is enclosed by its tags: its tokens end where the end tag begins, none of
them closes the element, and at the end nothing of the same name is open inside.  Whether a text is
enclosed does not depend on what stands around the element, so an enclosed text can be taken out of
one element and put into another of the same name.

## Main definitions

* `IsEnclosed` : the texts that are the content of an element, whatever its end tag is.

## Main results

* `IsEnclosed.elementsAt_append` : an end tag behind an enclosed text closes the element.
* `IsEnclosed.plain_append`, `IsEnclosed.append_plain` : plain text may be added on both sides.
* `IsEnclosed.onLines` : an enclosed text may be put on lines of its own.
-/

namespace ComponentFile.Markup

open Text

variable {name n tail : Text} {inner : List Text} {offset : Nat} {c : Char} {k : Token}
  {ks : List Token} {e : Element} {rest s t : Text}

/-- A text that can be the content of an element: it is read as a whole in front of an end tag,
which then closes the element. -/
def IsEnclosed (name t : Text) : Prop :=
  ∃ ks inner, ks.flatMap Token.spelling = t ∧ Token.AreRead ['<'] ks ∧
    runInside name [] ks = some inner ∧ name ∉ inner

theorem isEnclosed_nil (name : Text) : IsEnclosed name [] :=
  ⟨[], [], rfl, trivial, rfl, List.not_mem_nil⟩

/-- An end tag behind an enclosed text closes the element. -/
theorem IsEnclosed.elementsAt_append (h : IsEnclosed e.name s)
    (hend : Token.IsRead t (.endTag n tail)) (hn : lower n = e.name) :
    elementsAt offset (some ⟨e, []⟩) (s ++ ((Token.endTag n tail).spelling ++ t)) =
      { e with endTag := some ⟨offset + byteLength s,
          offset + byteLength s + byteLength (Token.endTag n tail).spelling⟩ } ::
        elementsAt (offset + byteLength s + byteLength (Token.endTag n tail).spelling) none t := by
  obtain ⟨ks, inner, rfl, hread, hrun, hmem⟩ := h
  have hclose : Token.AreRead ((Token.endTag n tail).spelling ++ t) ks := hread.of_head?_eq rfl
  have htokens : Token.ofText ((Token.endTag n tail).spelling ++ t) =
      .endTag n tail :: Token.ofText t := hend.ofText_append
  rw [elementsAt_append_of_areRead hclose, elementsFrom_append_inside hrun, htokens,
    elementsFrom_endTag_closes hn hmem]
  rfl

/-! ### Plain text around enclosed text -/

namespace Token

/-- A token is a run of text, or it begins with `<`. -/
theorem IsRead.isRun_or_head?_eq (h : IsRead rest k) :
    (∃ s, k = plain s ∧ '<' ∉ s ∧ ∀ c ∈ rest.head?, c = '<') ∨ k.spelling.head? = some '<' := by
  cases h with
  | text _ hs hrest => exact .inl ⟨_, rfl, hs, hrest⟩
  | declaration hs _ =>
    obtain ⟨u, rfl, -⟩ | ⟨u, rfl⟩ := hs <;> exact .inr rfl
  | _ => exact .inr rfl

/-- A token in front of `<` is a run of text, or it is read in the same way in front of a character
that does not give a preceding `<` a meaning. -/
theorem IsRead.isRun_or_isRead_cons (h : IsRead ['<'] k) (hc : ¬BeginsTag c) :
    (∃ s, k = plain s ∧ s ≠ [] ∧ '<' ∉ s) ∨ IsRead (c :: t) k := by
  by_cases hplain : ∃ s, k = plain s
  · obtain ⟨s, rfl⟩ := hplain
    cases h with
    | text hne hs _ => exact .inl ⟨s, rfl, hne, hs⟩
    | loneOpen _ => exact .inr (.loneOpen (by simpa using hc))
    | loneSlash hrest => simp [isNameEnd, isSpace] at hrest
    | unfinishedTag _ _ hrest => cases hrest
  · exact .inr (h.isClosed (List.cons_ne_nil _ _) (fun s hs ↦ hplain ⟨s, hs⟩) _)

/-- Plain text in front of tokens adds to them nothing but plain text. -/
theorem AreRead.exists_plain_append (h : AreRead ['<'] ks) (hs : '<' ∉ s) :
    ∃ ks', ks'.flatMap spelling = s ++ ks.flatMap spelling ∧ AreRead ['<'] ks' ∧
      ∀ name inner, runInside name inner ks' = runInside name inner ks := by
  by_cases hnil : s = []
  · exact ⟨ks, by simp [hnil], h, fun _ _ ↦ rfl⟩
  cases ks with
  | nil => exact ⟨[plain s], by simp [spelling], ⟨.text hnil hs (by simp), trivial⟩, fun _ _ ↦ rfl⟩
  | cons k ks =>
    obtain ⟨u, rfl, hu, hrest⟩ | hhead := h.1.isRun_or_head?_eq
    · have hread : IsRead (ks.flatMap spelling ++ ['<']) (plain (s ++ u)) :=
        .text (by simp [hnil]) (by simp [hs, hu]) hrest
      exact ⟨plain (s ++ u) :: ks, by simp [spelling], ⟨hread, h.2⟩, fun _ _ ↦ rfl⟩
    · have hread : IsRead ((k :: ks).flatMap spelling ++ ['<']) (plain s) :=
        .text hnil hs (by simp [hhead])
      exact ⟨plain s :: k :: ks, by simp [spelling], ⟨hread, h⟩, fun _ _ ↦ rfl⟩

/-- Plain text behind tokens adds to them nothing but plain text, unless it gives a `<` at their
end a meaning. -/
theorem AreRead.exists_append_plain (h : AreRead ['<'] ks) (hs : '<' ∉ s)
    (hfirst : ∀ c ∈ s.head?, ¬BeginsTag c) :
    ∃ ks', ks'.flatMap spelling = ks.flatMap spelling ++ s ∧ AreRead ['<'] ks' ∧
      ∀ name inner, runInside name inner ks' = runInside name inner ks := by
  cases s with
  | nil => exact ⟨ks, by simp, h, fun _ _ ↦ rfl⟩
  | cons c s =>
    have hplain : AreRead ['<'] [plain (c :: s)] := ⟨.text (by simp) hs (by simp), trivial⟩
    obtain rfl | ⟨ks, k, rfl⟩ := List.eq_nil_or_concat ks
    · exact ⟨[plain (c :: s)], by simp [spelling], hplain, fun _ _ ↦ rfl⟩
    rw [List.concat_eq_append] at h ⊢
    obtain ⟨hks, hk, -⟩ := areRead_append_iff.mp h
    obtain ⟨u, rfl, hne, hu⟩ | hread := hk.isRun_or_isRead_cons (t := s ++ ['<']) (hfirst c rfl)
    · -- a run of text at the end goes on in the new text
      refine ⟨ks ++ [plain (u ++ c :: s)], by simp [spelling], areRead_append_iff.mpr
        ⟨hks.of_head?_eq ?_, .text (by simp) (by simp_all) (by simp), trivial⟩, fun _ _ ↦ ?_⟩
      · obtain ⟨d, u, rfl⟩ := List.exists_cons_of_ne_nil hne
        simp [spelling]
      · simp only [runInside_append, runInside_cons, stepInside]
    · refine ⟨ks ++ [k, plain (c :: s)], by simp [spelling], areRead_append_iff.mpr
        ⟨hks.of_head?_eq ?_, by simpa [spelling] using hread, hplain⟩, fun _ _ ↦ ?_⟩
      · obtain ⟨d, u, hu⟩ := List.exists_cons_of_ne_nil hk.spelling_ne_nil
        simp [hu]
      · simp only [runInside_append, runInside_cons, stepInside, runInside_nil, Option.bind_some]

end Token

/-- Plain text in front of an enclosed text is enclosed with it. -/
theorem IsEnclosed.plain_append (h : IsEnclosed name t) (hs : '<' ∉ s) :
    IsEnclosed name (s ++ t) := by
  obtain ⟨ks, inner, rfl, hread, hrun, hmem⟩ := h
  obtain ⟨ks', hspell, hread', hrun'⟩ := hread.exists_plain_append hs
  exact ⟨ks', inner, hspell, hread', hrun' name [] ▸ hrun, hmem⟩

/-- Plain text behind an enclosed text is enclosed with it, unless it gives a `<` at the end of
that a meaning. -/
theorem IsEnclosed.append_plain (h : IsEnclosed name t) (hs : '<' ∉ s)
    (hfirst : ∀ c ∈ s.head?, ¬Token.BeginsTag c) : IsEnclosed name (t ++ s) := by
  obtain ⟨ks, inner, rfl, hread, hrun, hmem⟩ := h
  obtain ⟨ks', hspell, hread', hrun'⟩ := hread.exists_append_plain hs hfirst
  exact ⟨ks', inner, hspell, hread', hrun' name [] ▸ hrun, hmem⟩

/-- Enclosed text may be put on lines of its own. -/
theorem IsEnclosed.onLines (h : IsEnclosed name t) : IsEnclosed name (onLines t) := by
  refine (h.plain_append (s := ['\n']) (by decide)).append_plain (s := ['\n']) (by decide) ?_
  rintro c ⟨⟩
  simp [Token.BeginsTag]

end ComponentFile.Markup
