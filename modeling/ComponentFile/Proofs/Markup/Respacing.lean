import ComponentFile.Proofs.Markup.Contents
import ComponentFile.Proofs.Text.Respacing

/-!
# Markup after a change of white space

A change of white space does not change where the tokens of a text begin and end: it acts on each
of them by itself, and what it leaves of a token is the token of that name again.  So the content
of an element stays its content.

## Main definitions

* `Token.respace` : what a change of white space leaves of a token.

## Main results

* `StartTag.IsWritten.respace` : a start tag stays a start tag.
* `Token.AreRead.respace` : tokens stay tokens.
* `IsEnclosed.respace` : enclosed text stays enclosed.
* `IsEnclosed.onLines_stripBlankLines` : taking blank lines out of an enclosed text leaves one.
* `RawText.HasNoEndTag.stripBlankLines` : taking blank lines out makes no end tag.
-/

namespace ComponentFile.Markup

open Text

variable {f : Text → Text} {c d : Char} {name rest t : Text} {inner : List Text}

/-! ### Classes of characters -/

theorem isNameEnd_iff_of_isSpace (hc : isSpace c = true) (hd : isSpace d = true) :
    isNameEnd c = true ↔ isNameEnd d = true := by
  rw [isNameEnd_of_isSpace hc, isNameEnd_of_isSpace hd]

theorem ne_of_isSpace (hc : isSpace c = true) (hd : isSpace d = false) : c ≠ d := by
  rintro rfl
  rw [hc] at hd
  cases hd

theorem not_beginsTag_of_isSpace (hc : isSpace c = true) : ¬Token.BeginsTag c := by
  rintro (halpha | rfl | rfl | rfl)
  · have hname := isNameEnd_eq_false_of_isAlpha halpha
    rw [isNameEnd_of_isSpace hc] at hname
    cases hname
  all_goals cases hc

/-! ### Values and assignments -/

/-- What a change of white space leaves of a value. -/
def Value.respace (f : Text → Text) : Value → Value
  | bare b => bare b
  | quoted q b => quoted q (f b)

theorem isSpace_mark (q : Quote) : isSpace q.mark = false := by
  cases q <;> rfl

theorem ofChar?_eq_none_of_isSpace (hc : isSpace c = true) : Quote.ofChar? c = none := by
  have hdouble : c ≠ '"' := ne_of_isSpace hc rfl
  have hsingle : c ≠ '\'' := ne_of_isSpace hc rfl
  rw [Quote.ofChar?, if_neg hdouble, if_neg hsingle]

theorem Value.isBareChar_eq_false_of_isSpace (hc : isSpace c = true) :
    Value.isBareChar c = false := by
  simp [isBareChar, hc]

theorem Value.spelling_respace (hf : IsRespacing f) {v : Value} (h : v.IsWritten rest) :
    f (v.spelling ++ rest) = (v.respace f).spelling ++ f rest := by
  cases v with
  | bare b =>
    refine hf.append_left (fun c hc ↦ ?_) rest
    have hbare := h.1 c hc
    simp only [isBareChar, Bool.and_eq_true, Bool.not_eq_true'] at hbare
    exact hbare.1
  | quoted q b =>
    simp only [spelling, respace, List.cons_append, List.append_assoc, List.nil_append]
    rw [hf.cons (isSpace_mark q), hf.append_cons (isSpace_mark q)]

theorem Value.IsWritten.respace (hf : IsRespacing f) {v : Value} (h : v.IsWritten rest) :
    (v.respace f).IsWritten (f rest) := by
  cases v with
  | bare b =>
    have hspell := Value.spelling_respace hf h
    obtain ⟨hb, hrest, hquote⟩ := h
    refine ⟨hb, (hf.forall_head?_iff fun c d hc hd ↦ ?_).mpr hrest, ?_⟩
    · rw [isBareChar_eq_false_of_isSpace hc, isBareChar_eq_false_of_isSpace hd]
    · rw [← show f (b ++ rest) = b ++ f rest from hspell]
      refine (hf.exists_head?_iff fun c d hc hd ↦ ?_).mpr hquote
      rw [ofChar?_eq_none_of_isSpace hc, ofChar?_eq_none_of_isSpace hd]
  | quoted q b => exact fun hmem ↦ h (hf.subset b hmem)

/-- What a change of white space leaves of an assignment. -/
def Assignment.respace (f : Text → Text) (a : Assignment) : Assignment :=
  ⟨f a.before, f a.after, a.value.respace f⟩

theorem Assignment.spelling_respace (hf : IsRespacing f) {a : Assignment}
    (h : a.IsWritten rest) : f (a.spelling ++ rest) = (a.respace f).spelling ++ f rest := by
  obtain ⟨-, -, hfirst, hvalue⟩ := h
  simp only [spelling, respace, List.append_assoc, List.cons_append]
  rw [hf.append_cons rfl, hf.append_of_head? hfirst, Value.spelling_respace hf hvalue]

theorem Assignment.IsWritten.respace (hf : IsRespacing f) {a : Assignment}
    (h : a.IsWritten rest) : (a.respace f).IsWritten (f rest) := by
  obtain ⟨hbefore, hafter, hfirst, hvalue⟩ := h
  refine ⟨hf.isSpace_of_mem hbefore, hf.isSpace_of_mem hafter, ?_, hvalue.respace hf⟩
  have hhead := (hf.forall_head?_iff (p := fun c ↦ isSpace c = false)
    fun c d hc hd ↦ by rw [hc, hd]).mpr hfirst
  rwa [Value.spelling_respace hf hvalue] at hhead

theorem Assignment.IsWritten?.respace (hf : IsRespacing f) {a? : Option Assignment}
    (h : Assignment.IsWritten? rest a?) :
    Assignment.IsWritten? (f rest) (a?.map (Assignment.respace f)) := by
  cases a? with
  | some a => exact Assignment.IsWritten.respace hf h
  | none =>
    rw [Option.map_none, Assignment.IsWritten?, hf.head?_dropWhile_isSpace]
    exact h

/-! ### Attributes -/

namespace Attribute

/-- What a change of white space leaves of an attribute. -/
def respace (f : Text → Text) (a : Attribute) : Attribute :=
  ⟨f a.gap, a.name, a.assignment.map (Assignment.respace f)⟩

theorem isNameChar_eq_false_of_isSpace (hc : isSpace c = true) : isNameChar c = false := by
  simp [isNameChar, isNameEnd_of_isSpace hc]

theorem assignmentSpelling_respace (hf : IsRespacing f) {a : Attribute} (h : a.IsWritten rest) :
    f (a.assignmentSpelling ++ rest) = (a.respace f).assignmentSpelling ++ f rest := by
  have hassign := h.2
  cases ha : a.assignment with
  | none => simp [assignmentSpelling, respace, ha]
  | some assignment =>
    rw [ha] at hassign
    simpa [assignmentSpelling, respace, ha] using Assignment.spelling_respace hf hassign

theorem IsWritten.isSpace_name {a : Attribute} (h : a.IsWritten rest) :
    ∀ c ∈ a.name, isSpace c = false := by
  obtain ⟨hname | ⟨-, hname, -⟩, -⟩ := h
  · rw [hname]
    rintro c (_ | ⟨_, ⟨⟩⟩)
    rfl
  · intro c hc
    have hchar := hname c hc
    simp only [isNameChar, Bool.and_eq_true, Bool.not_eq_true'] at hchar
    exact isSpace_eq_false_of_isNameEnd hchar.1

theorem spelling_respace (hf : IsRespacing f) {a : Attribute} (h : a.IsWritten rest) :
    f (a.spelling ++ rest) = (a.respace f).spelling ++ f rest := by
  have hname := h.isSpace_name
  have hhead : ∀ c ∈ (a.name ++ (a.assignmentSpelling ++ rest)).head?, isSpace c = false := by
    rw [List.head?_append_of_ne_nil _ h.name_ne_nil]
    exact fun c hc ↦ hname c (List.mem_of_mem_head? hc)
  rw [spelling_eq, spelling_eq, List.append_assoc, List.append_assoc, hf.append_of_head? hhead,
    hf.append_left hname, assignmentSpelling_respace hf h]
  simp [respace]

theorem IsWritten.respace (hf : IsRespacing f) {a : Attribute} (h : a.IsWritten rest) :
    (a.respace f).IsWritten (f rest) := by
  have hspell := assignmentSpelling_respace hf h
  obtain ⟨hname, hassign⟩ := h
  refine ⟨hname.imp_right fun ⟨hne, hchars, hnext⟩ ↦ ⟨hne, hchars, ?_⟩, hassign.respace hf⟩
  rw [← hspell]
  refine (hf.forall_head?_iff fun c d hc hd ↦ ?_).mpr hnext
  rw [isNameChar_eq_false_of_isSpace hc, isNameChar_eq_false_of_isSpace hd]

end Attribute

/-- A gap stays a gap: a slash at its end was there before. -/
theorem IsGap.respace (hf : IsRespacing f) {gap : Text} (h : IsGap rest gap) :
    IsGap rest (f gap) := by
  refine ⟨fun c hc ↦ h.1 c (hf.subset gap hc), fun hrest hlast ↦ h.2 hrest ?_⟩
  obtain ⟨p, hp⟩ := List.getLast?_eq_some_iff.mp hlast
  obtain ⟨s, u, rfl, -, hu⟩ := hf.exists_eq_append_cons hp rfl
  obtain rfl := hf.eq_nil hu
  simp

/-! ### Start tags -/

namespace StartTag

/-- What a change of white space leaves of a start tag. -/
def respace (f : Text → Text) (tag : StartTag) : StartTag :=
  ⟨tag.name, tag.attributes.map (Attribute.respace f), f tag.gap, tag.selfClosing⟩

theorem ending_respace (hf : IsRespacing f) (gap : Text) (selfClosing : Bool) :
    f (ending gap selfClosing) = ending (f gap) selfClosing := by
  have hlast (l : Text) (hl : ∀ c ∈ l, isSpace c = false) : f (gap ++ l) = f gap ++ l := by
    rw [hf.append_of_head? (fun c hc ↦ hl c (List.mem_of_mem_head? hc)), hf.eq_self hl]
  cases selfClosing with
  | true => exact hlast ['/', '>'] (by simp [isSpace])
  | false => exact hlast ['>'] (by simp [isSpace])

theorem body_respace (hf : IsRespacing f) {gap : Text} {selfClosing : Bool}
    {as : List Attribute} (h : IsBody gap selfClosing as) :
    f (as.flatMap Attribute.spelling ++ ending gap selfClosing) =
      (as.map (Attribute.respace f)).flatMap Attribute.spelling ++
        ending (f gap) selfClosing := by
  induction as with
  | nil => exact ending_respace hf gap selfClosing
  | cons a as ih =>
    obtain ⟨-, ha, has⟩ := h
    rw [List.flatMap_cons, List.append_assoc, Attribute.spelling_respace hf ha, ih has,
      List.map_cons, List.flatMap_cons, List.append_assoc]

theorem IsBody.respace (hf : IsRespacing f) {gap : Text} {selfClosing : Bool}
    {as : List Attribute} (h : IsBody gap selfClosing as) :
    IsBody (f gap) selfClosing (as.map (Attribute.respace f)) := by
  induction as with
  | nil => exact IsGap.respace hf h
  | cons a as ih =>
    obtain ⟨hgap, ha, has⟩ := h
    have hwritten := ha.respace hf
    rw [body_respace hf has] at hwritten
    exact ⟨hgap.respace hf, hwritten, ih has⟩

/-- A change of white space acts on the parts of a start tag. -/
theorem spelling_respace (hf : IsRespacing f) {tag : StartTag} (h : tag.IsWritten) :
    f tag.spelling = (tag.respace f).spelling := by
  have hname : ∀ c ∈ tag.name, isSpace c = false :=
    fun c hc ↦ isSpace_eq_false_of_isNameEnd (h.2.1 c hc)
  rw [spelling, List.cons_append, hf.cons rfl, hf.append_left hname, body_respace hf h.2.2.2]
  rfl

/-- A start tag stays a start tag. -/
theorem IsWritten.respace (hf : IsRespacing f) {tag : StartTag} (h : tag.IsWritten) :
    (tag.respace f).IsWritten := by
  obtain ⟨hfirst, hname, hend, hbody⟩ := h
  refine ⟨hfirst, hname, ?_, hbody.respace hf⟩
  have hhead := (hf.forall_head?_iff fun c d hc hd ↦
    isNameEnd_iff_of_isSpace hc hd).mpr hend
  rwa [body_respace hf hbody] at hhead

end StartTag

/-! ### End tags -/

theorem isThrough_respace (hf : IsRespacing f) (hc : isSpace c = false) (hrest : rest ≠ [])
    (h : IsThrough c rest t) : IsThrough c (f rest) (f t) ∧ f (t ++ rest) = f t ++ f rest := by
  obtain ⟨p, rfl, hp⟩ := h.exists_eq_append hrest
  refine ⟨.inl ⟨f p, ?_, fun hmem ↦ hp (hf.subset p hmem)⟩, hf.append_of_getLast? (by simp [hc]) _⟩
  rw [hf.append_cons hc, hf.nil]

/-- Whether an end tag begins at a `<` shows in the new text as in the old one. -/
theorem startsEndTag_respace (hf : IsRespacing f) (hname : ∀ c ∈ lower name, isSpace c = false)
    (h : startsEndTag name t = false) : startsEndTag name (f t) = false := by
  rw [Bool.eq_false_iff] at h ⊢
  intro hstart
  obtain ⟨n, r, htext, hn, hr⟩ := startsEndTag_iff.mp hstart
  have hspace : ∀ c ∈ '<' :: '/' :: n, isSpace c = false := by
    rintro c (_ | ⟨_, _ | ⟨_, hc⟩⟩)
    · rfl
    · rfl
    · have hlower := hname _ (hn ▸ toLower_mem_lower hc)
      rwa [isSpace_toLower] at hlower
  obtain ⟨r', rfl, rfl⟩ := hf.exists_eq_append (s := '<' :: '/' :: n) htext hspace
  refine h (startsEndTag_iff.mpr ⟨n, r', rfl, hn, ?_⟩)
  exact (hf.forall_head?_iff fun c d hc hd ↦ isNameEnd_iff_of_isSpace hc hd).mp hr

/-- Raw text stays raw text, up to what is left of its end tag. -/
theorem RawText.IsWritten.respace (hf : IsRespacing f) {content close after : Text}
    (h : RawText.IsWritten name ⟨content, close, after⟩)
    (hname : ∀ c ∈ lower name, isSpace c = false) (hclose : IsEndTag name (f after) (f close)) :
    RawText.IsWritten name ⟨f content, f close, f after⟩ := by
  refine ⟨fun p s hps hs ↦ ?_, hclose⟩
  obtain ⟨n, tail, htag, -⟩ := h.2
  have hhead : ∀ c ∈ close.head?, isSpace c = false := by
    simp only at htag
    rw [htag]
    rintro c ⟨⟩
    rfl
  obtain ⟨c, s, rfl⟩ := List.exists_cons_of_ne_nil hs
  by_cases hc : c = '<'
  · subst hc
    obtain ⟨p', s', hcontent, -, rfl⟩ := hf.exists_eq_append_cons (c := '<') hps rfl
    have hold := h.1 p' ('<' :: s') hcontent (List.cons_ne_nil _ _)
    have hnew := startsEndTag_respace hf hname hold
    simp only at hnew ⊢
    rwa [hf.append_of_head? hhead, hf.cons rfl] at hnew
  · rw [Bool.eq_false_iff]
    intro hstart
    obtain ⟨n, r, htext, -⟩ := startsEndTag_iff.mp hstart
    exact hc (List.cons.inj htext).1

/-! ### Tokens -/

namespace Token

/-- What a change of white space leaves of a token. -/
def respace (f : Text → Text) : Token → Token
  | plain t => plain (f t)
  | comment t => comment (f t)
  | declaration t => declaration (f t)
  | endTag name tail => endTag name (f tail)
  | startTag tag => startTag (tag.respace f)
  | rawElement tag content close => rawElement (tag.respace f) (f content) (close.map f)

variable {k : Token} {ks : List Token}

theorem BeginsDeclaration.respace (hf : IsRespacing f) (h : BeginsDeclaration t) :
    BeginsDeclaration (f t) := by
  obtain ⟨u, rfl, hu⟩ | ⟨u, rfl⟩ := h
  · refine .inl ⟨f u, by rw [hf.cons rfl, hf.cons rfl], fun ⟨v, hv⟩ ↦ hu ?_⟩
    obtain ⟨v', rfl, -⟩ := hf.exists_eq_append hv.symm (by simp [isSpace])
    exact ⟨v', rfl⟩
  · exact .inr ⟨f u, by rw [hf.cons rfl, hf.cons rfl]⟩

theorem IsRead.respace_endTag (hf : IsRespacing f) (hrest : rest ≠ []) {n tail : Text}
    (h : IsRead rest (.endTag n tail)) : IsRead (f rest) (.endTag n (f tail)) := by
  cases h with
  | endTag hne hname htail hend =>
    refine .endTag hne hname ?_ (isThrough_respace hf rfl hrest hend).1
    exact (hf.forall_head?_iff fun c d hc hd ↦ isNameEnd_iff_of_isSpace hc hd).mpr htail

theorem IsRead.spelling_respace_endTag (hf : IsRespacing f) {n tail : Text}
    (h : IsRead rest (.endTag n tail)) :
    f (Token.endTag n tail).spelling = (Token.endTag n (f tail)).spelling := by
  cases h with
  | endTag _ hname _ _ =>
    have hspace : ∀ c ∈ n, isSpace c = false :=
      fun c hc ↦ isSpace_eq_false_of_isNameEnd (hname c hc)
    rw [spelling, List.cons_append, List.cons_append, hf.cons rfl, hf.cons rfl,
      hf.append_left hspace]
    rfl

/-- Tokens in front of more text stay tokens. -/
theorem IsRead.respace (hf : IsRespacing f) (h : IsRead rest k) (hrest : rest ≠ []) :
    IsRead (f rest) (k.respace f) := by
  cases h with
  | text hne hs hnext =>
    refine .text (fun hnil ↦ hne (hf.eq_nil hnil)) (fun hmem ↦ hs (hf.subset _ hmem)) ?_
    refine (hf.forall_head?_iff fun c d hc hd ↦ ?_).mpr hnext
    simp only [ne_of_isSpace hc (d := '<') rfl, ne_of_isSpace hd (d := '<') rfl]
  | loneOpen hnext =>
    rw [Token.respace, hf.eq_self (s := ['<']) (by simp [isSpace])]
    refine .loneOpen ((hf.forall_head?_iff fun c d hc hd ↦ ?_).mpr hnext)
    simp only [not_beginsTag_of_isSpace hc, not_beginsTag_of_isSpace hd]
  | loneSlash hnext =>
    rw [Token.respace, hf.eq_self (s := ['<', '/']) (by simp [isSpace])]
    exact .loneSlash ((hf.forall_head?_iff fun c d hc hd ↦
      isNameEnd_iff_of_isSpace hc hd).mpr hnext)
  | unfinishedTag _ _ hnil => exact absurd hnil hrest
  | @comment s hs =>
    have htext : f (['<', '!', '-', '-'] ++ s ++ commentEnd) =
        ['<', '!', '-', '-'] ++ f s ++ commentEnd := by
      rw [List.append_assoc, hf.append_left (by simp [isSpace]), commentEnd,
        hf.append_of_head? (by simp [isSpace]),
        hf.eq_self (s := ['-', '-', '>']) (by simp [isSpace]), List.append_assoc]
    rw [Token.respace, htext]
    exact .comment fun hin ↦ hs (hf.infix_of_infix_apply hin (by simp [commentEnd, isSpace]))
  | openComment _ hnil => exact absurd hnil hrest
  | declaration hs hend =>
    exact .declaration (hs.respace hf) (isThrough_respace hf rfl hrest hend).1
  | endTag hne hname htail hend =>
    exact (IsRead.endTag hne hname htail hend).respace_endTag hf hrest
  | startTag htag hraw => exact .startTag (htag.respace hf) hraw
  | @rawElement tag content close htag hraw hclose =>
    have hname : ∀ c ∈ lower tag.lowerName, isSpace c = false := by
      rw [StartTag.lowerName, lower_lower]
      intro c hc
      obtain ⟨d, hd, rfl⟩ := List.mem_map.mp hc
      rw [isSpace_toLower, isSpace_eq_false_of_isNameEnd (htag.2.1 d hd)]
    obtain ⟨n, tail, hspell, hn, hread⟩ := hclose.2.exists_isRead htag
    have hend : IsEndTag tag.lowerName (f rest) (f close) := by
      rw [show close = (Token.endTag n tail).spelling from hspell,
        IsRead.spelling_respace_endTag hf hread]
      refine (hread.respace_endTag hf hrest).isEndTag ?_
      rw [hn, StartTag.lowerName, lower_lower]
    exact .rawElement (htag.respace hf) hraw (hclose.respace hf hname hend)
  | openRawElement _ _ _ hnil => exact absurd hnil hrest

/-- An end tag in front of more text ends with `>`. -/
theorem exists_isEndTag_eq_concat {close : Text} (h : IsEndTag name rest close)
    (hrest : rest ≠ []) : ∃ s, close = s ++ ['>'] := by
  obtain ⟨n, tail, rfl, -, -, hend⟩ := h
  obtain ⟨p, rfl, -⟩ := hend.exists_eq_append hrest
  exact ⟨'<' :: '/' :: (n ++ p), by simp⟩

/-- A token in front of more text is a run of text in front of `<`, or it does not end with white
space. -/
theorem IsRead.isRun_or_exists_eq_concat (h : IsRead rest k) (hrest : rest ≠ []) :
    (∀ c ∈ rest.head?, c = '<') ∨ ∃ s c, k.spelling = s ++ [c] ∧ isSpace c = false := by
  cases h with
  | text _ _ hnext => exact .inl hnext
  | loneOpen _ => exact .inr ⟨[], '<', rfl, rfl⟩
  | loneSlash _ => exact .inr ⟨['<'], '/', rfl, rfl⟩
  | unfinishedTag _ _ hnil => exact absurd hnil hrest
  | @comment s _ =>
    exact .inr ⟨['<', '!', '-', '-'] ++ s ++ ['-', '-'], '>', by simp [spelling, commentEnd], rfl⟩
  | openComment _ hnil => exact absurd hnil hrest
  | declaration _ hend =>
    obtain ⟨p, rfl, -⟩ := hend.exists_eq_append hrest
    exact .inr ⟨p, '>', rfl, rfl⟩
  | @endTag n tail _ _ _ hend =>
    obtain ⟨p, rfl, -⟩ := hend.exists_eq_append hrest
    exact .inr ⟨'<' :: '/' :: (n ++ p), '>', by simp [spelling], rfl⟩
  | @startTag tag _ _ =>
    obtain ⟨inside, hspell⟩ := tag.exists_spelling_eq_append
    exact .inr ⟨'<' :: (tag.name ++ inside), '>', by simp [spelling, hspell], rfl⟩
  | @rawElement tag content close _ _ hclose =>
    obtain ⟨p, hp⟩ : ∃ p, close = p ++ ['>'] := exists_isEndTag_eq_concat hclose.2 hrest
    exact .inr ⟨tag.spelling ++ content ++ p, '>', by simp [spelling, hp], rfl⟩
  | openRawElement _ _ _ hnil => exact absurd hnil hrest

theorem IsRead.append_respace (hf : IsRespacing f) (h : IsRead rest k) (hrest : rest ≠ []) :
    f (k.spelling ++ rest) = f k.spelling ++ f rest := by
  obtain hnext | ⟨s, c, hspell, hc⟩ := h.isRun_or_exists_eq_concat hrest
  · refine hf.append_of_head? (fun c hc ↦ ?_) _
    rw [hnext c hc]
    rfl
  · rw [hspell]
    exact hf.append_of_getLast? (by simp [hc]) _

/-- A change of white space acts on the parts of a token. -/
theorem IsRead.spelling_respace (hf : IsRespacing f) (h : IsRead rest k) (hrest : rest ≠ []) :
    f k.spelling = (k.respace f).spelling := by
  cases h with
  | endTag hne hname htail hend =>
    exact (IsRead.endTag hne hname htail hend).spelling_respace_endTag hf
  | startTag htag _ => exact StartTag.spelling_respace hf htag
  | @rawElement tag content close htag _ hclose =>
    obtain ⟨inside, hspell⟩ := tag.exists_spelling_eq_append
    have htag' : f (tag.spelling ++ content) = f tag.spelling ++ f content := by
      refine hf.append_of_getLast? ?_ _
      rw [hspell, ← List.cons_append, ← List.append_assoc, List.getLast?_concat]
      rintro c ⟨⟩
      rfl
    have hclose' : ∀ c ∈ close.head?, isSpace c = false := by
      obtain ⟨n, tail, htag, -⟩ := hclose.2
      rw [show close = _ from htag]
      rintro c ⟨⟩
      rfl
    rw [spelling, Option.getD_some, hf.append_of_head? hclose', htag',
      StartTag.spelling_respace hf htag]
    rfl
  | unfinishedTag _ _ hnil => exact absurd hnil hrest
  | openRawElement _ _ _ hnil => exact absurd hnil hrest
  | _ => rfl

/-- Tokens stay tokens, and a change of white space acts on each of them by itself. -/
theorem AreRead.respace (hf : IsRespacing f) (h : AreRead rest ks) (hrest : rest ≠ []) :
    f (ks.flatMap spelling ++ rest) = (ks.map (Token.respace f)).flatMap spelling ++ f rest ∧
      AreRead (f rest) (ks.map (Token.respace f)) := by
  induction ks with
  | nil => exact ⟨rfl, trivial⟩
  | cons k ks ih =>
    obtain ⟨hspell, hks⟩ := ih h.2
    have hne : ks.flatMap spelling ++ rest ≠ [] := List.append_ne_nil_of_right_ne_nil _ hrest
    have hk := h.1.respace hf hne
    rw [hspell] at hk
    refine ⟨?_, hk, hks⟩
    rw [List.flatMap_cons, List.append_assoc, h.1.append_respace hf hne,
      h.1.spelling_respace hf hne, hspell, List.map_cons, List.flatMap_cons, List.append_assoc]

end Token

/-- What is left of a token does to the open elements what the token does. -/
theorem stepInside_respace (f : Text → Text) (k : Token) :
    stepInside name inner (k.respace f) = stepInside name inner k := by
  cases k <;> rfl

theorem runInside_map_respace (f : Text → Text) (ks : List Token) :
    runInside name inner (ks.map (Token.respace f)) = runInside name inner ks := by
  induction ks generalizing inner with
  | nil => rfl
  | cons k ks ih => simp only [List.map_cons, runInside_cons, stepInside_respace, ih]

/-- Enclosed text stays enclosed. -/
theorem IsEnclosed.respace (hf : IsRespacing f) (h : IsEnclosed name t) :
    IsEnclosed name (f t) := by
  obtain ⟨ks, inner, rfl, hread, hrun, hmem⟩ := h
  obtain ⟨hspell, hks⟩ := hread.respace hf (List.cons_ne_nil _ _)
  have hlast : f ['<'] = ['<'] := hf.eq_self (by simp [isSpace])
  rw [hf.append_of_head? (by simp [isSpace]), hlast] at hspell
  exact ⟨_, inner, (List.append_cancel_right hspell).symm, hlast ▸ hks,
    (runInside_map_respace f ks).trans hrun, hmem⟩

/-- Taking the blank lines out of an enclosed text leaves an enclosed text, if these hold spaces
only. -/
theorem IsEnclosed.onLines_stripBlankLines (h : IsEnclosed name t)
    (hspace : ∀ l ∈ lines t, allBlank l = true → l.all isSpace = true) :
    IsEnclosed name (Text.onLines (stripBlankLines t)) := by
  by_cases hfilled : filledLines t = []
  · rw [stripBlankLines_eq, hfilled]
    exact (isEnclosed_nil name).onLines
  · rw [← squeeze_onLines hspace hfilled]
    exact h.onLines.respace isRespacing_squeeze

/-! ### Raw text without blank lines -/

namespace RawText

/-- A text has no end tag in it exactly when none of its lines has one. -/
theorem hasNoEndTag_iff_lines (hname : '\n' ∉ lower name) :
    HasNoEndTag name t ↔ ∀ l ∈ lines t, HasNoEndTag name l := by
  induction t using induction_lines with
  | single t ht => rw [lines_of_notMem ht, List.forall_mem_singleton]
  | append l t hl ih =>
    rw [lines_line_append hl, List.forall_mem_cons, hasNoEndTag_append_newline_iff hname, ih]

/-- Taking the blank lines out of a text makes no end tag in it. -/
theorem HasNoEndTag.stripBlankLines (h : HasNoEndTag name t)
    (hname : '\n' ∉ lower name) : HasNoEndTag name (stripBlankLines t) := by
  rw [hasNoEndTag_iff_lines hname] at h ⊢
  intro l hl
  obtain rfl | hl := mem_lines_of_mem_lines_stripBlankLines hl
  · exact hasNoEndTag_nil name
  · exact h l hl

end RawText

end ComponentFile.Markup
