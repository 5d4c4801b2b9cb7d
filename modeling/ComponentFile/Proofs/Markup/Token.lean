import ComponentFile.Markup.Token
import ComponentFile.Proofs.Markup.EndTag
import ComponentFile.Proofs.Markup.StartTag

/-!
# Reading tokens

`Token.IsRead rest k` says that `k` is a token as the reader finds it in front of the text `rest`.
Of the text behind it a token sees the first character at most, and a token that ends with `>`
sees nothing at all.  A part of a text at whose end a token ends is therefore read as the same
tokens in every surrounding in which it is followed by the same character.

## Main definitions

* `Token.IsRead` : the tokens as they are read in front of a text.
* `Token.IsClosed` : the tokens that are read whatever follows.
* `Token.AreRead` : tokens that are read one after another in front of a text.

## Main results

* `Token.next?_eq_some_iff` : what the reader finds at the front of a text.
* `Token.IsRead.of_head?_eq` : a token sees at most one character of the text behind it.
* `Token.ofText_append` : tokens that are read in front of a text are read there.
* `Token.areRead_ofText` : the tokens of a text are read one after another.
-/

namespace ComponentFile.Markup.Token

open Text

variable {c : Char} {rest s t u : Text} {k : Token} {ks : List Token}

/-! ### Tokens in front of a text -/

/-- The characters that give a preceding `<` a meaning. -/
def BeginsTag (c : Char) : Prop :=
  c.isAlpha = true ∨ c = '!' ∨ c = '?' ∨ c = '/'

/-- The beginnings of declarations and instructions, which are no comments. -/
def BeginsDeclaration (t : Text) : Prop :=
  (∃ u, t = '<' :: '!' :: u ∧ ¬['-', '-'] <+: u) ∨ ∃ u, t = '<' :: '?' :: u

/-- The end of a comment. -/
def commentEnd : Text := ['-', '-', '>']

/-- The tokens as they are read in front of the text `rest`. -/
inductive IsRead (rest : Text) : Token → Prop
  | text {s : Text} (hne : s ≠ []) (hs : '<' ∉ s) (hrest : ∀ c ∈ rest.head?, c = '<') :
      IsRead rest (plain s)
  | loneOpen (hrest : ∀ c ∈ rest.head?, ¬BeginsTag c) : IsRead rest (plain ['<'])
  | loneSlash (hrest : ∀ c ∈ rest.head?, isNameEnd c = true) : IsRead rest (plain ['<', '/'])
  | unfinishedTag {c : Char} {s : Text} (hc : c.isAlpha = true)
      (hs : StartTag.parse? ('<' :: c :: s) = none) (hrest : rest = []) :
      IsRead rest (plain ('<' :: c :: s))
  | comment {s : Text} (hs : ¬commentEnd <:+: s) :
      IsRead rest (comment (['<', '!', '-', '-'] ++ s ++ commentEnd))
  | openComment {s : Text} (hs : cut? commentEnd s = none) (hrest : rest = []) :
      IsRead rest (.comment (['<', '!', '-', '-'] ++ s))
  | declaration {s : Text} (hs : BeginsDeclaration s) (hend : IsThrough '>' rest s) :
      IsRead rest (declaration s)
  | endTag {name tail : Text} (hne : name ≠ []) (hname : ∀ c ∈ name, isNameEnd c = false)
      (htail : ∀ c ∈ tail.head?, isNameEnd c = true) (hend : IsThrough '>' rest tail) :
      IsRead rest (endTag name tail)
  | startTag {tag : StartTag} (htag : tag.IsWritten) (hraw : tag.opensRawText = false) :
      IsRead rest (startTag tag)
  | rawElement {tag : StartTag} {content close : Text} (htag : tag.IsWritten)
      (hraw : tag.opensRawText = true)
      (hclose : RawText.IsWritten tag.lowerName ⟨content, close, rest⟩) :
      IsRead rest (rawElement tag content (some close))
  | openRawElement {tag : StartTag} {content : Text} (htag : tag.IsWritten)
      (hraw : tag.opensRawText = true) (hcontent : RawText.HasNoEndTag tag.lowerName content)
      (hrest : rest = []) : IsRead rest (rawElement tag content none)

/-- The tokens that are read whatever follows. -/
def IsClosed (k : Token) : Prop :=
  ∀ rest, IsRead rest k

theorem IsRead.isWritten_startTag {tag : StartTag} (h : IsRead rest (.startTag tag)) :
    tag.IsWritten := by
  cases h with
  | startTag htag _ => exact htag

theorem IsRead.opensRawText_startTag {tag : StartTag} (h : IsRead rest (.startTag tag)) :
    tag.opensRawText = false := by
  cases h with
  | startTag _ hraw => exact hraw

theorem IsRead.isWritten_rawElement {tag : StartTag} {content : Text} {close : Option Text}
    (h : IsRead rest (.rawElement tag content close)) : tag.IsWritten := by
  cases h with
  | rawElement htag _ _ => exact htag
  | openRawElement htag _ _ _ => exact htag

/-- An end tag token is written like the end tag of an element of its name. -/
theorem IsRead.isEndTag {name n tail : Text} (h : IsRead rest (.endTag n tail))
    (hn : lower n = lower name) : IsEndTag name rest (Token.endTag n tail).spelling := by
  cases h with
  | endTag _ _ htail hend => exact ⟨n, tail, rfl, hn, htail, hend⟩

theorem isThrough_congr {c : Char} {s : Text} (h : rest = [] ↔ t = []) :
    IsThrough c rest s ↔ IsThrough c t s := by
  simp only [IsThrough, h]

/-- A token sees at most one character of the text behind it. -/
theorem IsRead.of_head?_eq (hk : IsRead rest k) (h : rest.head? = t.head?) : IsRead t k := by
  have hnil : rest = [] ↔ t = [] := by
    rw [← List.head?_eq_none_iff, h, List.head?_eq_none_iff]
  cases hk with
  | text hne hs hrest => exact .text hne hs (h ▸ hrest)
  | loneOpen hrest => exact .loneOpen (h ▸ hrest)
  | loneSlash hrest => exact .loneSlash (h ▸ hrest)
  | unfinishedTag hc hs hrest => exact .unfinishedTag hc hs (hnil.mp hrest)
  | comment hs => exact .comment hs
  | openComment hs hrest => exact .openComment hs (hnil.mp hrest)
  | declaration hs hend => exact .declaration hs ((isThrough_congr hnil).mp hend)
  | endTag hne hname htail hend => exact .endTag hne hname htail ((isThrough_congr hnil).mp hend)
  | startTag htag hraw => exact .startTag htag hraw
  | rawElement htag hraw hclose =>
    obtain ⟨hcontent, n, tail, hend, hn, htail, hthrough⟩ := hclose
    exact .rawElement htag hraw
      ⟨hcontent, n, tail, hend, hn, htail, (isThrough_congr hnil).mp hthrough⟩
  | openRawElement htag hraw hcontent hrest =>
    exact .openRawElement htag hraw hcontent (hnil.mp hrest)

/-- A token with text behind it is closed or plain. -/
theorem IsRead.isClosed (hk : IsRead rest k) (hrest : rest ≠ []) (hplain : ∀ s, k ≠ plain s) :
    k.IsClosed := by
  intro t
  cases hk with
  | text => exact absurd rfl (hplain _)
  | loneOpen => exact absurd rfl (hplain _)
  | loneSlash => exact absurd rfl (hplain _)
  | unfinishedTag => exact absurd rfl (hplain _)
  | comment hs => exact .comment hs
  | openComment _ hnil => exact absurd hnil hrest
  | declaration hs hend => exact .declaration hs (.inl (hend.exists_eq_append hrest))
  | endTag hne hname htail hend =>
    exact .endTag hne hname htail (.inl (hend.exists_eq_append hrest))
  | startTag htag hraw => exact .startTag htag hraw
  | rawElement htag hraw hclose =>
    obtain ⟨hcontent, n, tail, hend, hn, htail, hthrough⟩ := hclose
    exact .rawElement htag hraw
      ⟨hcontent, n, tail, hend, hn, htail, .inl (hthrough.exists_eq_append hrest)⟩
  | openRawElement _ _ _ hnil => exact absurd hnil hrest

/-! ### The reader -/

theorem next?_cons_of_ne (hc : c ≠ '<') :
    next? (c :: t) =
      some (plain ((c :: t).takeWhile (· != '<')), (c :: t).dropWhile (· != '<')) := by
  unfold next?
  split <;> simp_all

theorem next?_of_isAlpha (hc : c.isAlpha = true) :
    next? ('<' :: c :: t) = some (readStartTag ('<' :: c :: t)) := by
  have hne (d : Char) (hd : d.isAlpha = false) : c ≠ d := by
    rintro rfl
    rw [hc] at hd
    cases hd
  unfold next?
  split
  · simp_all
  · next h => exact absurd (List.cons.inj (List.cons.inj h).2).1 (hne '!' rfl)
  · next h => exact absurd (List.cons.inj (List.cons.inj h).2).1 (hne '!' rfl)
  · next h => exact absurd (List.cons.inj (List.cons.inj h).2).1 (hne '?' rfl)
  · next h => exact absurd (List.cons.inj (List.cons.inj h).2).1 (hne '/' rfl)
  · next u _ _ _ _ h =>
    obtain rfl : c :: t = u := (List.cons.inj h).2
    simp [hc]
  · next h => exact absurd rfl (h (c :: t))

theorem next?_of_not_beginsTag (ht : ∀ c ∈ t.head?, ¬BeginsTag c) :
    next? ('<' :: t) = some (plain ['<'], t) := by
  have hne {d : Char} {u : Text} (h : t = d :: u) : ¬BeginsTag d := ht d (by simp [h])
  unfold next?
  split
  · simp_all
  · next h => exact absurd (.inr (.inl rfl)) (hne (List.cons.inj h).2)
  · next h => exact absurd (.inr (.inl rfl)) (hne (List.cons.inj h).2)
  · next h => exact absurd (.inr (.inr (.inl rfl))) (hne (List.cons.inj h).2)
  · next h => exact absurd (.inr (.inr (.inr rfl))) (hne (List.cons.inj h).2)
  · next u _ _ _ _ h =>
    obtain rfl : t = u := (List.cons.inj h).2
    rw [if_neg]
    intro halpha
    cases t with
    | nil => cases halpha
    | cons d t => exact hne rfl (.inl halpha)
  · next h => exact absurd rfl (h t)

theorem next?_of_beginsDeclaration (ht : BeginsDeclaration t) :
    next? t = some (readDeclaration t) := by
  obtain ⟨u, rfl, hu⟩ | ⟨u, rfl⟩ := ht
  · unfold next?
    split
    · simp_all
    · next v h =>
      obtain rfl : u = '-' :: '-' :: v := (List.cons.inj (List.cons.inj h).2).2
      exact absurd ⟨v, rfl⟩ hu
    · rfl
    · next h => simp at h
    · next h => simp at h
    · next h _ _ heq => exact absurd (List.cons.inj heq).2.symm (h u)
    · next h => exact absurd rfl (h ('!' :: u))
  · rfl

/-- A declaration ends with `>` or with the text, so the text behind it makes it no comment. -/
theorem BeginsDeclaration.append (hs : BeginsDeclaration s) (hend : IsThrough '>' rest s) :
    BeginsDeclaration (s ++ rest) := by
  obtain ⟨u, rfl, hu⟩ | ⟨u, rfl⟩ := hs
  · refine .inl ⟨u ++ rest, rfl, ?_⟩
    obtain ⟨p, hp, -⟩ | ⟨-, rfl⟩ := hend
    · intro hlong
      -- of the first two characters one is the last of the declaration, if that is so short
      match u, hp, hu with
      | [], hp, _ => simpa using congrArg List.getLast? hp
      | [c], hp, _ =>
        obtain rfl : c = '>' := by simpa using congrArg List.getLast? hp
        exact absurd (List.cons_prefix_cons.mp hlong).1 (by decide)
      | c :: d :: u, _, hu =>
        obtain ⟨hc, hd⟩ := List.cons_prefix_cons.mp hlong
        exact hu (List.cons_prefix_cons.mpr
          ⟨hc, List.cons_prefix_cons.mpr ⟨(List.cons_prefix_cons.mp hd).1, List.nil_prefix⟩⟩)
    · rwa [List.append_nil]
  · exact .inr ⟨u ++ rest, rfl⟩

theorem isRead_readComment (t : Text) : IsRead (readComment t).2 (readComment t).1 := by
  unfold readComment
  split
  · next inside rest h => exact .comment (not_infix_of_cut? h (List.cons_ne_nil _ _))
  · next h => exact .openComment h rfl

theorem isRead_readDeclaration (ht : BeginsDeclaration t) :
    IsRead (readDeclaration t).2 (readDeclaration t).1 := by
  refine .declaration ?_ (isThrough_through '>' t)
  obtain ⟨u, rfl, hu⟩ | ⟨u, rfl⟩ := ht
  · refine .inl ⟨(through '>' u).1, by simp [through_cons_of_ne], fun h ↦ hu ?_⟩
    exact h.trans ⟨(through '>' u).2, through_append '>' u⟩
  · exact .inr ⟨(through '>' u).1, by simp [through_cons_of_ne]⟩

theorem isRead_readEndTag (t : Text) : IsRead (readEndTag t).2 (readEndTag t).1 := by
  have hrest : ∀ c ∈ (t.dropWhile fun c ↦ !isNameEnd c).head?, isNameEnd c = true :=
    fun c hc ↦ by simpa using head?_dropWhile_eq_false (fun c ↦ !isNameEnd c) t c hc
  unfold readEndTag
  split
  · next hnil =>
    have hdrop := List.takeWhile_append_dropWhile (p := fun c ↦ !isNameEnd c) (l := t)
    rw [hnil, List.nil_append] at hdrop
    exact .loneSlash (hdrop ▸ hrest)
  · next hname =>
    refine .endTag hname (fun c hc ↦ by simpa using List.mem_takeWhile_imp hc) ?_
      (isThrough_through '>' _)
    rwa [head?_through]

theorem isRead_readStartTag (hc : c.isAlpha = true) :
    IsRead (readStartTag ('<' :: c :: t)).2 (readStartTag ('<' :: c :: t)).1 := by
  unfold readStartTag
  split
  · next h => exact .unfinishedTag hc h rfl
  · next tag rest h =>
    have htag := StartTag.isWritten_of_parse? h
    split
    · next hraw =>
      split
      · next raw hsplit => exact .rawElement htag hraw (RawText.isWritten_of_split? hsplit)
      · next hsplit => exact .openRawElement htag hraw (RawText.split?_eq_none_iff.mp hsplit) rfl
    · next hraw => exact .startTag htag (by simpa using hraw)

/-- A comment that does not contain the end of a comment ends where it is written. -/
theorem cut?_commentEnd {s : Text} (h : ¬commentEnd <:+: s) :
    cut? commentEnd (s ++ commentEnd) = some (s, []) := by
  induction s with
  | nil => rfl
  | cons c s ih =>
    have hs : ¬commentEnd <:+: s := fun hin ↦ h (hin.trans (List.suffix_cons c s).isInfix)
    have hnot : ¬commentEnd <+: c :: (s ++ commentEnd) := by
      intro hfit
      -- a comment end that begins in `s` and goes beyond it would have a hyphen in place of `>`
      match s with
      | [] => simp [commentEnd] at hfit
      | [d] => simp [commentEnd] at hfit
      | d :: d' :: s =>
        refine h (List.IsPrefix.isInfix ?_)
        simp only [commentEnd, List.cons_append, List.cons_prefix_cons] at hfit ⊢
        simpa using hfit
    rw [List.cons_append, cut?_cons_of_not_prefix_cons hnot, ih hs]
    rfl

theorem readComment_append (hs : ¬commentEnd <:+: s) (rest : Text) :
    readComment (s ++ commentEnd ++ rest) =
      (comment (['<', '!', '-', '-'] ++ s ++ commentEnd), rest) := by
  unfold readComment
  rw [← commentEnd, cut?_append_of_cut? (cut?_commentEnd hs) rest]

theorem readComment_of_eq_none (hs : cut? commentEnd s = none) :
    readComment s = (comment (['<', '!', '-', '-'] ++ s), []) := by
  unfold readComment
  rw [← commentEnd, hs]

theorem readEndTag_of_isNameEnd (ht : ∀ c ∈ t.head?, isNameEnd c = true) :
    readEndTag t = (plain ['<', '/'], t) := by
  have htake : t.takeWhile (fun c ↦ !isNameEnd c) = [] :=
    takeWhile_append_eq (s := []) (by simp) fun c hc ↦ by simp [ht c hc]
  rw [readEndTag, htake]

theorem readEndTag_append {name tail : Text} (hne : name ≠ [])
    (hname : ∀ c ∈ name, isNameEnd c = false) (htail : ∀ c ∈ tail.head?, isNameEnd c = true)
    (hend : IsThrough '>' rest tail) :
    readEndTag (name ++ tail ++ rest) = (endTag name tail, rest) := by
  have hkeep : ∀ c ∈ name, (!isNameEnd c) = true := fun c hc ↦ by simp [hname c hc]
  have hstop : ∀ c ∈ (tail ++ rest).head?, (!isNameEnd c) = false := by
    rw [← head?_through '>', through_eq_iff.mpr ⟨rfl, hend⟩]
    exact fun c hc ↦ by simp [htail c hc]
  have htake := takeWhile_append_eq hkeep hstop
  rw [List.append_assoc, readEndTag, htake, dropWhile_append_eq hkeep hstop,
    through_eq_iff.mpr ⟨rfl, hend⟩]
  split
  · exact absurd rfl hne
  · rfl

/-- What is read at the front of a text is read in front of the remainder. -/
theorem isRead_of_next? (h : next? t = some (k, rest)) : IsRead rest k := by
  unfold next? at h
  split at h
  · cases h
  · next u => simpa only [Option.some.inj h] using isRead_readComment u
  · next u hcomment =>
    have hbegin : BeginsDeclaration ('<' :: '!' :: u) := by
      refine .inl ⟨u, rfl, ?_⟩
      rintro ⟨v, rfl⟩
      exact hcomment v rfl
    simpa only [Option.some.inj h] using isRead_readDeclaration hbegin
  · next u =>
    have hbegin : BeginsDeclaration ('<' :: '?' :: u) := .inr ⟨u, rfl⟩
    simpa only [Option.some.inj h] using isRead_readDeclaration hbegin
  · next u => simpa only [Option.some.inj h] using isRead_readEndTag u
  · next u _ hbang hquery hslash =>
    split at h
    · next halpha =>
      cases u with
      | nil => cases halpha
      | cons c u =>
        have hread := isRead_readStartTag (c := c) (t := u) halpha
        simpa only [Option.some.inj h] using hread
    · next halpha =>
      cases h
      refine .loneOpen ?_
      rintro c hc (hca | rfl | rfl | rfl)
      · obtain ⟨v, rfl⟩ := List.head?_eq_some_iff.mp hc
        exact halpha hca
      all_goals obtain ⟨v, rfl⟩ := List.head?_eq_some_iff.mp hc
      · exact hbang v rfl
      · exact hquery v rfl
      · exact hslash v rfl
  · next hnil _ _ _ _ hlt =>
    cases h
    cases t with
    | nil => exact absurd rfl hnil
    | cons c t =>
      have hc : c ≠ '<' := fun e ↦ hlt t (by rw [e])
      refine .text (by simp [hc]) (fun hmem ↦ ?_) fun d hd ↦ ?_
      · simpa using List.mem_takeWhile_imp hmem
      · simpa using head?_dropWhile_eq_false _ _ d hd

/-- A token that is read in front of a text is found there. -/
theorem IsRead.next?_append (h : IsRead rest k) : next? (k.spelling ++ rest) = some (k, rest) := by
  cases h with
  | @text s hne hs hrest =>
    obtain ⟨c, u, rfl⟩ := List.exists_cons_of_ne_nil hne
    have hkeep : ∀ d ∈ c :: u, (d != '<') = true := fun d hd ↦ by
      simpa using fun e : d = '<' ↦ hs (e ▸ hd)
    have hstop : ∀ d ∈ rest.head?, (d != '<') = false := fun d hd ↦ by simp [hrest d hd]
    have hc : c ≠ '<' := by simpa using hkeep c List.mem_cons_self
    have htake := takeWhile_append_eq hkeep hstop
    have hdrop := dropWhile_append_eq hkeep hstop
    simp only [spelling, List.cons_append] at htake hdrop ⊢
    rw [next?_cons_of_ne hc, htake, hdrop]
  | loneOpen hrest => exact next?_of_not_beginsTag hrest
  | loneSlash hrest => exact congrArg some (readEndTag_of_isNameEnd hrest)
  | unfinishedTag hc hs hrest =>
    subst hrest
    rw [spelling, List.append_nil, next?_of_isAlpha hc, readStartTag, hs]
  | comment hs =>
    have hread := readComment_append hs rest
    simp only [spelling, List.append_assoc] at hread ⊢
    exact congrArg some hread
  | openComment hs hrest =>
    subst hrest
    rw [spelling, List.append_nil]
    exact congrArg some (readComment_of_eq_none hs)
  | declaration hs hend =>
    rw [spelling, next?_of_beginsDeclaration (hs.append hend), readDeclaration,
      through_eq_iff.mpr ⟨rfl, hend⟩]
  | endTag hne hname htail hend =>
    exact congrArg some (readEndTag_append hne hname htail hend)
  | @startTag tag htag hraw =>
    obtain ⟨c, u, hc, hu⟩ := htag.exists_spelling_eq
    have hparse := StartTag.parse?_spelling_append htag rest
    simp only [spelling, hu, List.cons_append] at hparse ⊢
    rw [next?_of_isAlpha hc, readStartTag, hparse]
    simp [hraw]
  | @rawElement tag content close htag hraw hclose =>
    obtain ⟨c, u, hc, hu⟩ := htag.exists_spelling_eq
    have hparse := StartTag.parse?_spelling_append htag (content ++ close ++ rest)
    have hsplit := RawText.split?_append hclose
    simp only [spelling, hu, List.cons_append, List.append_assoc, Option.getD_some] at *
    rw [next?_of_isAlpha hc, readStartTag, hparse]
    simp [hraw, hsplit]
  | @openRawElement tag content htag hraw hcontent hrest =>
    subst hrest
    obtain ⟨c, u, hc, hu⟩ := htag.exists_spelling_eq
    have hparse := StartTag.parse?_spelling_append htag content
    simp only [spelling, hu, List.cons_append, List.append_nil, Option.getD_none] at *
    rw [next?_of_isAlpha hc, readStartTag, hparse]
    simp [hraw, RawText.split?_eq_none_iff.mpr hcontent]

/-- What the reader finds at the front of a text. -/
theorem next?_eq_some_iff : next? t = some (k, rest) ↔ t = k.spelling ++ rest ∧ IsRead rest k :=
  ⟨fun h ↦ ⟨(spelling_append_of_next? h).symm, isRead_of_next? h⟩,
    fun ⟨ht, h⟩ ↦ ht ▸ h.next?_append⟩

/-! ### Tokens one after another -/

theorem ofText_of_next? (h : next? t = some (k, rest)) : ofText t = k :: ofText rest := by
  rw [ofText]
  split
  · simp_all
  · next heq =>
    rw [h, Option.some.injEq, Prod.mk.injEq] at heq
    rw [heq.1, heq.2]

@[simp] theorem ofText_nil : ofText [] = [] := by
  rw [ofText]
  rfl

/-- A token that is read in front of a text is the first of the tokens. -/
theorem IsRead.ofText_append (h : IsRead rest k) :
    ofText (k.spelling ++ rest) = k :: ofText rest :=
  ofText_of_next? h.next?_append

/-- The tokens `ks` are read one after another in front of the text `rest`. -/
def AreRead (rest : Text) : List Token → Prop
  | [] => True
  | k :: ks => IsRead (ks.flatMap spelling ++ rest) k ∧ AreRead rest ks

theorem AreRead.of_head?_eq (h : AreRead s ks) (hst : s.head? = t.head?) : AreRead t ks := by
  induction ks with
  | nil => trivial
  | cons k ks ih =>
    refine ⟨h.1.of_head?_eq ?_, ih h.2⟩
    cases hks : ks.flatMap spelling with
    | nil => simpa using hst
    | cons c u => rfl

theorem areRead_append_iff {ks' : List Token} :
    AreRead rest (ks ++ ks') ↔
      AreRead (ks'.flatMap spelling ++ rest) ks ∧ AreRead rest ks' := by
  induction ks with
  | nil => simp [AreRead]
  | cons k ks ih => simp [AreRead, ih, and_assoc]

theorem IsRead.spelling_ne_nil (h : IsRead rest k) : k.spelling ≠ [] :=
  spelling_ne_nil_of_next? h.next?_append

theorem AreRead.eq_nil_of_spelling (h : AreRead rest ks) (hks : ks.flatMap spelling = []) :
    ks = [] := by
  cases ks with
  | nil => rfl
  | cons k ks =>
    rw [List.flatMap_cons, List.append_eq_nil_iff] at hks
    exact absurd hks.1 h.1.spelling_ne_nil

/-- Tokens that are read in front of a text are read there. -/
theorem ofText_append (h : AreRead rest ks) :
    ofText (ks.flatMap spelling ++ rest) = ks ++ ofText rest := by
  induction ks with
  | nil => rfl
  | cons k ks ih =>
    rw [List.flatMap_cons, List.append_assoc, h.1.ofText_append, ih h.2, List.cons_append]

/-- Tokens that are read one after another are the tokens of their spellings. -/
theorem ofText_flatMap_spelling (h : AreRead [] ks) : ofText (ks.flatMap spelling) = ks := by
  simpa using ofText_append h

/-- The tokens of a text are read one after another. -/
theorem areRead_ofText (t : Text) : AreRead [] (ofText t) := by
  induction t using ofText.induct with
  | case1 t hnext =>
    rw [next?_eq_none_iff.mp hnext, ofText_nil]
    trivial
  | case2 t k rest hnext ih =>
    have hread : IsRead ((ofText rest).flatMap spelling ++ []) k := by
      rw [flatMap_spelling_ofText, List.append_nil]
      exact isRead_of_next? hnext
    rw [ofText_of_next? hnext]
    exact ⟨hread, ih⟩

end ComponentFile.Markup.Token
