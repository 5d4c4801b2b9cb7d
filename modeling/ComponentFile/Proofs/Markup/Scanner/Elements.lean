import ComponentFile.Proofs.Markup.Scanner.State

/-!
# Scanning for elements

A scan goes from one `<` to the next and passes over what begins there.  Each round passes over the
token that is read at its `<`, so a scan finds the top-level elements of the text.  It does so
without a fault: no byte is looked at and no part is cut out that is not there, and no loop stalls.

## Main results

* `Scanner.exists_markupRound_eq_ok` : a round passes over the token at its `<`.
* `Scanner.exists_elementRound_eq_ok` : a round goes forward from the next `<`.
* `Scanner.scan_eq_elements` : a scan makes no fault and finds the top-level elements.
-/

namespace ComponentFile.Markup.Scanner

open Text

variable {c : Char} {r t u : Text} {offset start : Nat} {found es : List Element}
  {current? : Option OpenElement} {s : State} {F : Nat → Prop}

/-! ### What a `<` begins -/

theorem skipComment_eq (h : IsAt t start ('<' :: '!' :: '-' :: '-' :: u)) :
    skipComment t start = .ok (startOf t (Token.readComment u).2) := by
  have hinside : IsAt t (start + 4) u :=
    (((h.of_cons (by decide)).of_cons (by decide)).of_cons (by decide)).of_cons (by decide)
  rw [skipComment, cutFrom_eq hinside, ok_bind, offsetOf?, Token.readComment]
  cases hcut : cut? ['-', '-', '>'] u with
  | none => rfl
  | some parts =>
    have hu := eq_append_of_cut? hcut
    rw [hu, List.append_assoc] at hinside
    have hbehind : IsAt t (start + 4 + byteLength parts.1 + 3) parts.2 :=
      ((hinside.append.of_cons (by decide)).of_cons (by decide)).of_cons (by decide)
    simp [hbehind.eq_startOf]

/-- What may follow a `<`. -/
theorem markup_cases (u : Text) :
    (∃ v, u = '!' :: '-' :: '-' :: v) ∨ Token.BeginsDeclaration ('<' :: u) ∨ (∃ v, u = '/' :: v) ∨
      (∃ c v, u = c :: v ∧ c.isAlpha = true) ∨ ∀ c ∈ u.head?, ¬Token.BeginsTag c := by
  by_cases hno : ∀ c ∈ u.head?, ¬Token.BeginsTag c
  · exact .inr (.inr (.inr (.inr hno)))
  · push Not at hno
    obtain ⟨c, hc, hbegins⟩ := hno
    obtain ⟨v, rfl⟩ := List.head?_eq_some_iff.mp hc
    obtain hc | rfl | rfl | rfl := hbegins
    · exact .inr (.inr (.inr (.inl ⟨c, v, rfl, hc⟩)))
    · by_cases hcomment : ['-', '-'] <+: v
      · obtain ⟨w, rfl⟩ := hcomment
        exact .inl ⟨w, rfl⟩
      · exact .inr (.inl (.inl ⟨v, rfl, hcomment⟩))
    · exact .inr (.inl (.inr ⟨v, rfl⟩))
    · exact .inr (.inr (.inl ⟨v, rfl⟩))

theorem markupRound_comment (h : IsAt t start ('<' :: '!' :: '-' :: '-' :: u)) :
    markupRound t start s = .ok (.proceed start (startOf t (Token.readComment u).2) s) := by
  have hcomment : ['<', '!', '-', '-'].isPrefixOf ('<' :: '!' :: '-' :: '-' :: u) = true := rfl
  rw [markupRound, cutFrom_eq h, ok_bind, if_pos hcomment, skipComment_eq h, ok_bind]
  rfl

theorem markupRound_declaration (h : IsAt t start ('<' :: u))
    (hu : Token.BeginsDeclaration ('<' :: u)) :
    markupRound t start s =
      .ok (.proceed start (startOf t (Token.readDeclaration ('<' :: u)).2) s) := by
  have hcomment : ¬['<', '!', '-', '-'].isPrefixOf ('<' :: u) = true := by
    rw [List.isPrefixOf_iff_prefix]
    obtain ⟨v, hv, hno⟩ | ⟨v, hv⟩ := hu
    · rw [hv]
      simpa using hno
    · rw [hv]
      simp
  have hbegins : (['<', '!'].isPrefixOf ('<' :: u) || ['<', '?'].isPrefixOf ('<' :: u)) = true := by
    obtain ⟨v, hv, -⟩ | ⟨v, hv⟩ := hu <;> rw [hv] <;> rfl
  rw [markupRound, cutFrom_eq h, ok_bind, if_neg hcomment, if_pos hbegins, skipPast_eq h, ok_bind]
  rfl

/-- Where neither a comment nor a declaration begins, a slash makes an end tag and a letter makes a
start tag. -/
theorem markupRound_eq (h : IsAt t start ('<' :: u)) (hbang : u.head? ≠ some '!')
    (hquery : u.head? ≠ some '?') :
    markupRound t start s =
      if u.head? = some '/' then do
        let name ← readName t (start + 2)
        if name.isEmpty then return .proceed start (start + 2) s
        else
          let stop ← skipPast t start '>'
          return .proceed start stop (← s.close name ⟨start, stop⟩)
      else if u.head?.any Char.isAlpha then do
        match ← scanStartTag t start with
        | none => return .done s.found
        | some tag => s.enter t start tag
      else .ok (.proceed start (start + 1) s) := by
  have hprefix (d : Char) (key : Text) (hd : u.head? ≠ some d) :
      ('<' :: d :: key).isPrefixOf ('<' :: u) = false := by
    rw [Bool.eq_false_iff, ne_eq, List.isPrefixOf_iff_prefix]
    rintro ⟨v, hv⟩
    simp [← (List.cons.inj hv).2] at hd
  have hslash : ['<', '/'].isPrefixOf ('<' :: u) = true ↔ u.head? = some '/' := by
    cases u with
    | nil => simp
    | cons d u =>
      simp only [List.isPrefixOf_iff_prefix, List.cons_prefix_cons, List.nil_prefix, and_true,
        true_and, List.head?_cons, Option.some.injEq]
      exact eq_comm
  rw [markupRound, cutFrom_eq h, ok_bind, hprefix '!' _ hbang, hprefix '!' _ hbang,
    hprefix '?' _ hquery, any_byteAt? (h.of_cons (by decide)) isByteClass_isAlphaByte,
    if_congr hslash rfl rfl]
  rfl

/-- The characters of a name at the front of a text. -/
def nameOf (u : Text) : Text :=
  u.takeWhile fun c ↦ !isNameEnd c

theorem readEndTag_of_nil (hname : nameOf u = []) :
    Token.readEndTag u = (.plain ['<', '/'], u) := by
  rw [nameOf] at hname
  rw [Token.readEndTag, hname]

theorem readEndTag_of_ne_nil {tail : Text} (hname : nameOf u ≠ [])
    (htail : through '>' (u.dropWhile fun c ↦ !isNameEnd c) = (tail, r)) :
    Token.readEndTag u = (.endTag (nameOf u) tail, r) := by
  unfold Token.readEndTag
  split
  · next hnil => exact absurd hnil hname
  · rw [htail]
    rfl

theorem markupRound_endTag {tail : Text} (h : IsAt t start ('<' :: '/' :: u))
    (htail : through '>' (u.dropWhile fun c ↦ !isNameEnd c) = (tail, r)) :
    markupRound t start s =
      if nameOf u = [] then .ok (.proceed start (startOf t u) s)
      else do
        return .proceed start (startOf t r)
          (← s.close (lower (nameOf u)) ⟨start, startOf t r⟩) := by
  have hinside : IsAt t (start + 2) u := (h.of_cons (by decide)).of_cons (by decide)
  have hgt : '>' ∉ '<' :: '/' :: nameOf u := by
    simp only [List.mem_cons, not_or]
    refine ⟨by decide, by decide, fun hmem ↦ ?_⟩
    have hend := List.mem_takeWhile_imp hmem
    simp [isNameEnd] at hend
  have hthrough := through_append_of_not_mem hgt (u.dropWhile fun c ↦ !isNameEnd c)
  rw [List.cons_append, List.cons_append, nameOf, List.takeWhile_append_dropWhile, htail]
    at hthrough
  have hempty : (lower (nameOf u)).isEmpty = true ↔ nameOf u = [] := by simp [lower]
  rw [markupRound_eq h (by simp) (by simp), List.head?_cons, if_pos rfl, readName_eq hinside,
    ok_bind, skipPast_eq h, hthrough, hinside.eq_startOf]
  exact if_congr hempty rfl rfl

theorem markupRound_startTag (h : IsAt t start ('<' :: c :: u)) (hc : c.isAlpha = true) :
    markupRound t start s = (do
      match ← scanStartTag t start with
      | none => return .done s.found
      | some tag => s.enter t start tag) := by
  have hne (d : Char) (hd : d.isAlpha = false) : (c :: u).head? ≠ some d := by
    rintro ⟨⟩
    rw [hc] at hd
    cases hd
  rw [markupRound_eq h (hne '!' rfl) (hne '?' rfl), if_neg (hne '/' rfl), List.head?_cons,
    Option.any_some, if_pos hc]

theorem markupRound_plain (h : IsAt t start ('<' :: u)) (hu : ∀ c ∈ u.head?, ¬Token.BeginsTag c) :
    markupRound t start s = .ok (.proceed start (startOf t u) s) := by
  have hne (d : Char) (hd : Token.BeginsTag d) : u.head? ≠ some d := fun hhead ↦ hu d hhead hd
  have halpha : ¬u.head?.any Char.isAlpha = true := by
    rw [Option.any_eq_true]
    rintro ⟨c, hc, hca⟩
    exact hu c hc (.inl hca)
  rw [markupRound_eq h (hne '!' (.inr (.inl rfl))) (hne '?' (.inr (.inr (.inl rfl)))),
    if_neg (hne '/' (.inr (.inr (.inr rfl)))), if_neg halpha,
    (h.of_cons (by decide)).eq_startOf]

theorem exists_readComment (u : Text) : ∃ text, (Token.readComment u).1 = .comment text := by
  unfold Token.readComment
  split <;> exact ⟨_, rfl⟩

/-- An end tag does to the state of a scan what it does to the open element. -/
theorem exists_markupRound_endTag (hF : F start) (h : IsAt t start ('<' :: '/' :: u))
    (hall : es = found ++ elementsAt start current? ('<' :: '/' :: u)) :
    ∃ outcome, markupRound t start (.of found current?) = .ok outcome ∧
      outcome.Keeps t F (Continues t es) (· = es) := by
  have hnext : Token.next? ('<' :: '/' :: u) = some (Token.readEndTag u) := rfl
  obtain ⟨tail, r, htail⟩ : ∃ tail r, through '>' (u.dropWhile fun c ↦ !isNameEnd c) = (tail, r) :=
    ⟨_, _, rfl⟩
  rw [markupRound_endTag h htail]
  by_cases hname : nameOf u = []
  · rw [readEndTag_of_nil hname] at hnext
    rw [if_pos hname]
    exact ⟨_, rfl, keeps_proceed hF h hall hnext (by rw [elementsFrom_cons_plain]; rfl)⟩
  · rw [readEndTag_of_ne_nil hname htail] at hnext
    obtain ⟨-, hstop, -⟩ := isAt_of_next? h hnext
    rw [if_neg hname]
    cases current? with
    | none =>
      rw [State.close_of_none]
      refine ⟨_, rfl, keeps_proceed hF h hall hnext ?_⟩
      rw [elementsFrom_cons_of_not_beginsElement (by simp [Token.BeginsElement])]
    | some o =>
      rw [State.close_of_some]
      refine ⟨_, rfl, ?_⟩
      cases hclose : o.close (lower (nameOf u)) ⟨start, startOf t r⟩ with
      | inside remaining =>
        refine keeps_proceed hF h hall hnext ?_
        rw [elementsFrom, hstop, hclose]
      | whole e =>
        refine keeps_proceed hF h hall hnext ?_
        rw [elementsFrom, hstop, hclose]
        simp

/-- A round goes forward from its `<`, over the token that begins there. -/
theorem exists_markupRound_eq_ok (hF : F start) (h : IsAt t start ('<' :: u))
    (hall : es = found ++ elementsAt start current? ('<' :: u)) :
    ∃ outcome, markupRound t start (.of found current?) = .ok outcome ∧
      outcome.Keeps t F (Continues t es) (· = es) := by
  obtain ⟨v, rfl⟩ | hbegins | ⟨v, rfl⟩ | ⟨c, v, rfl, hc⟩ | hno := markup_cases u
  · obtain ⟨text, htext⟩ := exists_readComment v
    have hnext : Token.next? ('<' :: '!' :: '-' :: '-' :: v) =
        some (.comment text, (Token.readComment v).2) := htext ▸ rfl
    refine ⟨_, markupRound_comment h, keeps_proceed hF h hall hnext ?_⟩
    rw [elementsFrom_cons_passed (by simp [Token.BeginsElement]) fun _ _ ↦ rfl]
  · refine ⟨_, markupRound_declaration h hbegins,
      keeps_proceed hF h hall (Token.next?_of_beginsDeclaration hbegins) ?_⟩
    rw [elementsFrom_cons_passed (by simp [Token.BeginsElement]) fun _ _ ↦ rfl]
  · exact exists_markupRound_endTag hF h hall
  · rw [markupRound_startTag h hc, scanStartTag_eq h hc, ok_bind]
    cases hparse : StartTag.parse? ('<' :: c :: v) with
    | none =>
      have hnext := Token.next?_of_isAlpha (t := v) hc
      rw [Token.readStartTag, hparse] at hnext
      refine ⟨_, rfl, keeps_done hall hnext ?_⟩
      rw [elementsFrom_cons_plain, elementsFrom, State.found_of]
    | some parsed => exact exists_enter_eq_ok hF h hall hc hparse
  · refine ⟨_, markupRound_plain h hno,
      keeps_proceed hF h hall (Token.next?_of_not_beginsTag hno) ?_⟩
    rw [elementsFrom_cons_plain]
    rfl

/-! ### The scan -/

/-- A round goes forward from the next `<` to a boundary, or finds that there is none. -/
theorem exists_elementRound_eq_ok (h : IsAt t offset r)
    (hall : es = found ++ elementsAt offset current? r) :
    ∃ outcome, elementRound t offset (.of found current?) = .ok outcome ∧
      outcome.Keeps t (fun start ↦ offset ≤ start ∧ ∃ u, IsAt t start ('<' :: u))
        (Continues t es) (· = es) := by
  rw [elementRound, cutFrom_eq h, ok_bind, offsetOf?]
  cases hcut : cut? ['<'] r with
  | none =>
    have hno : '<' ∉ r := fun hmem ↦ by
      obtain ⟨s, u, rfl, hs⟩ := List.eq_append_cons_of_mem hmem
      rw [cut?_singleton_append hs] at hcut
      cases hcut
    have hplain : elementsAt offset current? (r ++ []) = _ := elementsAt_append_plain hno
    refine ⟨_, rfl, ?_⟩
    rw [List.append_nil, elementsAt, elementsAt, Token.ofText_nil, elementsFrom] at hplain
    rw [State.found_of, hall, elementsAt, hplain]
    rfl
  | some parts =>
    have hr := eq_append_of_cut? hcut
    have hbefore := not_mem_of_cut?_singleton hcut
    rw [List.append_assoc, List.singleton_append] at hr
    have hplain : elementsAt offset current? (parts.1 ++ '<' :: parts.2) = _ :=
      elementsAt_append_plain hbefore
    rw [hr] at h hall
    rw [hplain] at hall
    exact exists_markupRound_eq_ok ⟨Nat.le_add_right _ _, _, h.append⟩ h.append hall

/-- A scan of a text finds its top-level elements without a fault: every byte that it looks at is
there, every part that it cuts out has its ends in order and between characters, and no loop stalls.
From wherever a scan can be, a round over the text goes on behind the `<` from which it started, and
a round over the inside of a tag or in search of an end tag goes forward. -/
theorem scan_eq_elements (t : Text) :
    scan t = .ok (elements t) ∧
    (∀ offset found current?, IsBoundary t offset →
      ∃ outcome, elementRound t offset (.of found current?) = .ok outcome ∧
        outcome.Keeps t (fun start ↦ offset ≤ start ∧ slice? t start (start + 1) = some ['<'])
          (fun _ s ↦ ∃ found current?, s = .of found current?) fun _ ↦ True) ∧
    (∀ offset d, IsBoundary t offset →
      ∃ outcome, attributeRound t offset d = .ok outcome ∧
        outcome.Keeps t (offset ≤ ·) (fun _ _ ↦ True) fun _ ↦ True) ∧
    ∀ name offset, IsBoundary t offset →
      ∃ outcome, endTagRound t name offset () = .ok outcome ∧
        outcome.Keeps t (offset ≤ ·) (fun _ _ ↦ True) fun _ ↦ True := by
  refine ⟨?_, ?_, ?_, ?_⟩
  · obtain ⟨result, hresult, rfl⟩ := exists_repeatRounds_eq_ok
      (I := Continues t (elements t)) (Q := (· = elements t))
      (fun offset s ⟨found, current?, r, hr, hs, hall⟩ ↦ by
        obtain ⟨outcome, hok, hkeeps⟩ := exists_elementRound_eq_ok hr hall
        exact ⟨outcome, hs ▸ hok, hkeeps.imp (fun _ h ↦ h.1) (fun _ _ h ↦ h) fun _ h ↦ h⟩)
      (show Continues t (elements t) 0 (.of [] none) from
        ⟨[], none, t, isAt_zero t, rfl, elements_eq_elementsAt t⟩)
    exact hresult
  · intro offset found current? hoffset
    obtain ⟨r, hr⟩ := isBoundary_iff.mp hoffset
    have hall : found ++ elementsAt offset current? r = _ := rfl
    obtain ⟨outcome, hok, hkeeps⟩ := exists_elementRound_eq_ok hr hall
    refine ⟨outcome, hok, hkeeps.imp ?_ ?_ fun _ _ ↦ trivial⟩
    · rintro start ⟨hle, u, hu⟩
      exact ⟨hle, hu.slice?_eq (s := ['<'])⟩
    · rintro next s ⟨found, current?, -, -, hs, -⟩
      exact ⟨found, current?, hs⟩
  · intro offset d hoffset
    obtain ⟨r, hr⟩ := isBoundary_iff.mp hoffset
    obtain ⟨outcome, hok, hkeeps⟩ := exists_attributeRound_eq_ok hr d
    exact ⟨outcome, hok, hkeeps.imp (fun _ h ↦ h) (fun _ _ _ ↦ trivial) fun _ _ ↦ trivial⟩
  · intro name offset hoffset
    obtain ⟨r, hr⟩ := isBoundary_iff.mp hoffset
    obtain ⟨outcome, hok, hkeeps⟩ := exists_endTagRound_eq_ok hr name
    exact ⟨outcome, hok, hkeeps.imp (fun _ h ↦ h) (fun _ _ _ ↦ trivial) fun _ _ ↦ trivial⟩

/-- A text with longer characters in the name of an attribute, in its value, around the beginning
of an end tag, and in a tag that does not end. -/
def accentedText : Text :=
  "é<é><p é=ü ç>à</p><i =é/><style></stylé</style é>ü<b é='à".toList

theorem scan_eq_elements_accentedText :
    (scan accentedText = .ok (elements accentedText) ∧
      (elements accentedText).map Element.endTag =
        [some ⟨20, 24⟩, some ⟨32, 32⟩, some ⟨47, 58⟩]) ∧
    IsBoundary accentedText 24 ∧
      ∃ outcome, elementRound accentedText 24 (.of [] none) = .ok outcome ∧
        outcome.Keeps accentedText
          (fun start ↦ 24 ≤ start ∧ slice? accentedText start (start + 1) = some ['<'])
          (fun _ s ↦ ∃ found current?, s = .of found current?) fun _ ↦ True := by
  obtain ⟨hscan, hround, -, -⟩ := scan_eq_elements accentedText
  have hboundary : IsBoundary accentedText 24 := ⟨"é<é><p é=ü ç>à</p>".toList, _, rfl, rfl⟩
  exact ⟨⟨hscan, by decide +kernel⟩, hboundary, hround 24 [] none hboundary⟩

end ComponentFile.Markup.Scanner
