import ComponentFile.Proofs.Markup.Nesting
import ComponentFile.Proofs.Markup.Scanner.EndTag
import ComponentFile.Proofs.Markup.Scanner.StartTag

/-!
# The state of a scan

A scan keeps the top-level elements that it has found and the names of the elements that are open;
an element is found when it begins, and gets its end tag later.  The pass over the tokens of a text
keeps an element back until it ends.  `State.of` is the state that belongs to what the pass holds,
and in such a state every index of an element leads to the one that is open, so that a tag does the
same to both.

## Main definitions

* `Scanner.State.of` : the state of a scan, from the elements found and the open one.
* `Scanner.added`, `Scanner.nested` : what becomes of these when an element begins.
* `Scanner.Continues` : the states from which a scan finds certain elements.

## Main results

* `Scanner.State.close_of_some` : an end tag does the same to the state and to the open element.
* `Scanner.keeps_proceed` : a round that passes over a token goes forward.
* `Scanner.exists_enter_eq_ok` : a start tag does the same to the state and to the open element.
-/

namespace ComponentFile.Markup.Scanner

open Text

variable {c : Char} {name q r s t u : Text} {offset start : Nat} {found : List Element}
  {current? : Option OpenElement} {o : OpenElement} {place : Span} {k : Token} {tag : StartTag}

/-! ### States -/

/-- An element inside the open one, as the state of a scan holds it. -/
def Opened.inside (name : Text) : Opened :=
  ⟨name, none⟩

/-- The state of a scan that has found the elements `found`, while `current?` is open. -/
def State.of (found : List Element) : Option OpenElement → State
  | none => ⟨found, []⟩
  | some o => ⟨found ++ [o.element],
      o.inner.map Opened.inside ++ [⟨o.element.name, some found.length⟩]⟩

theorem State.found_of (found : List Element) (current? : Option OpenElement) :
    (State.of found current?).found = found ++ (current?.map OpenElement.element).toList := by
  cases current? <;> simp [State.of]

theorem setEndTag_concat (found : List Element) (e : Element) (place : Span) :
    setEndTag (found ++ [e]) (some found.length) place =
      .ok (found ++ [{ e with endTag := some place }]) := by
  simp [setEndTag]

theorem State.close_eq {s : State} {l l' : List Opened} {b : Opened} {found' : List Element}
    (hs : s.opened = l ++ b :: l') (hl : ∀ a ∈ l, a.name ≠ name) (hb : b.name = name)
    (hset : setEndTag s.found b.index? place = .ok found') :
    s.close name place = .ok ⟨found', l'⟩ := by
  have hnone : l.findIdx? (fun a ↦ a.name == name) = none :=
    List.findIdx?_eq_none_iff.mpr fun a ha ↦ by simpa using hl a ha
  have hdepth : s.opened.findIdx? (fun a ↦ a.name == name) = some l.length := by
    simp [hs, List.findIdx?_append, hnone, List.findIdx?_cons, hb]
  have hget : s.opened[l.length]? = some b := by simp [hs]
  have hdrop : s.opened.drop (l.length + 1) = l' := by simp [hs]
  simp only [close, hdepth, hget, hset, hdrop, ok_bind, return_eq_ok]

theorem State.close_of_not_mem {s : State} (hs : ∀ a ∈ s.opened, a.name ≠ name) :
    s.close name place = .ok s := by
  have hnone : s.opened.findIdx? (fun a ↦ a.name == name) = none :=
    List.findIdx?_eq_none_iff.mpr fun a ha ↦ by simpa using hs a ha
  rw [close, hnone]
  rfl

/-- An end tag does to the state of a scan what it does to the open element. -/
theorem State.close_of_some (found : List Element) (o : OpenElement) (name : Text) (place : Span) :
    (State.of found (some o)).close name place =
      .ok (match o.close name place with
        | .inside remaining => .of found (some remaining)
        | .whole e => .of (found ++ [e]) none) := by
  have hsplit := List.takeWhile_append_dropWhile (p := (· != name)) (l := o.inner)
  have htake : ∀ a ∈ (o.inner.takeWhile (· != name)).map Opened.inside, a.name ≠ name := by
    simp only [List.mem_map, forall_exists_index, and_imp]
    rintro _ n hn rfl
    simpa [Opened.inside] using List.mem_takeWhile_imp hn
  rw [OpenElement.close]
  cases hdrop : o.inner.dropWhile (· != name) with
  | cons n outer =>
    have hn : n = name := by
      have hhead := List.head?_dropWhile_not (· != name) o.inner
      simpa [hdrop] using hhead
    rw [hdrop] at hsplit
    have hopened : (State.of found (some o)).opened =
        (o.inner.takeWhile (· != name)).map Opened.inside ++ Opened.inside n ::
          (outer.map Opened.inside ++ [⟨o.element.name, some found.length⟩]) := by
      have hinner := congrArg (List.map Opened.inside) hsplit.symm
      simp only [State.of, hinner, List.map_append, List.map_cons, List.append_assoc,
        List.cons_append]
    exact State.close_eq hopened htake hn rfl
  | nil =>
    rw [hdrop, List.append_nil] at hsplit
    rw [hsplit] at htake
    by_cases hname : o.element.name = name
    · have hopened : (State.of found (some o)).opened =
          o.inner.map Opened.inside ++ ⟨o.element.name, some found.length⟩ :: [] := rfl
      rw [if_pos hname]
      exact State.close_eq hopened htake hname (setEndTag_concat found o.element place)
    · rw [if_neg hname]
      refine State.close_of_not_mem ?_
      simp only [State.of, List.mem_append, List.mem_singleton]
      rintro a (ha | rfl)
      · exact htake a ha
      · exact hname

theorem State.close_of_none (found : List Element) (name : Text) (place : Span) :
    (State.of found none).close name place = .ok (.of found none) :=
  State.close_of_not_mem (by simp [State.of])

/-! ### Elements that begin -/

/-- The elements found once `e` is added, which is kept where no element is open. -/
def added (found : List Element) (current? : Option OpenElement) (e : Element) : List Element :=
  if current?.isNone then found ++ [e] else found

/-- The open element once `e` begins, as a top-level element or inside another one. -/
def nested (e : Element) : Option OpenElement → OpenElement
  | none => ⟨e, []⟩
  | some o => { o with inner := e.name :: o.inner }

theorem State.mk_opened_of (found : List Element) (current? : Option OpenElement) (e : Element) :
    (⟨(State.of (added found current? e) current?).found, (State.of found current?).opened⟩ :
      State) = State.of (added found current? e) current? := by
  cases current? <;> rfl

theorem State.fst_begin_of (found : List Element) (current? : Option OpenElement) (e : Element) :
    ((State.of found current?).begin e).1 = (State.of (added found current? e) current?).found := by
  cases current? <;> simp [State.begin, State.of, added]

theorem setEndTag_begin_of (found : List Element) (current? : Option OpenElement) (e : Element)
    (place : Span) :
    setEndTag ((State.of found current?).begin e).1 ((State.of found current?).begin e).2 place =
      .ok (State.of (added found current? { e with endTag := some place }) current?).found := by
  cases current? with
  | none => exact setEndTag_concat found e place
  | some o => simp [State.begin, State.of, added, setEndTag]

theorem State.mk_begin_of (found : List Element) (current? : Option OpenElement) (e : Element) :
    (⟨((State.of found current?).begin e).1,
      ⟨e.name, ((State.of found current?).begin e).2⟩ :: (State.of found current?).opened⟩ :
      State) = State.of found (some (nested e current?)) := by
  cases current? <;> simp [State.begin, State.of, nested, Opened.inside]

/-! ### The pass over a token -/

variable {ks : List Token}

theorem elementsFrom_cons_passed (hk : ¬k.BeginsElement)
    (hinside : ∀ name inner, stepInside name inner k = some inner) :
    elementsFrom offset current? (k :: ks) =
      elementsFrom (offset + byteLength k.spelling) current? ks := by
  cases current? with
  | none => exact elementsFrom_cons_of_not_beginsElement hk
  | some o => exact elementsFrom_cons_inside (hinside _ _)

theorem elementsFrom_cons_isWhole (hwhole : tag.isWhole = true) :
    found ++ elementsFrom offset current? (.startTag tag :: ks) =
      added found current? { tag.element offset with
          endTag := some ⟨offset + byteLength tag.spelling, offset + byteLength tag.spelling⟩ } ++
        elementsFrom (offset + byteLength tag.spelling) current? ks := by
  cases current? with
  | none => simp [elementsFrom_cons_whole hwhole, added]
  | some o =>
    have hinside : stepInside o.element.name o.inner (.startTag tag) = some o.inner := by
      simp [stepInside, hwhole]
    exact congrArg (found ++ ·) (elementsFrom_cons_inside hinside)

theorem elementsFrom_cons_rawElement {content : Text} {close : Option Text} :
    found ++ elementsFrom offset current? (.rawElement tag content close :: ks) =
      added found current? { tag.element offset with
          endTag := rawEndTag offset tag content close } ++
        elementsFrom (offset + byteLength (Token.rawElement tag content close).spelling)
          current? ks := by
  cases current? with
  | none => simp [elementsFrom_cons_raw, added]
  | some o => exact congrArg (found ++ ·) (elementsFrom_cons_inside rfl)

theorem elementsFrom_cons_nested (hwhole : tag.isWhole = false) :
    elementsFrom offset current? (.startTag tag :: ks) =
      elementsFrom (offset + byteLength tag.spelling)
        (some (nested (tag.element offset) current?)) ks := by
  cases current? with
  | none => exact elementsFrom_cons_open hwhole
  | some o =>
    have hinside : stepInside o.element.name o.inner (.startTag tag) =
        some (tag.lowerName :: o.inner) := by
      simp [stepInside, hwhole]
    exact elementsFrom_cons_inside hinside

/-! ### Rounds -/

/-- The scan of `t` has found `es` once the elements in the text at an offset are added. -/
def Continues (t : Text) (es : List Element) (offset : Nat) (s : State) : Prop :=
  ∃ found current? r, IsAt t offset r ∧ s = .of found current? ∧
    es = found ++ elementsAt offset current? r

theorem isAt_of_next? (h : IsAt t start q) (hnext : Token.next? q = some (k, r)) :
    IsAt t (startOf t r) r ∧ start + byteLength k.spelling = startOf t r ∧
      start < startOf t r := by
  rw [← Token.spelling_append_of_next? hnext] at h
  exact ⟨h.startOf_append, h.append.eq_startOf,
    h.lt_startOf (Token.spelling_ne_nil_of_next? hnext)⟩

variable {F : Nat → Prop} {es es' found' : List Element} {current?' : Option OpenElement}

/-- A round that passes over a token goes forward. -/
theorem keeps_proceed (hF : F start) (h : IsAt t start q)
    (hall : es = found ++ elementsAt start current? q) (hnext : Token.next? q = some (k, r))
    (hes : found ++ elementsFrom start current? (k :: Token.ofText r) =
      found' ++ elementsFrom (start + byteLength k.spelling) current?' (Token.ofText r)) :
    (Round.proceed start (startOf t r) (State.of found' current?')).Keeps t F
      (Continues t es) (· = es) := by
  obtain ⟨hrest, hstop, hlt⟩ := isAt_of_next? h hnext
  refine ⟨hF, hlt, hrest.isBoundary, found', current?', r, hrest, rfl, ?_⟩
  rw [hall, elementsAt, Token.ofText_of_next? hnext, hes, hstop, elementsAt]

/-- A round that is done has seen all tokens. -/
theorem keeps_done (hall : es = found ++ elementsAt start current? q)
    (hnext : Token.next? q = some (k, []))
    (hes : found ++ elementsFrom start current? [k] = es') :
    (Round.done es' : Round State (List Element)).Keeps t F (Continues t es) (· = es) := by
  rw [hall, elementsAt, Token.ofText_of_next? hnext, Token.ofText_nil, hes]
  rfl

/-! ### Start tags -/

/-- The tag that a scan keeps of a start tag in front of the text `rest`. -/
def Tag.of (t : Text) (tag : StartTag) (rest : Text) : Tag :=
  ⟨tag.lowerName, tag.dict, startOf t rest, tag.selfClosing⟩

/-- What a start tag does to the state of a scan, in terms of what it does to the open element. -/
theorem State.enter_of (hstop : start + byteLength tag.spelling = startOf t r) :
    (State.of found current?).enter t start (Tag.of t tag r) =
      if tag.isWhole then
        .ok (.proceed start (startOf t r) (.of (added found current?
          { tag.element start with endTag := some ⟨startOf t r, startOf t r⟩ }) current?))
      else if rawTextNames.contains tag.lowerName then do
        match ← findEndTag t (startOf t r) tag.lowerName with
        | some place => .ok (.proceed start place.stop (.of (added found current?
            { tag.element start with endTag := some place }) current?))
        | none => .ok (.done (State.of (added found current? (tag.element start)) current?).found)
      else .ok (.proceed start (startOf t r)
        (.of found (some (nested (tag.element start) current?)))) := by
  have helement : (⟨tag.lowerName, tag.dict, ⟨start, startOf t r⟩, none⟩ : Element) =
      tag.element start := by
    rw [StartTag.element, hstop]
  have hopened : (⟨((State.of found current?).begin (tag.element start)).1,
      ⟨tag.lowerName, ((State.of found current?).begin (tag.element start)).2⟩ ::
        (State.of found current?).opened⟩ : State) = _ :=
    State.mk_begin_of found current? (tag.element start)
  rw [State.enter]
  simp only [Tag.of, helement, setEndTag_begin_of, ok_bind, State.mk_opened_of, return_eq_ok,
    hopened]
  simp only [State.fst_begin_of found current? (tag.element start)]
  rfl

/-- The end tag of raw text is found where it is written. -/
theorem rawEndTag_eq {raw : RawText} (h : IsAt t start (tag.spelling ++ r))
    (hr : raw.content ++ raw.endTag ++ raw.rest = r) :
    rawEndTag start tag raw.content (some raw.endTag) = some (endTagPlace t raw) := by
  have hcontent : IsAt t start ((tag.spelling ++ raw.content) ++ (raw.endTag ++ raw.rest)) := by
    simpa [← hr] using h
  have hclose : IsAt t start ((tag.spelling ++ raw.content ++ raw.endTag) ++ raw.rest) := by
    simpa [← hr] using h
  rw [rawEndTag, endTagPlace, hcontent.append.eq_startOf, hclose.append.eq_startOf]

/-- A start tag does to the state of a scan what it does to the open element. -/
theorem exists_enter_eq_ok (hF : F start) (h : IsAt t start ('<' :: c :: u))
    (hall : es = found ++ elementsAt start current? ('<' :: c :: u)) (hc : c.isAlpha = true)
    (hparse : StartTag.parse? ('<' :: c :: u) = some (tag, r)) :
    ∃ outcome, (State.of found current?).enter t start (Tag.of t tag r) = .ok outcome ∧
      outcome.Keeps t F (Continues t es) (· = es) := by
  have htag := h
  rw [← StartTag.spelling_append_of_parse? hparse] at htag
  have hstop := htag.append.eq_startOf
  have hread := Token.next?_of_isAlpha (t := u) hc
  rw [Token.readStartTag, hparse] at hread
  dsimp only at hread
  rw [State.enter_of hstop]
  by_cases hwhole : tag.isWhole = true
  · rw [if_neg (by simp [opensRawText_of_isWhole hwhole])] at hread
    rw [if_pos hwhole]
    refine ⟨_, rfl, keeps_proceed hF h hall hread ?_⟩
    rw [elementsFrom_cons_isWhole hwhole, Token.spelling, hstop]
  · rw [if_neg hwhole]
    rw [Bool.not_eq_true] at hwhole
    by_cases hraw : rawTextNames.contains tag.lowerName = true
    · rw [if_pos (by simp only [StartTag.opensRawText, hwhole, hraw]; rfl)] at hread
      rw [if_pos hraw, findEndTag_eq htag.startOf_append, ok_bind]
      cases hsplit : RawText.split? tag.lowerName r with
      | some raw =>
        rw [hsplit] at hread
        refine ⟨_, rfl, keeps_proceed hF h hall hread ?_⟩
        rw [elementsFrom_cons_rawElement, rawEndTag_eq htag (RawText.append_of_split? hsplit)]
      | none =>
        rw [hsplit] at hread
        refine ⟨_, rfl, keeps_done hall hread ?_⟩
        rw [elementsFrom_cons_rawElement, State.found_of, elementsFrom]
        rfl
    · rw [if_neg (by simpa [StartTag.opensRawText, hwhole] using hraw)] at hread
      rw [if_neg hraw]
      refine ⟨_, rfl, keeps_proceed hF h hall hread ?_⟩
      rw [elementsFrom_cons_nested hwhole, Token.spelling]

end ComponentFile.Markup.Scanner
