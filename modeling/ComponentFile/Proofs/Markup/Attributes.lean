import ComponentFile.Proofs.Markup.Scanner.StartTag

/-!
# Attributes in every syntax

An attribute may have no value, a value in one of the two quotation marks, or a bare value, and
there may be white space around its equals sign.  Each of these syntaxes allows characters that mean
something in another one: a bare value may hold quotation marks, slashes and equals signs, and a
quoted one may hold `>`.  A tag is in conventional form when white space stands in front of every
attribute and in front of a closing slash.  No part of such a tag reads on into the next one, so
it is read as it is written.

## Main definitions

* `Value.IsConventional`, `Assignment.IsConventional`, `Attribute.IsConventional`,
  `StartTag.IsConventional` : tags in conventional form, and their parts.
* `EndsAttribute` : the texts that may stand behind an attribute.

## Main results

* `Attribute.IsConventional.isWritten` : no attribute reads on into what stands behind it.
* `StartTag.IsConventional.isWritten` : a tag in conventional form is a written form.
* `StartTag.IsConventional.read_spelling` : what is read from a tag in conventional form.
-/

namespace ComponentFile.Markup

open Text

variable {gap rest : Text}

/-! ### Conventional form -/

/-- A bare value is not empty and does not begin with a quotation mark, and a quoted value does not
hold its own quotation mark. -/
def Value.IsConventional : Value → Prop
  | bare b => b ≠ [] ∧ (∀ c ∈ b, isBareChar c = true) ∧ ∀ c ∈ b.head?, Quote.ofChar? c = none
  | quoted q b => q.mark ∉ b

/-- Around the equals sign stands white space or nothing. -/
def Assignment.IsConventional (a : Assignment) : Prop :=
  (∀ c ∈ a.before, isSpace c = true) ∧ (∀ c ∈ a.after, isSpace c = true) ∧ a.value.IsConventional

/-- White space stands in front of the name, which has at least one character. -/
def Attribute.IsConventional (a : Attribute) : Prop :=
  a.gap ≠ [] ∧ (∀ c ∈ a.gap, isSpace c = true) ∧ a.name ≠ [] ∧
    (∀ c ∈ a.name, isNameChar c = true) ∧
    ∀ assignment ∈ a.assignment, assignment.IsConventional

/-- The name begins with a letter, and white space stands in front of a closing slash. -/
def StartTag.IsConventional (tag : StartTag) : Prop :=
  (∃ c ∈ tag.name.head?, c.isAlpha = true) ∧ (∀ c ∈ tag.name, isNameEnd c = false) ∧
    (∀ a ∈ tag.attributes, a.IsConventional) ∧ (∀ c ∈ tag.gap, isSpace c = true) ∧
    (tag.selfClosing = true → tag.gap ≠ [])

/-- The instances go through the characters that are written, not through all characters. -/
instance : (v : Value) → Decidable v.IsConventional
  | .bare b =>
    have : Decidable (∀ c ∈ b, Value.isBareChar c = true) := List.decidableBAll _ b
    have : Decidable (∀ c ∈ b.head?, Quote.ofChar? c = none) := Option.decidableForallMem b.head?
    inferInstanceAs (Decidable (_ ∧ _ ∧ _))
  | .quoted q b => inferInstanceAs (Decidable (q.mark ∉ b))

instance (a : Assignment) : Decidable a.IsConventional :=
  have (t : Text) : Decidable (∀ c ∈ t, isSpace c = true) := List.decidableBAll _ t
  inferInstanceAs (Decidable (_ ∧ _ ∧ a.value.IsConventional))

instance (a : Attribute) : Decidable a.IsConventional :=
  have : Decidable (∀ c ∈ a.gap, isSpace c = true) := List.decidableBAll _ a.gap
  have : Decidable (∀ c ∈ a.name, Attribute.isNameChar c = true) := List.decidableBAll _ a.name
  have : Decidable (∀ x ∈ a.assignment, x.IsConventional) := Option.decidableForallMem a.assignment
  inferInstanceAs (Decidable (_ ∧ _ ∧ _ ∧ _ ∧ _))

instance (tag : StartTag) : Decidable tag.IsConventional :=
  have : Decidable (∃ c ∈ tag.name.head?, c.isAlpha = true) :=
    Option.decidableExistsMem tag.name.head?
  have : Decidable (∀ c ∈ tag.name, isNameEnd c = false) := List.decidableBAll _ tag.name
  have : Decidable (∀ a ∈ tag.attributes, a.IsConventional) := List.decidableBAll _ _
  have : Decidable (∀ c ∈ tag.gap, isSpace c = true) := List.decidableBAll _ tag.gap
  inferInstanceAs (Decidable (_ ∧ _ ∧ _ ∧ _ ∧ _))

/-! ### What stands behind an attribute -/

/-- The texts that may stand behind an attribute: they begin with white space or `>`, and no equals
sign comes next. -/
def EndsAttribute (t : Text) : Prop :=
  (∃ c ∈ t.head?, isSpace c = true ∨ c = '>') ∧ (t.dropWhile isSpace).head? ≠ some '='

theorem isNameEnd_of_isSpace_or {c : Char} (h : isSpace c = true ∨ c = '>') :
    isNameEnd c = true := by
  obtain h | rfl := h
  · exact isNameEnd_of_isSpace h
  · rfl

theorem EndsAttribute.isNameEnd (h : EndsAttribute rest) :
    ∀ c ∈ rest.head?, isNameEnd c = true := by
  obtain ⟨⟨d, hd, hend⟩, -⟩ := h
  intro c hc
  obtain rfl : d = c := Option.some.inj (hd.symm.trans hc)
  exact isNameEnd_of_isSpace_or hend

theorem EndsAttribute.isBareChar (h : EndsAttribute rest) :
    ∀ c ∈ rest.head?, Value.isBareChar c = false := by
  obtain ⟨⟨d, hd, hend⟩, -⟩ := h
  intro c hc
  obtain rfl : d = c := Option.some.inj (hd.symm.trans hc)
  obtain hspace | rfl := hend
  · simp [Value.isBareChar, hspace]
  · rfl

/-- A gap ends an attribute, unless an equals sign stands behind it. -/
theorem endsAttribute_gap_append {c : Char} (hne : gap ≠ []) (hgap : ∀ d ∈ gap, isSpace d = true)
    (hc : isSpace c = false) (heq : c ≠ '=') (rest : Text) :
    EndsAttribute (gap ++ c :: rest) := by
  obtain ⟨d, gap', rfl⟩ := List.exists_cons_of_ne_nil hne
  refine ⟨⟨d, rfl, .inl (hgap d List.mem_cons_self)⟩, ?_⟩
  rw [dropWhile_append_eq hgap (by rintro e ⟨⟩; exact hc)]
  simpa using heq

/-- The end of a tag ends its last attribute. -/
theorem endsAttribute_ending {selfClosing : Bool} (hgap : ∀ d ∈ gap, isSpace d = true)
    (hne : selfClosing = true → gap ≠ []) : EndsAttribute (StartTag.ending gap selfClosing) := by
  cases selfClosing with
  | true => exact endsAttribute_gap_append (hne rfl) hgap rfl (by decide) ['>']
  | false =>
    by_cases hnil : gap = []
    · rw [hnil]
      exact ⟨⟨'>', rfl, .inr rfl⟩, by decide⟩
    · exact endsAttribute_gap_append hnil hgap rfl (by decide) []

/-- The next attribute ends an attribute. -/
theorem Attribute.IsConventional.endsAttribute_append {a : Attribute} (h : a.IsConventional)
    (rest : Text) : EndsAttribute (a.spelling ++ rest) := by
  obtain ⟨hne, hgap, hname, hchars, -⟩ := h
  obtain ⟨c, name, hcons⟩ := List.exists_cons_of_ne_nil hname
  have hc := hchars c (hcons ▸ List.mem_cons_self)
  simp only [isNameChar, Bool.and_eq_true, Bool.not_eq_true', bne_iff_ne] at hc
  rw [spelling_eq, hcons, List.append_assoc, List.cons_append, List.cons_append]
  exact endsAttribute_gap_append hne hgap (isSpace_eq_false_of_isNameEnd hc.1) hc.2 _

/-! ### Written forms -/

/-- White space is a gap, whatever stands behind it. -/
theorem isGap_of_forall_isSpace (h : ∀ c ∈ gap, isSpace c = true) (rest : Text) :
    IsGap rest gap := by
  refine ⟨fun c hc ↦ .inl (h c hc), fun _ hlast ↦ ?_⟩
  cases h '/' (List.mem_of_getLast? hlast)

theorem Value.IsConventional.isWritten {v : Value} (h : v.IsConventional)
    (hrest : EndsAttribute rest) : v.IsWritten rest := by
  cases v with
  | quoted q b => exact h
  | bare b =>
    obtain ⟨hne, hchars, hquote⟩ := h
    obtain ⟨c, b, rfl⟩ := List.exists_cons_of_ne_nil hne
    exact ⟨hchars, hrest.isBareChar, c, rfl, hquote c rfl⟩

/-- A value does not begin with white space. -/
theorem Value.IsConventional.isSpace_head? {v : Value} (h : v.IsConventional) (rest : Text) :
    ∀ c ∈ (v.spelling ++ rest).head?, isSpace c = false := by
  cases v with
  | quoted q b =>
    rintro c ⟨⟩
    cases q <;> rfl
  | bare b =>
    obtain ⟨hne, hchars, -⟩ := h
    obtain ⟨d, b, rfl⟩ := List.exists_cons_of_ne_nil hne
    rintro c ⟨⟩
    have hbare := hchars d List.mem_cons_self
    simp only [isBareChar, Bool.and_eq_true, Bool.not_eq_true'] at hbare
    exact hbare.1

/-- No attribute reads on into what stands behind it. -/
theorem Attribute.IsConventional.isWritten {a : Attribute} (h : a.IsConventional)
    (hrest : EndsAttribute rest) : a.IsWritten rest := by
  obtain ⟨-, -, hname, hchars, hassignment⟩ := h
  obtain ⟨gap, name, assignment⟩ := a
  cases assignment with
  | none =>
    refine ⟨.inr ⟨hname, hchars, fun c hc ↦ ?_⟩, hrest.2⟩
    simp [isNameChar, hrest.isNameEnd c hc]
  | some x =>
    obtain ⟨hbefore, hafter, hvalue⟩ := hassignment x rfl
    refine ⟨.inr ⟨hname, hchars, ?_⟩, hbefore, hafter, hvalue.isSpace_head? rest,
      hvalue.isWritten hrest⟩
    -- the name ends at the space before the equals sign, or at the sign
    have hstop : ∀ c ∈ (x.before ++ ['=']).head?, isNameChar c = false := by
      intro c hc
      rcases List.mem_append.mp (List.mem_of_mem_head? hc) with hmem | hmem
      · simp [isNameChar, isNameEnd_of_isSpace (hbefore c hmem)]
      · rw [List.mem_singleton.mp hmem]
        rfl
    have hhead : (assignmentSpelling ⟨gap, name, some x⟩ ++ rest).head? =
        (x.before ++ ['=']).head? := by
      rw [assignmentSpelling, Option.elim, Assignment.spelling]
      cases x.before <;> rfl
    exact fun c hc ↦ hstop c (hhead ▸ hc)

/-- The inside of a tag in conventional form is a written form. -/
theorem StartTag.isBody_of_forall_isConventional {selfClosing : Bool} {as : List Attribute}
    (has : ∀ a ∈ as, a.IsConventional) (hgap : ∀ c ∈ gap, isSpace c = true)
    (hne : selfClosing = true → gap ≠ []) :
    EndsAttribute (as.flatMap Attribute.spelling ++ ending gap selfClosing) ∧
      IsBody gap selfClosing as := by
  induction as with
  | nil => exact ⟨endsAttribute_ending hgap hne, isGap_of_forall_isSpace hgap _⟩
  | cons a as ih =>
    obtain ⟨ha, has⟩ := List.forall_mem_cons.mp has
    obtain ⟨hends, hbody⟩ := ih has
    refine ⟨?_, isGap_of_forall_isSpace ha.2.1 _, ha.isWritten hends, hbody⟩
    rw [List.flatMap_cons, List.append_assoc]
    exact ha.endsAttribute_append _

namespace StartTag

variable {tag : StartTag}

/-- A tag in conventional form is a written form. -/
theorem IsConventional.isWritten (h : tag.IsConventional) : tag.IsWritten := by
  obtain ⟨hfirst, hname, hattributes, hgap, hne⟩ := h
  obtain ⟨hends, hbody⟩ := isBody_of_forall_isConventional hattributes hgap hne
  exact ⟨hfirst, hname, hends.isNameEnd, hbody⟩

/-- A tag in conventional form is read as it is written, whatever stands in front of it and behind
it, up to the offset behind its `>`.  It is found by its name in lower case; its attributes have the
values that are written first for their names in lower case, in the order in which the names first
occur, and it closes itself just when it is written with a slash. -/
theorem IsConventional.read_spelling (h : tag.IsConventional) (front rest : Text) :
    parse? (tag.spelling ++ rest) = some (tag, rest) ∧
      Scanner.scanStartTag (front ++ (tag.spelling ++ rest)) (byteLength front) =
        .ok (some ⟨lower tag.name, tag.dict, byteLength (front ++ tag.spelling),
          tag.selfClosing⟩) ∧
      tag.dict.entries = (tag.attributes.map fun a ↦ (lower a.name, a.valueText)).eraseDupsBy
        fun a b ↦ decide (a.1 = b.1) := by
  have hparse := parse?_spelling_append h.isWritten rest
  refine ⟨hparse, ?_, tag.entries_dict_eq⟩
  obtain ⟨c, u, hc, hspelling⟩ := h.isWritten.exists_spelling_eq
  have hat : Text.IsAt (front ++ (tag.spelling ++ rest)) (byteLength front)
      (tag.spelling ++ rest) := ⟨front, rfl, rfl⟩
  have hstop : startOf (front ++ (tag.spelling ++ rest)) rest =
      byteLength (front ++ tag.spelling) := by
    rw [byteLength_append]
    exact hat.append.eq_startOf.symm
  have hscan := hat
  rw [hspelling, List.cons_append, List.cons_append] at hscan hparse
  have hfound := Scanner.scanStartTag_eq hscan hc
  rw [hparse, ← List.cons_append, ← List.cons_append, ← hspelling] at hfound
  rw [hfound, Option.map_some, hstop, lowerName]

/-- A tag in which every syntax holds what has a meaning in another one, and a name occurs twice:
`<stYle-é LANG="a>b'/" lang = 'x=">' src⟨tab⟩=⟨newline⟩/a"b=c'/ Scoped />`. -/
def quirkyTag : StartTag where
  name := "stYle-é".toList
  attributes :=
    [⟨[' '], "LANG".toList, some ⟨[], [], .quoted .double "a>b'/".toList⟩⟩,
      ⟨[' '], "lang".toList, some ⟨[' '], [' '], .quoted .single "x=\">".toList⟩⟩,
      ⟨[' '], "src".toList, some ⟨['\t'], ['\n'], .bare "/a\"b=c'/".toList⟩⟩,
      ⟨[' '], "Scoped".toList, none⟩]
  gap := [' ']
  selfClosing := true

/-- The tag behind a character of two bytes and in front of another one. -/
def quirkyText : Text :=
  "ß<stYle-é LANG=\"a>b'/\" lang = 'x=\">' src\t=\n/a\"b=c'/ Scoped />=".toList

theorem quirkyTag_read_spelling :
    quirkyTag.IsConventional ∧
      Scanner.scanStartTag quirkyText 2 =
        .ok (some ⟨"style-é".toList, quirkyTag.dict, 63, true⟩) ∧
      quirkyTag.dict.entries =
        [("lang".toList, "a>b'/".toList), ("src".toList, "/a\"b=c'/".toList),
          ("scoped".toList, [])] := by
  have hconventional : quirkyTag.IsConventional := by decide +kernel
  obtain ⟨-, hscan, hentries⟩ := hconventional.read_spelling ['ß'] ['=']
  have htext : ['ß'] ++ (quirkyTag.spelling ++ ['=']) = quirkyText := by decide +kernel
  have hname : lower quirkyTag.name = "style-é".toList := by decide +kernel
  have hstop : byteLength (['ß'] ++ quirkyTag.spelling) = 63 := by decide +kernel
  rw [htext, hname, hstop] at hscan
  exact ⟨hconventional, hscan, hentries.trans (by decide +kernel)⟩

end StartTag

end ComponentFile.Markup
