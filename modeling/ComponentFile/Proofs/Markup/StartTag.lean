import ComponentFile.Markup.StartTag
import ComponentFile.Proofs.Dict
import ComponentFile.Proofs.Text.Case
import ComponentFile.Proofs.Text.Search

/-!
# How start tags are written

A start tag that was read is kept as it is written, part by part.  This file says which
combinations of parts are written forms at all, and shows that the reader accepts exactly these.
A part may depend on the text behind it, because a name or a bare value goes on as far as it can;
a whole tag does not, because it ends with `>`.

## Main definitions

* `Value.IsWritten`, `Assignment.IsWritten`, `Attribute.IsWritten` : the written forms of the
  parts of an attribute in front of a text.
* `IsGap` : the text that may stand between two attributes.
* `StartTag.IsWritten` : the written forms of a start tag.

## Main results

* `StartTag.parse?_eq_some_iff` : a start tag is read exactly from its spelling.
* `StartTag.parse?_spelling_append` : what is read does not depend on the text behind the tag.
* `StartTag.entries_dict_eq` : of several attributes with one name the first counts.
* `StartTag.entries_dict` : the dictionary of attributes with distinct names.
-/

namespace ComponentFile.Markup

open Text

variable {t rest s : Text}

theorem Quote.ofChar?_mark (q : Quote) : ofChar? q.mark = some q := by
  cases q <;> rfl

theorem isNameEnd_of_isSpace {c : Char} (h : isSpace c = true) : isNameEnd c = true := by
  simp [isNameEnd, h]

theorem isSpace_eq_false_of_isNameEnd {c : Char} (h : isNameEnd c = false) : isSpace c = false := by
  simp only [isNameEnd, Bool.or_eq_false_iff] at h
  exact h.1.1

theorem isNameEnd_eq_false_of_isAlpha {c : Char} (h : c.isAlpha = true) :
    isNameEnd c = false := by
  rw [Bool.eq_false_iff]
  intro e
  simp only [isNameEnd, isSpace, Bool.or_eq_true, beq_iff_eq] at e
  obtain ((((((rfl | rfl) | rfl) | rfl) | rfl) | rfl) | rfl) := e <;> cases h

theorem isNameEnd_toLower (c : Char) : isNameEnd c.toLower = isNameEnd c :=
  apply_toLower (fun _ ↦ isNameEnd_eq_false_of_isAlpha) c

theorem isSpace_toLower (c : Char) : isSpace c.toLower = isSpace c :=
  apply_toLower (fun _ h ↦ isSpace_eq_false_of_isNameEnd (isNameEnd_eq_false_of_isAlpha h)) c

/-! ### Values -/

namespace Value

/-- The written forms of a value in front of the text `rest`.  A bare value takes every character
that it can, and does not begin with a quotation mark. -/
def IsWritten (rest : Text) : Value → Prop
  | bare b => (∀ c ∈ b, isBareChar c = true) ∧ (∀ c ∈ rest.head?, isBareChar c = false) ∧
      ∃ c ∈ (b ++ rest).head?, Quote.ofChar? c = none
  | quoted q b => q.mark ∉ b

theorem isWritten_of_read? {v : Value} (h : read? t = some (v, rest)) : v.IsWritten rest := by
  cases t with
  | nil => simp [read?] at h
  | cons c t =>
    cases hq : Quote.ofChar? c with
    | none =>
      have hspell := spelling_append_of_read? h
      simp only [read?, hq, Option.some.injEq, Prod.mk.injEq] at h
      obtain ⟨rfl, rfl⟩ := h
      refine ⟨fun _ ↦ List.mem_takeWhile_imp, head?_dropWhile_eq_false _ _, c, ?_, hq⟩
      rw [List.takeWhile_append_dropWhile]
      rfl
    | some q =>
      simp only [read?, hq, Option.map_eq_some_iff, Prod.mk.injEq] at h
      obtain ⟨parts, hcut, rfl, rfl⟩ := h
      exact not_mem_of_cut?_singleton hcut

theorem read?_spelling_append {v : Value} (h : v.IsWritten rest) :
    read? (v.spelling ++ rest) = some (v, rest) := by
  cases v with
  | bare b =>
    obtain ⟨hb, hrest, c, hc, hq⟩ := h
    obtain ⟨u, hu⟩ : ∃ u, b ++ rest = c :: u := by
      cases hbr : b ++ rest with
      | nil => simp [hbr] at hc
      | cons d u => simp_all
    have htake := takeWhile_append_eq hb hrest
    have hdrop := dropWhile_append_eq hb hrest
    rw [hu] at htake hdrop
    simp only [spelling, hu, read?, hq, htake, hdrop]
  | quoted q b =>
    have hcut := cut?_singleton_append h rest
    simp [spelling, read?, Quote.ofChar?_mark, hcut]

/-- A value is read exactly from its spelling. -/
theorem read?_eq_some_iff {v : Value} :
    read? t = some (v, rest) ↔ t = v.spelling ++ rest ∧ v.IsWritten rest :=
  ⟨fun h ↦ ⟨(spelling_append_of_read? h).symm, isWritten_of_read? h⟩,
    fun ⟨ht, h⟩ ↦ ht ▸ read?_spelling_append h⟩

theorem isWritten_append_iff {v : Value} (hs : s ≠ []) :
    v.IsWritten (s ++ t) ↔ v.IsWritten s := by
  cases v with
  | bare b =>
    have hbs : b ++ s ≠ [] := by simp [hs]
    simp only [IsWritten, List.head?_append_of_ne_nil _ hs, ← List.append_assoc,
      List.head?_append_of_ne_nil _ hbs]
  | quoted q b => exact Iff.rfl

end Value

/-! ### Assignments -/

namespace Assignment

/-- The written forms of an assignment in front of the text `rest`. -/
def IsWritten (rest : Text) (a : Assignment) : Prop :=
  (∀ c ∈ a.before, isSpace c = true) ∧ (∀ c ∈ a.after, isSpace c = true) ∧
    (∀ c ∈ (a.value.spelling ++ rest).head?, isSpace c = false) ∧ a.value.IsWritten rest

/-- The written forms of an assignment or of its absence.  Nothing is assigned when no equals
sign follows behind the space. -/
def IsWritten? (rest : Text) : Option Assignment → Prop
  | some a => a.IsWritten rest
  | none => (rest.dropWhile isSpace).head? ≠ some '='

theorem isWritten?_of_read? {a? : Option Assignment} (h : read? t = some (a?, rest)) :
    IsWritten? rest a? := by
  unfold read? at h
  split at h
  · next u hu =>
    simp only [Option.map_eq_some_iff, Prod.mk.injEq] at h
    obtain ⟨found, hfound, rfl, rfl⟩ := h
    refine ⟨fun _ ↦ List.mem_takeWhile_imp, fun _ ↦ List.mem_takeWhile_imp, ?_,
      Value.isWritten_of_read? hfound⟩
    rw [Value.spelling_append_of_read? hfound]
    exact head?_dropWhile_eq_false _ _
  · next hne =>
    simp only [Option.some.injEq, Prod.mk.injEq] at h
    obtain ⟨rfl, rfl⟩ := h
    intro heq
    obtain ⟨u, hu⟩ := List.head?_eq_some_iff.mp heq
    exact hne u hu

theorem read?_spelling_append {a? : Option Assignment} (h : IsWritten? rest a?) :
    read? (a?.elim [] spelling ++ rest) = some (a?, rest) := by
  cases a? with
  | none =>
    simp only [Option.elim, List.nil_append, read?]
    split
    · next u hu => exact absurd (by simp [hu]) h
    · rfl
  | some a =>
    obtain ⟨hbefore, hafter, hvalue, hwritten⟩ := h
    have heq : ∀ d ∈ ('=' :: (a.after ++ (a.value.spelling ++ rest))).head?, isSpace d = false := by
      rintro d ⟨⟩
      rfl
    have htake := takeWhile_append_eq hbefore heq
    have hdrop := dropWhile_append_eq hbefore heq
    have htext : a.spelling ++ rest =
        a.before ++ '=' :: (a.after ++ (a.value.spelling ++ rest)) := by
      simp [spelling]
    simp only [Option.elim, htext, read?, hdrop, htake, dropWhile_append_eq hafter hvalue,
      takeWhile_append_eq hafter hvalue, Value.read?_spelling_append hwritten, Option.map_some]

/-- An assignment or its absence is read exactly from its spelling. -/
theorem read?_eq_some_iff {a? : Option Assignment} :
    read? t = some (a?, rest) ↔ t = a?.elim [] spelling ++ rest ∧ IsWritten? rest a? :=
  ⟨fun h ↦ ⟨(spelling_append_of_read? h).symm, isWritten?_of_read? h⟩,
    fun ⟨ht, h⟩ ↦ ht ▸ read?_spelling_append h⟩

theorem isWritten?_append_iff {a? : Option Assignment} (hs : ∃ c ∈ s, isSpace c = false) :
    IsWritten? (s ++ t) a? ↔ IsWritten? s a? := by
  have hne : s ≠ [] := by
    obtain ⟨c, hc, -⟩ := hs
    exact List.ne_nil_of_mem hc
  cases a? with
  | none =>
    have hdrop : s.dropWhile isSpace ≠ [] := by
      obtain ⟨c, hc, hsp⟩ := hs
      intro h
      exact absurd (List.dropWhile_eq_nil_iff.mp h c hc) (by simp [hsp])
    simp only [IsWritten?, dropWhile_append_of_exists hs, List.head?_append_of_ne_nil _ hdrop]
  | some a =>
    have hvs : a.value.spelling ++ s ≠ [] := by simp [hne]
    simp only [IsWritten?, IsWritten, Value.isWritten_append_iff hne, ← List.append_assoc,
      List.head?_append_of_ne_nil _ hvs]

end Assignment

/-! ### Attributes -/

namespace Attribute

/-- An attribute behind its name. -/
def assignmentSpelling (a : Attribute) : Text :=
  a.assignment.elim [] Assignment.spelling

theorem spelling_eq (a : Attribute) : a.spelling = a.gap ++ (a.name ++ a.assignmentSpelling) := by
  simp [spelling, assignmentSpelling]

/-- The written forms of an attribute in front of the text `rest`.  The name takes every character
that it can; an equals sign that stands first is a name of its own. -/
def IsWritten (rest : Text) (a : Attribute) : Prop :=
  (a.name = ['='] ∨ (a.name ≠ [] ∧ (∀ c ∈ a.name, isNameChar c = true) ∧
    ∀ c ∈ (a.assignmentSpelling ++ rest).head?, isNameChar c = false)) ∧
  Assignment.IsWritten? rest a.assignment

theorem IsWritten.name_ne_nil {a : Attribute} (h : a.IsWritten rest) : a.name ≠ [] := by
  obtain ⟨hname | hname, -⟩ := h
  · simp [hname]
  · exact hname.1

/-- A name begins with a character that does not end names. -/
theorem IsWritten.isNameEnd_head? {a : Attribute} (h : a.IsWritten rest) :
    ∀ c ∈ a.name.head?, isNameEnd c = false := by
  intro c hc
  obtain ⟨hname | ⟨-, hname, -⟩, -⟩ := h
  · rw [hname] at hc
    obtain rfl : '=' = c := by simpa using hc
    rfl
  · have := hname c (List.mem_of_mem_head? hc)
    simp_all [isNameChar]

theorem splitName_of_takeWhile_ne_nil (h : t.takeWhile isNameChar ≠ []) :
    splitName t = (t.takeWhile isNameChar, t.dropWhile isNameChar) := by
  unfold splitName
  split
  · next hnil => exact absurd hnil h
  · rfl

theorem isWritten_of_read? {gap : Text} {a : Attribute} {c : Char}
    (h : read? gap (c :: t) = some (a, rest)) (hc : isNameEnd c = false) : a.IsWritten rest := by
  simp only [read?, Option.map_eq_some_iff, Prod.mk.injEq] at h
  obtain ⟨found, hfound, rfl, rfl⟩ := h
  refine ⟨?_, Assignment.isWritten?_of_read? hfound⟩
  have hassign := Assignment.spelling_append_of_read? hfound
  by_cases hchar : isNameChar c = true
  · have htake : (c :: t).takeWhile isNameChar ≠ [] := by simp [hchar]
    rw [splitName_of_takeWhile_ne_nil htake] at hassign ⊢
    refine .inr ⟨htake, fun _ ↦ List.mem_takeWhile_imp, ?_⟩
    simp only [assignmentSpelling, hassign]
    exact head?_dropWhile_eq_false _ _
  · have heq : c = '=' := by simpa [isNameChar, hc] using hchar
    have hsplit : (splitName (c :: t)).1 = ['='] := by simp [splitName, heq, isNameChar]
    exact .inl hsplit

theorem splitName_append_eq {a : Attribute} (h : a.IsWritten rest) :
    splitName (a.name ++ (a.assignmentSpelling ++ rest)) =
      (a.name, a.assignmentSpelling ++ rest) := by
  obtain ⟨hname | ⟨hne, hchars, hrest⟩, -⟩ := h
  · have hchar : isNameChar '=' = false := rfl
    simp [hname, splitName, hchar]
  · simp only [splitName, takeWhile_append_eq hchars hrest, dropWhile_append_eq hchars hrest]

theorem read?_spelling_append {a : Attribute} (h : a.IsWritten rest) :
    read? a.gap (a.name ++ (a.assignmentSpelling ++ rest)) = some (a, rest) := by
  have hassign := Assignment.read?_spelling_append h.2
  rw [read?, splitName_append_eq h]
  simp only [assignmentSpelling] at hassign ⊢
  rw [hassign]
  rfl

theorem gap_of_read? {gap : Text} {a : Attribute} (h : read? gap t = some (a, rest)) :
    a.gap = gap := by
  simp only [read?, Option.map_eq_some_iff, Prod.mk.injEq] at h
  obtain ⟨found, -, rfl, -⟩ := h
  rfl

theorem isWritten_append_iff {a : Attribute} (hs : ∃ c ∈ s, isSpace c = false) :
    a.IsWritten (s ++ t) ↔ a.IsWritten s := by
  have hne : a.assignmentSpelling ++ s ≠ [] := by
    obtain ⟨c, hc, -⟩ := hs
    simp [List.ne_nil_of_mem hc]
  simp only [IsWritten, Assignment.isWritten?_append_iff hs, ← List.append_assoc,
    List.head?_append_of_ne_nil _ hne]

end Attribute

/-! ### Gaps -/

/-- The text between two attributes in front of the text `rest`: spaces and slashes, where a slash
does not stand directly before `>`. -/
def IsGap (rest gap : Text) : Prop :=
  (∀ c ∈ gap, isSpace c = true ∨ c = '/') ∧ (rest.head? = some '>' → gap.getLast? ≠ some '/')

/-- The texts in front of which a gap ends: the empty text, the ends of a tag, and everything that
an attribute begins with. -/
def EndsGap : Text → Prop
  | [] => True
  | c :: t => isSpace c = false ∧ (c = '/' → t.head? = some '>')

/-- A slash right before `>` is no gap. -/
theorem isGap_cons_iff {c : Char} {gap : Text} :
    IsGap rest (c :: gap) ↔
      (isSpace c = true ∨ (c = '/' ∧ (gap ++ rest).head? ≠ some '>')) ∧ IsGap rest gap := by
  have hsp : isSpace '>' = false := rfl
  cases gap with
  | nil =>
    simp only [IsGap, List.mem_cons, List.not_mem_nil, or_false, forall_eq, List.getLast?_singleton,
      List.nil_append, List.getLast?_nil]
    by_cases hc : c = '/' <;> simp [hc, isSpace]
  | cons d gap =>
    simp only [IsGap, List.mem_cons, forall_eq_or_imp, List.getLast?_cons_cons, List.cons_append,
      List.head?_cons]
    constructor
    · rintro ⟨⟨hc, hd, hgap⟩, hlast⟩
      refine ⟨hc.imp_right fun h ↦ ⟨h, ?_⟩, ⟨hd, hgap⟩, hlast⟩
      intro e
      obtain rfl : d = '>' := by simpa using e
      simp [isSpace] at hd
    · rintro ⟨hc, ⟨hd, hgap⟩, hlast⟩
      exact ⟨⟨hc.imp_right And.left, hd, hgap⟩, hlast⟩

theorem splitGap_of_endsGap (h : EndsGap t) : splitGap t = ([], t) := by
  cases t with
  | nil => rfl
  | cons c t =>
    obtain ⟨hsp, hslash⟩ := h
    have hcond : (isSpace c || (c == '/' && t.head? != some '>')) = false := by
      by_cases hc : c = '/'
      · simp [hsp, hslash hc]
      · simp [hsp, hc]
    rw [splitGap, hcond]
    rfl

theorem splitGap_append_eq {gap : Text} (hgap : IsGap rest gap) (hrest : EndsGap rest) :
    splitGap (gap ++ rest) = (gap, rest) := by
  induction gap with
  | nil => exact splitGap_of_endsGap hrest
  | cons c gap ih =>
    obtain ⟨hc, htail⟩ := isGap_cons_iff.mp hgap
    have hcond : (isSpace c || (c == '/' && (gap ++ rest).head? != some '>')) = true := by
      obtain hsp | ⟨rfl, hne⟩ := hc
      · simp [hsp]
      · simp only [beq_self_eq_true, Bool.true_and, Bool.or_eq_true, bne_iff_ne]
        exact .inr hne
    rw [List.cons_append, splitGap, hcond, ih htail]
    rfl

theorem isGap_splitGap (t : Text) :
    IsGap (splitGap t).2 (splitGap t).1 ∧ EndsGap (splitGap t).2 := by
  induction t with
  | nil => simp [splitGap, IsGap, EndsGap]
  | cons c t ih =>
    by_cases hcond : (isSpace c || (c == '/' && t.head? != some '>')) = true
    · rw [splitGap, if_pos hcond]
      refine ⟨isGap_cons_iff.mpr ⟨?_, ih.1⟩, ih.2⟩
      rw [splitGap_append]
      simpa using hcond
    · rw [splitGap, if_neg hcond]
      refine ⟨⟨by simp, by simp⟩, ?_⟩
      simp only [Bool.or_eq_true, Bool.and_eq_true, beq_iff_eq, bne_iff_ne, not_or, not_and,
        not_not, Bool.not_eq_true] at hcond
      exact hcond

/-- A gap is split off exactly where it ends. -/
theorem splitGap_eq_iff {gap : Text} :
    splitGap t = (gap, rest) ↔ t = gap ++ rest ∧ IsGap rest gap ∧ EndsGap rest := by
  constructor
  · intro h
    have happ := splitGap_append t
    have hgap := isGap_splitGap t
    rw [h] at happ hgap
    exact ⟨happ.symm, hgap⟩
  · rintro ⟨rfl, hgap, hrest⟩
    exact splitGap_append_eq hgap hrest

theorem isGap_append_iff {gap : Text} (hs : s ≠ []) : IsGap (s ++ t) gap ↔ IsGap s gap := by
  simp only [IsGap, List.head?_append_of_ne_nil _ hs]

/-- What a gap leaves behind it is the end of the text, the end of the tag, or an attribute. -/
theorem endsGap_cases (h : EndsGap t) :
    t = [] ∨ (∃ selfClosing s, t = StartTag.ending [] selfClosing ++ s) ∨
      ∃ c u, t = c :: u ∧ isNameEnd c = false := by
  cases t with
  | nil => exact .inl rfl
  | cons c u =>
    obtain ⟨hspace, hslash⟩ := h
    by_cases hgt : c = '>'
    · exact .inr (.inl ⟨false, u, by rw [hgt]; rfl⟩)
    · by_cases hc : c = '/'
      · obtain ⟨v, rfl⟩ := List.head?_eq_some_iff.mp (hslash hc)
        exact .inr (.inl ⟨true, v, by rw [hc]; rfl⟩)
      · exact .inr (.inr ⟨c, u, rfl, by simp [isNameEnd, hspace, hc, hgt]⟩)

/-! ### Tags -/

namespace StartTag

/-- The written forms of the part of a tag behind its name. -/
def IsBody (gap : Text) (selfClosing : Bool) : List Attribute → Prop
  | [] => IsGap (ending [] selfClosing) gap
  | a :: as =>
    IsGap a.name a.gap ∧ a.IsWritten (as.flatMap Attribute.spelling ++ ending gap selfClosing) ∧
      IsBody gap selfClosing as

theorem ending_eq (gap : Text) (selfClosing : Bool) :
    ending gap selfClosing = gap ++ ending [] selfClosing := by
  simp [ending]

theorem gt_mem_ending (gap : Text) (selfClosing : Bool) : '>' ∈ ending gap selfClosing := by
  cases selfClosing <;> simp [ending]

theorem ending_ne_nil (gap : Text) (selfClosing : Bool) : ending gap selfClosing ≠ [] :=
  List.ne_nil_of_mem (gt_mem_ending gap selfClosing)

theorem endsGap_ending_append (selfClosing : Bool) (t : Text) :
    EndsGap (ending [] selfClosing ++ t) := by
  cases selfClosing <;> simp [ending, EndsGap, isSpace]

/-- The part of a tag behind an attribute ends with `>`, so that no reader looks past it. -/
theorem exists_not_space_body (as : List Attribute) (gap : Text) (selfClosing : Bool) :
    ∃ c ∈ as.flatMap Attribute.spelling ++ ending gap selfClosing, isSpace c = false :=
  ⟨'>', List.mem_append_right _ (gt_mem_ending gap selfClosing), rfl⟩

theorem isBody_of_readBody? {body : List Attribute × Text × Bool}
    (h : readBody? t = some (body, rest)) : IsBody body.2.1 body.2.2 body.1 := by
  fun_induction readBody? t generalizing body rest with
  | case1 => simp at h
  | case2 t gap u hgap =>
    simp only [Option.some.injEq, Prod.mk.injEq] at h
    obtain ⟨rfl, rfl⟩ := h
    exact (isGap_append_iff (s := ['>']) (by simp)).mp (splitGap_eq_iff.mp hgap).2.1
  | case3 t gap u hgap =>
    simp only [Option.some.injEq, Prod.mk.injEq] at h
    obtain ⟨rfl, rfl⟩ := h
    exact (isGap_append_iff (s := ['/', '>']) (by simp)).mp (splitGap_eq_iff.mp hgap).2.1
  | case4 => simp at h
  | case5 t gap c u hgt hslash hgap first after hattr ih =>
    simp only [Option.map_eq_some_iff, Prod.mk.injEq] at h
    obtain ⟨found, hfound, rfl, rfl⟩ := h
    obtain ⟨-, hgapc, hsp, hcslash⟩ := splitGap_eq_iff.mp hgap
    have hc : isNameEnd c = false := by
      have hne : c ≠ '/' := fun e ↦ by
        obtain ⟨v, hv⟩ := List.head?_eq_some_iff.mp (hcslash e)
        exact hslash v e hv
      simpa [isNameEnd, hsp, hne] using hgt
    have hwritten := Attribute.isWritten_of_read? hattr hc
    have hname : first.name ++ (first.assignmentSpelling ++ after) = c :: u := by
      have hspell := Attribute.spelling_append_of_read? hattr
      rw [Attribute.spelling_eq] at hspell
      obtain rfl := Attribute.gap_of_read? hattr
      simpa using hspell
    have hafter := spelling_append_of_readBody? hfound
    refine ⟨?_, ?_, ih hfound⟩
    · rw [Attribute.gap_of_read? hattr]
      rw [← hname] at hgapc
      exact (isGap_append_iff hwritten.name_ne_nil).mp hgapc
    · rw [← hafter] at hwritten
      exact (Attribute.isWritten_append_iff (exists_not_space_body _ _ _)).mp hwritten

theorem readBody?_of_ending {gap : Text} {selfClosing : Bool}
    (h : splitGap t = (gap, ending [] selfClosing ++ rest)) :
    readBody? t = some (([], gap, selfClosing), rest) := by
  rw [readBody?]
  cases selfClosing with
  | false =>
    have h' : splitGap t = (gap, '>' :: rest) := h
    split
    · simp_all
    · simp_all [ending]
    · simp_all [ending]
    · next hgt _ heq =>
      obtain ⟨-, rfl, -⟩ := by simpa [heq] using h'
      exact absurd rfl hgt
  | true =>
    have h' : splitGap t = (gap, '/' :: '>' :: rest) := h
    split
    · simp_all
    · simp_all [ending]
    · simp_all [ending]
    · next hslash heq =>
      obtain ⟨-, rfl, rfl⟩ := by simpa [heq] using h'
      exact absurd rfl (hslash rest rfl)

theorem readBody?_of_attribute {gap after : Text} {c : Char} {a : Attribute}
    (h : splitGap t = (gap, c :: s)) (hc : isNameEnd c = false)
    (ha : Attribute.read? gap (c :: s) = some (a, after)) :
    readBody? t = (readBody? after).map fun found ↦
      ((a :: found.1.1, found.1.2), found.2) := by
  rw [readBody?]
  split
  · simp_all
  · next heq =>
    obtain ⟨-, rfl, -⟩ := by simpa [heq] using h
    simp [isNameEnd] at hc
  · next heq =>
    obtain ⟨-, rfl, -⟩ := by simpa [heq] using h
    simp [isNameEnd] at hc
  · next heq =>
    obtain ⟨rfl, rfl, rfl⟩ := by simpa [heq] using h
    split
    · simp_all
    · next heq' =>
      obtain ⟨rfl, rfl⟩ := by simpa [heq'] using ha
      rfl

theorem readBody?_of_nil {gap : Text} (h : splitGap t = (gap, [])) : readBody? t = none := by
  rw [readBody?]
  split <;> simp_all

/-- An attribute that does not end keeps the tag from ending. -/
theorem readBody?_of_read?_eq_none {gap : Text} {c : Char} (h : splitGap t = (gap, c :: s))
    (hc : isNameEnd c = false) (hread : Attribute.read? gap (c :: s) = none) :
    readBody? t = none := by
  rw [readBody?]
  split
  · rfl
  · next heq =>
    obtain ⟨-, rfl, -⟩ := by simpa [heq] using h
    simp [isNameEnd] at hc
  · next heq =>
    obtain ⟨-, rfl, -⟩ := by simpa [heq] using h
    simp [isNameEnd] at hc
  · next heq =>
    obtain ⟨rfl, rfl, rfl⟩ := by simpa [heq] using h
    split
    · rfl
    · next heq' =>
      rw [hread] at heq'
      cases heq'

theorem readBody?_append {gap : Text} {selfClosing : Bool} {as : List Attribute}
    (h : IsBody gap selfClosing as) (rest : Text) :
    readBody? (as.flatMap Attribute.spelling ++ ending gap selfClosing ++ rest) =
      some ((as, gap, selfClosing), rest) := by
  induction as with
  | nil =>
    have hgap := (isGap_append_iff (t := rest) (ending_ne_nil [] selfClosing)).mpr h
    rw [List.flatMap_nil, List.nil_append, ending_eq, List.append_assoc]
    exact readBody?_of_ending (splitGap_append_eq hgap (endsGap_ending_append selfClosing rest))
  | cons a as ih =>
    obtain ⟨hgap, hwritten, hbody⟩ := h
    have hlong := (Attribute.isWritten_append_iff (t := rest)
      (exists_not_space_body as gap selfClosing)).mpr hwritten
    have hread := Attribute.read?_spelling_append hlong
    obtain ⟨c, name, hname⟩ := List.exists_cons_of_ne_nil hwritten.name_ne_nil
    have hc : isNameEnd c = false := hwritten.isNameEnd_head? c (by simp [hname])
    have hends : EndsGap (a.name ++ (a.assignmentSpelling ++
        (as.flatMap Attribute.spelling ++ ending gap selfClosing ++ rest))) := by
      rw [hname]
      simp only [isNameEnd, Bool.or_eq_false_iff, beq_eq_false_iff_ne] at hc
      exact ⟨hc.1.1, fun e ↦ absurd e hc.1.2⟩
    have hsplit := splitGap_append_eq ((isGap_append_iff hwritten.name_ne_nil).mpr hgap) hends
    rw [hname] at hsplit hread
    have htext : (a :: as).flatMap Attribute.spelling ++ ending gap selfClosing ++ rest =
        a.gap ++ (c :: name ++ (a.assignmentSpelling ++
          (as.flatMap Attribute.spelling ++ ending gap selfClosing ++ rest))) := by
      simp [Attribute.spelling_eq, hname]
    rw [htext, readBody?_of_attribute hsplit hc hread, ih hbody]
    rfl

/-- The written forms of a start tag. -/
def IsWritten (tag : StartTag) : Prop :=
  (∃ c ∈ tag.name.head?, c.isAlpha = true) ∧ (∀ c ∈ tag.name, isNameEnd c = false) ∧
    (∀ c ∈ (tag.attributes.flatMap Attribute.spelling ++ ending tag.gap tag.selfClosing).head?,
      isNameEnd c = true) ∧ IsBody tag.gap tag.selfClosing tag.attributes

/-- A start tag begins with `<` and a letter. -/
theorem IsWritten.exists_spelling_eq {tag : StartTag} (h : tag.IsWritten) :
    ∃ c u, c.isAlpha = true ∧ tag.spelling = '<' :: c :: u := by
  obtain ⟨⟨c, hc, halpha⟩, -⟩ := h
  obtain ⟨name, hname⟩ := List.head?_eq_some_iff.mp hc
  exact ⟨c, name ++ (tag.attributes.flatMap Attribute.spelling ++
    ending tag.gap tag.selfClosing), halpha, by simp [spelling, hname]⟩

theorem isWritten_of_parse? {tag : StartTag} (h : parse? t = some (tag, rest)) :
    tag.IsWritten := by
  unfold parse? at h
  split at h
  · next c u =>
    split at h
    · next hc =>
      simp only [Option.map_eq_some_iff, Prod.mk.injEq] at h
      obtain ⟨found, hfound, rfl, rfl⟩ := h
      have hfirst : isNameEnd c = false := isNameEnd_eq_false_of_isAlpha hc
      have hend := head?_dropWhile_eq_false (fun d ↦ !isNameEnd d) (c :: u)
      rw [← spelling_append_of_readBody? hfound, List.head?_append_of_ne_nil _
        (List.append_ne_nil_of_right_ne_nil _ (ending_ne_nil _ _))] at hend
      exact ⟨⟨c, by simp [hfirst], hc⟩,
        fun d hd ↦ by simpa using List.mem_takeWhile_imp hd,
        fun d hd ↦ by simpa using hend d hd, isBody_of_readBody? hfound⟩
    · cases h
  · cases h

theorem parse?_spelling_append {tag : StartTag} (h : tag.IsWritten) (rest : Text) :
    parse? (tag.spelling ++ rest) = some (tag, rest) := by
  obtain ⟨⟨c, hc, halpha⟩, hname, hend, hbody⟩ := h
  obtain ⟨name, hcons⟩ := List.head?_eq_some_iff.mp hc
  have hkeep : ∀ d ∈ tag.name, (!isNameEnd d) = true := fun d hd ↦ by simp [hname d hd]
  have hstop : ∀ d ∈ (tag.attributes.flatMap Attribute.spelling ++
      ending tag.gap tag.selfClosing ++ rest).head?, (!isNameEnd d) = false := by
    rw [List.head?_append_of_ne_nil _ (List.append_ne_nil_of_right_ne_nil _ (ending_ne_nil _ _))]
    exact fun d hd ↦ by simp [hend d hd]
  have htake := takeWhile_append_eq hkeep hstop
  have hdrop := dropWhile_append_eq hkeep hstop
  have htext : tag.spelling ++ rest = '<' :: (tag.name ++
      (tag.attributes.flatMap Attribute.spelling ++ ending tag.gap tag.selfClosing ++ rest)) := by
    simp [spelling]
  rw [hcons] at htake hdrop htext
  rw [htext, List.cons_append, parse?, if_pos halpha, ← List.cons_append, hdrop, htake,
    readBody?_append hbody, ← hcons]
  rfl

/-- A start tag is read exactly from its spelling. -/
theorem parse?_eq_some_iff {tag : StartTag} :
    parse? t = some (tag, rest) ↔ t = tag.spelling ++ rest ∧ tag.IsWritten :=
  ⟨fun h ↦ ⟨(spelling_append_of_parse? h).symm, isWritten_of_parse? h⟩,
    fun ⟨ht, h⟩ ↦ ht ▸ parse?_spelling_append h rest⟩

/-! ### The meaning of attributes -/

/-- Of several attributes with one name the first counts. -/
theorem entries_dict_eq (tag : StartTag) :
    tag.dict.entries = (tag.attributes.map fun a ↦ (lower a.name, a.valueText)).eraseDupsBy
      fun a b ↦ decide (a.1 = b.1) := by
  rw [← OrderedMap.entries_foldl_insertNew_empty, List.foldl_map]
  rfl

/-- Attributes with distinct names are the entries of the dictionary as they are written. -/
theorem entries_dict {tag : StartTag} (h : (tag.attributes.map fun a ↦ lower a.name).Nodup) :
    tag.dict.entries = tag.attributes.map fun a ↦ (lower a.name, a.valueText) := by
  rw [entries_dict_eq, OrderedMap.eraseDupsBy_of_nodup (by rwa [List.map_map])]

end StartTag

end ComponentFile.Markup
