import ComponentFile.Proofs.Markup.Scanner.Access
import ComponentFile.Proofs.Markup.StartTag

/-!
# Scanning a start tag

The scan of a start tag reads the same parts as the reader of characters, with one difference: a
gap between two attributes is passed over slash by slash, in several rounds.  Since a gap leaves no
trace in the meaning of a tag, each round keeps the meaning of what remains, and the tag that a scan
finds is the one that is read.

## Main definitions

* `Scanner.insideFrom` : the meaning of the inside of a start tag.

## Main results

* `Scanner.readAttribute_eq` : the attribute that a scan finds.
* `Scanner.exists_attributeRound_eq_ok` : a round goes forward and keeps the meaning of the tag.
* `Scanner.scanStartTag_eq` : the start tag that a scan finds.
-/

namespace ComponentFile.Markup.Scanner

open Text

variable {c : Char} {d : Dict Text} {gap r s t u : Text} {offset : Nat}

/-! ### Attributes -/

/-- A quotation mark is found as a byte. -/
theorem isByteClass_quote :
    IsByteClass (fun b ↦ b == '"'.toUInt8 || b == '\''.toUInt8) fun c ↦
      (Quote.ofChar? c).isSome := by
  intro c b hb
  have hclass := ((isByteClass_beq (c := '"') (by decide)).or
    (isByteClass_beq (c := '\'') (by decide))) c b hb
  refine hclass.trans ?_
  unfold Quote.ofChar?
  by_cases hd : c = '"'
  · simp [hd]
  · by_cases hs : c = '\'' <;> simp [hd, hs]

theorem toNat_mark_lt (q : Quote) : q.mark.toNat < 128 := by
  cases q <;> decide

theorem ofUInt8_mark (q : Quote) : Char.ofUInt8 q.mark.toUInt8 = q.mark := by
  cases q <;> decide

/-- The text up to a quotation mark is found at its offset. -/
theorem readQuoted_eq (h : IsAt t offset r) (q : Quote) :
    readQuoted t offset q.mark =
      .ok ((cut? [q.mark] r).map fun parts ↦ (parts.1, startOf t parts.2)) := by
  rw [readQuoted, cutFrom_eq h, ok_bind, offsetOf?]
  cases hcut : cut? [q.mark] r with
  | none => rfl
  | some parts =>
    have hr := eq_append_of_cut? hcut
    rw [hr, List.append_assoc] at h
    have hbehind := h.append.of_cons (toNat_mark_lt q)
    simp [Nat.add_comm (byteLength parts.1), cut_eq h, hbehind.eq_startOf]

/-- The value that is read at an offset is found there. -/
theorem readValue_eq (h : IsAt t offset r) :
    readValue t offset =
      .ok ((Value.read? r).map fun found ↦ (found.1.text, startOf t found.2)) := by
  cases r with
  | nil => rw [readValue, byteAt?_eq_none h]; rfl
  | cons c u =>
    obtain ⟨b, hb, hbyte⟩ := exists_byteAt?_eq h
    have hquote := isByteClass_quote c b hb
    rw [readValue, hbyte]
    dsimp only at hquote ⊢
    rw [hquote]
    cases hq : Quote.ofChar? c with
    | some q =>
      obtain rfl := Quote.mark_of_ofChar? hq
      rw [utf8EncodeChar_of_lt (toNat_mark_lt q), List.mem_singleton] at hb
      have hinside := h.of_cons (toNat_mark_lt q)
      rw [Option.isSome_some, if_pos rfl, hb, ofUInt8_mark, readQuoted_eq hinside, Value.read?, hq]
      simp only [Option.map_map]
      rfl
    | none =>
      have hclass : IsByteClass (fun b ↦ !isSpaceByte b && b != '>'.toUInt8) Value.isBareChar :=
        isByteClass_isSpaceByte.not.and (isByteClass_beq (by decide)).not
      have hskip := skipWhile_eq h hclass
      rw [Option.isSome_none, if_neg Bool.false_ne_true, hskip, ok_bind, Value.read?, hq,
        cut_startOf (h.takeWhile_append_dropWhile Value.isBareChar)]
      rfl

/-- The assignment that is read at an offset is found there. -/
theorem readAssignment_eq (h : IsAt t offset r) :
    readAssignment t offset =
      .ok ((Assignment.read? r).map fun found ↦
        (found.1.elim [] fun a ↦ a.value.text, startOf t found.2)) := by
  have hspace := (h.takeWhile_append_dropWhile isSpace).startOf_append
  rw [readAssignment, skipWhile_eq h isByteClass_isSpaceByte, ok_bind,
    if_congr (byteAt?_eq_some_iff hspace (by decide)) rfl rfl]
  cases hu : r.dropWhile isSpace with
  | nil => simp [Assignment.read?, hu, h.eq_startOf]
  | cons c u =>
    rw [hu] at hspace
    by_cases hc : c = '='
    · subst hc
      have hvalue := hspace.of_cons (by decide)
      have hbehind := (hvalue.takeWhile_append_dropWhile isSpace).startOf_append
      rw [List.head?_cons, if_pos rfl, skipWhile_eq hvalue isByteClass_isSpaceByte, ok_bind,
        readValue_eq hbehind, Assignment.read?, hu]
      simp only [Option.map_map]
      rfl
    · simp [Assignment.read?, hu, hc, h.eq_startOf]

/-- The name of an attribute ends where its characters end, or behind the one that cannot belong to
a name. -/
theorem nameStop_eq (h : IsAt t offset r) (hr : ∃ c ∈ r.head?, isNameEnd c = false) :
    (if startOf t (r.dropWhile Attribute.isNameChar) = offset then
        startOf t (r.dropWhile Attribute.isNameChar) + 1
      else startOf t (r.dropWhile Attribute.isNameChar)) =
      startOf t (Attribute.splitName r).2 := by
  obtain ⟨c, hc, hend⟩ := hr
  obtain ⟨u, rfl⟩ := List.head?_eq_some_iff.mp hc
  by_cases hchar : Attribute.isNameChar c = true
  · have htake : (c :: u).takeWhile Attribute.isNameChar ≠ [] := by simp [hchar]
    have hlt := (h.takeWhile_append_dropWhile Attribute.isNameChar).lt_startOf htake
    rw [Attribute.splitName_of_takeWhile_ne_nil htake, if_neg hlt.ne']
  · obtain rfl : c = '=' := by simpa [Attribute.isNameChar, hend] using hchar
    have hdrop : ('=' :: u).dropWhile Attribute.isNameChar = '=' :: u := by
      rw [List.dropWhile_cons_of_neg hchar]
    have hsplit : (Attribute.splitName ('=' :: u)).2 = u := by
      simp [Attribute.splitName, Attribute.isNameChar]
    rw [hdrop, hsplit, ← h.eq_startOf, if_pos rfl, (h.of_cons (by decide)).eq_startOf]

/-- The attribute that is read at an offset is found there. -/
theorem readAttribute_eq (h : IsAt t offset r) (hr : ∃ c ∈ r.head?, isNameEnd c = false)
    (gap : Text) :
    readAttribute t offset =
      .ok ((Attribute.read? gap r).map fun found ↦
        ((lower found.1.name, found.1.valueText), startOf t found.2)) := by
  have hclass : IsByteClass (fun b ↦ !isNameEndByte b && b != '='.toUInt8) Attribute.isNameChar :=
    isByteClass_isNameEndByte.not.and (isByteClass_beq (by decide)).not
  have hsplit : IsAt t offset ((Attribute.splitName r).1 ++ (Attribute.splitName r).2) := by
    rwa [Attribute.splitName_append]
  rw [readAttribute, skipWhile_eq h hclass, ok_bind]
  dsimp only
  rw [nameStop_eq h hr, cut_startOf hsplit, ok_bind, readAssignment_eq hsplit.startOf_append,
    ok_bind, Attribute.read?]
  simp only [Option.map_map]
  rfl

/-- An attribute takes a part of the text. -/
theorem isAt_of_read? {a : Attribute} (h : IsAt t offset (c :: u))
    (hread : Attribute.read? [] (c :: u) = some (a, r)) :
    IsAt t (startOf t r) r ∧ offset < startOf t r := by
  have happ := Attribute.spelling_append_of_read? hread
  have hlt := Attribute.length_lt_of_read? hread (List.cons_ne_nil c u)
  rw [List.nil_append] at happ
  have hne : a.spelling ≠ [] := by
    intro hnil
    rw [← happ, hnil, List.nil_append] at hlt
    exact lt_irrefl _ hlt
  rw [← happ] at h
  exact ⟨h.startOf_append, h.lt_startOf hne⟩

/-! ### The inside of a tag -/

/-- The meaning of the inside of a start tag of `t` behind the attributes `d`: all attributes, the
offset behind the tag, and whether it closes itself. -/
def insideFrom (t : Text) (d : Dict Text) (r : Text) : Option (Dict Text × Nat × Bool) :=
  (StartTag.readBody? r).map fun found ↦
    (found.1.1.foldl (fun d a ↦ d.insertNew (lower a.name) a.valueText) d, startOf t found.2,
      found.1.2.2)

theorem insideFrom_of_nil (h : splitGap r = (gap, [])) : insideFrom t d r = none := by
  rw [insideFrom, StartTag.readBody?_of_nil h]
  rfl

theorem insideFrom_of_ending {selfClosing : Bool}
    (h : splitGap r = (gap, StartTag.ending [] selfClosing ++ s)) :
    insideFrom t d r = some (d, startOf t s, selfClosing) := by
  rw [insideFrom, StartTag.readBody?_of_ending h]
  rfl

theorem insideFrom_of_attribute (h : splitGap r = (gap, c :: u)) (hc : isNameEnd c = false) :
    insideFrom t d r = (Attribute.read? [] (c :: u)).bind fun found ↦
      insideFrom t (d.insertNew (lower found.1.name) found.1.valueText) found.2 := by
  -- the gap is written down in the attribute, and nowhere else
  have hgap : Attribute.read? gap (c :: u) = (Attribute.read? [] (c :: u)).map fun found ↦
      ({ found.1 with gap := gap }, found.2) := by
    simp only [Attribute.read?, Option.map_map]
    rfl
  cases hread : Attribute.read? [] (c :: u) with
  | none =>
    rw [hread, Option.map_none] at hgap
    rw [insideFrom, StartTag.readBody?_of_read?_eq_none h hc hgap]
    rfl
  | some found =>
    rw [hread, Option.map_some] at hgap
    rw [insideFrom, StartTag.readBody?_of_attribute h hc hgap, Option.bind_some, insideFrom]
    simp only [Option.map_map]
    rfl

/-- A gap leaves no trace in the meaning of a tag. -/
theorem insideFrom_congr (h : (splitGap r).2 = (splitGap s).2) :
    insideFrom t d r = insideFrom t d s := by
  obtain ⟨-, hends⟩ := isGap_splitGap s
  have hr : splitGap r = ((splitGap r).1, (splitGap s).2) := by rw [← h]
  have hs : splitGap s = ((splitGap s).1, (splitGap s).2) := rfl
  obtain hnil | ⟨selfClosing, u, hending⟩ | ⟨c, u, hcons, hc⟩ := endsGap_cases hends
  · rw [hnil] at hr hs
    rw [insideFrom_of_nil hr, insideFrom_of_nil hs]
  · rw [hending] at hr hs
    rw [insideFrom_of_ending hr, insideFrom_of_ending hs]
  · rw [hcons] at hr hs
    rw [insideFrom_of_attribute hr hc, insideFrom_of_attribute hs hc]

/-- White space, and a slash that does not stand before `>`, belong to a gap. -/
theorem insideFrom_cons (h : isSpace c = true ∨ (c = '/' ∧ u.head? ≠ some '>')) :
    insideFrom t d (c :: u) = insideFrom t d u := by
  refine insideFrom_congr ?_
  have hcond : (isSpace c || (c == '/' && u.head? != some '>')) = true := by simpa using h
  rw [splitGap, if_pos hcond]

theorem insideFrom_dropWhile (t : Text) (d : Dict Text) (r : Text) :
    insideFrom t d (r.dropWhile isSpace) = insideFrom t d r := by
  induction r with
  | nil => rfl
  | cons c u ih =>
    cases hc : isSpace c with
    | true => rw [List.dropWhile_cons_of_pos hc, ih, insideFrom_cons (.inl hc)]
    | false => rw [List.dropWhile_cons_of_neg (by simp [hc])]

/-! ### Rounds over the inside of a tag -/

/-- A round goes forward and keeps the meaning of the tag, or finds its end. -/
theorem exists_attributeRound_eq_ok (h : IsAt t offset r) (d : Dict Text) :
    ∃ outcome, attributeRound t offset d = .ok outcome ∧ outcome.Keeps t (offset ≤ ·)
      (fun next d' ↦ ∃ s, IsAt t next s ∧ insideFrom t d' s = insideFrom t d r)
      (· = insideFrom t d r) := by
  have hstart := (h.takeWhile_append_dropWhile isSpace).startOf_append
  have hle := (h.takeWhile_append_dropWhile isSpace).le_startOf
  have hspace := head?_dropWhile_eq_false isSpace r
  rw [attributeRound, skipWhile_eq h isByteClass_isSpaceByte, ok_bind, ← insideFrom_dropWhile t d r]
  generalize startOf t (r.dropWhile isSpace) = start at hstart hle ⊢
  generalize r.dropWhile isSpace = r at hstart hspace ⊢
  cases r with
  | nil =>
    rw [byteAt?_eq_none hstart, insideFrom_of_nil (r := []) rfl]
    exact ⟨_, rfl, rfl⟩
  | cons c u =>
    obtain ⟨b, hb, hbyte⟩ := exists_byteAt?_eq hstart
    simp only [hbyte, eq_toUInt8_iff hb (show '>'.toNat < 128 by decide),
      eq_toUInt8_iff hb (show '/'.toNat < 128 by decide)]
    by_cases hgt : c = '>'
    · subst hgt
      have hbehind := hstart.of_cons (by decide)
      have hgap : splitGap ('>' :: u) = ([], StartTag.ending [] false ++ u) := rfl
      rw [if_pos rfl, insideFrom_of_ending hgap]
      exact ⟨_, rfl, by simp [Round.Keeps, hbehind.eq_startOf]⟩
    · rw [if_neg hgt]
      by_cases hslash : c = '/'
      · subst hslash
        have hbehind := hstart.of_cons (by decide)
        rw [if_pos rfl, if_congr (byteAt?_eq_some_iff hbehind (by decide)) rfl rfl]
        by_cases hhead : u.head? = some '>'
        · obtain ⟨v, rfl⟩ := List.head?_eq_some_iff.mp hhead
          have hend := hbehind.of_cons (by decide)
          have hgap : splitGap ('/' :: '>' :: v) = ([], StartTag.ending [] true ++ v) := rfl
          rw [if_pos hhead, insideFrom_of_ending hgap]
          exact ⟨_, rfl, by simp [Round.Keeps, ← hend.eq_startOf]⟩
        · rw [if_neg hhead]
          exact ⟨_, rfl, hle, Nat.lt_succ_self _, hbehind.isBoundary, u, hbehind,
            (insideFrom_cons (.inr ⟨rfl, hhead⟩)).symm⟩
      · have hc : isNameEnd c = false := by simp [isNameEnd, hspace c rfl, hslash, hgt]
        have hgap : splitGap (c :: u) = ([], c :: u) :=
          splitGap_of_endsGap ⟨hspace c rfl, fun e ↦ absurd e hslash⟩
        have hinside := insideFrom_of_attribute (t := t) (d := d) hgap hc
        rw [if_neg hslash, readAttribute_eq hstart ⟨c, rfl, hc⟩ [], ok_bind, hinside]
        cases hread : Attribute.read? [] (c :: u) with
        | none => exact ⟨_, rfl, rfl⟩
        | some found =>
          obtain ⟨hbehind, hnext⟩ := isAt_of_read? hstart hread
          exact ⟨_, rfl, hle, hnext, hbehind.isBoundary, found.2, hbehind, rfl⟩

/-- The start tag that is read at an offset is found there. -/
theorem scanStartTag_eq (h : IsAt t offset ('<' :: c :: u)) (hc : c.isAlpha = true) :
    scanStartTag t offset =
      .ok ((StartTag.parse? ('<' :: c :: u)).map fun found ↦
        ⟨found.1.lowerName, found.1.dict, startOf t found.2, found.1.selfClosing⟩) := by
  have hname := h.of_cons (by decide)
  have hinside : IsAt t
      (offset + 1 + byteLength (lower ((c :: u).takeWhile fun c ↦ !isNameEnd c)))
      ((c :: u).dropWhile fun c ↦ !isNameEnd c) := by
    rw [byteLength_lower]
    exact (hname.takeWhile_append_dropWhile _).append
  have hloop := repeatRounds_eq (insideFrom t) (fun _ d _ hs ↦ exists_attributeRound_eq_ok hs d)
    hinside ∅
  rw [scanStartTag, readName_eq hname, ok_bind, hloop, ok_bind, StartTag.parse?, if_pos hc]
  simp only [insideFrom, Option.map_map]
  rfl

end ComponentFile.Markup.Scanner
