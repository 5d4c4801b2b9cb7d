import ComponentFile.Proofs.Markup.EndTag
import ComponentFile.Proofs.Markup.Scanner.Access

/-!
# Scanning for the end of raw text

A scan looks for the end tag of an element in two steps: it goes from one `</` to the next, and at
each it compares bytes.  The bytes that are compared may begin or end inside a character.  When they
agree with a name, however, they are characters, so that behind them the scan stands at a boundary
again; otherwise it goes on behind the `</`.

## Main definitions

* `Scanner.endTagPlace` : the place of the end tag at which raw text was cut.

## Main results

* `Scanner.word_eq_iff` : bytes agree with a name exactly when a name stands there.
* `Scanner.exists_endTagRound_eq_ok` : a round goes forward and keeps the place that is looked for.
* `Scanner.findEndTag_eq` : the end tag that a scan finds.
-/

namespace ComponentFile.Markup.Scanner

open Text

variable {c : Char} {name q r s t : Text} {offset : Nat} {parts : Text × Text}

/-! ### Names in bytes -/

/-- What comes first in lower case is a part of the text in lower case. -/
theorem exists_append_of_lower_isPrefix (h : lower s <+: lower t) :
    ∃ u v, t = u ++ v ∧ lower u = lower s := by
  refine ⟨t.take s.length, t.drop s.length, (List.take_append_drop _ t).symm, ?_⟩
  have htake := List.prefix_iff_eq_take.mp h
  rw [htake, length_lower, lower, lower, List.map_take]

/-- The first bytes of a text agree with those of a name exactly when the name stands there, in
any case. -/
theorem word_eq_iff :
    ((encode q).take (byteLength name)).map lowerByte = (encode name).map lowerByte ↔
      ∃ w v, q = w ++ v ∧ lower w = lower name := by
  rw [List.map_take, map_lowerByte_encode, map_lowerByte_encode]
  constructor
  · intro h
    have hbytes : encode (lower name) <+: encode (lower q) := h ▸ List.take_prefix _ _
    exact exists_append_of_lower_isPrefix (isPrefix_of_encode_isPrefix hbytes)
  · rintro ⟨w, v, rfl, hw⟩
    rw [lower_append, encode_append, hw, ← byteLength_lower name, ← length_encode, List.take_left]

/-- Behind `</` and the name an end tag has to end its name. -/
theorem startsEndTag_append_eq {w v : Text} (hw : lower w = lower name) :
    startsEndTag name ('<' :: '/' :: (w ++ v)) = v.head?.all isNameEnd := by
  rw [Bool.eq_iff_iff, startsEndTag_iff, all_head?_isNameEnd_iff]
  constructor
  · rintro ⟨n, r, heq, hn, hr⟩
    have hlen : w.length = n.length := by
      simpa using congrArg List.length (hw.trans hn.symm)
    obtain ⟨-, rfl⟩ := List.append_inj (by simpa using heq) hlen
    exact hr
  · intro hv
    exact ⟨w, v, rfl, hw, hv⟩

/-- A name is found at an offset exactly when an end tag begins with it there. -/
theorem hasNameAt_eq (h : IsAt t offset q) (name : Text) :
    hasNameAt t name offset = .ok (startsEndTag name ('<' :: '/' :: q)) := by
  have hlen := h.add_byteLength
  rw [hasNameAt]
  by_cases hword : ∃ w v, q = w ++ v ∧ lower w = lower name
  · obtain ⟨w, v, rfl, hw⟩ := hword
    have hsize := byteLength_eq_of_lower_eq hw
    have hstop := hsize ▸ h.append
    rw [if_pos (by rw [← hstop.add_byteLength]; omega),
      bytesBetween_eq h (by rw [byteLength_append]; omega), ok_bind,
      beq_iff_eq.mpr (word_eq_iff.mpr ⟨w, v, rfl, hw⟩), Bool.true_and,
      all_byteAt? hstop isByteClass_isNameEndByte, startsEndTag_append_eq hw]
    rfl
  · have hstart : startsEndTag name ('<' :: '/' :: q) = false := by
      rw [Bool.eq_false_iff]
      intro hstart
      obtain ⟨n, u, heq, hn, -⟩ := startsEndTag_iff.mp hstart
      exact hword ⟨n, u, by simpa using heq, hn⟩
    rw [hstart]
    split
    · rw [bytesBetween_eq h (by omega), ok_bind,
        beq_eq_false_iff_ne.mpr (mt word_eq_iff.mp hword), Bool.false_and]
      rfl
    · rfl

/-! ### From one `</` to the next -/

theorem isPrefix_of_startsEndTag (h : startsEndTag name r = true) : ['<', '/'] <+: r := by
  obtain ⟨n, u, rfl, -⟩ := startsEndTag_iff.mp h
  exact ⟨n ++ u, rfl⟩

/-- The place of the end tag at which raw text was cut. -/
def endTagPlace (t : Text) (raw : RawText) : Span :=
  ⟨startOf t (raw.endTag ++ raw.rest), startOf t raw.rest⟩

theorem map_endTagPlace_split?_cons (hc : startsEndTag name (c :: r) = false) :
    (RawText.split? name (c :: r)).map (endTagPlace t) =
      (RawText.split? name r).map (endTagPlace t) := by
  rw [RawText.split?, if_neg (by rw [hc]; exact Bool.false_ne_true), Option.map_map]
  rfl

theorem map_endTagPlace_split?_append {n u : Text} (hn : lower n = lower name)
    (hstart : startsEndTag name ('<' :: '/' :: (n ++ u)) = true) :
    (RawText.split? name ('<' :: '/' :: (n ++ u))).map (endTagPlace t) =
      some ⟨startOf t ('<' :: '/' :: (n ++ u)), startOf t (through '>' u).2⟩ := by
  rw [RawText.split?, if_pos hstart, splitEndTag_append_eq hn]
  simp [endTagPlace]

/-- No end tag begins in front of the next `</`. -/
theorem map_endTagPlace_split?_of_cut? (h : cut? ['<', '/'] r = some parts) :
    (RawText.split? name r).map (endTagPlace t) =
      (RawText.split? name ('<' :: '/' :: parts.2)).map (endTagPlace t) := by
  induction r generalizing parts with
  | nil => cases h
  | cons c r ih =>
    by_cases hkey : ['<', '/'] <+: c :: r
    · obtain ⟨q, hq⟩ := hkey
      rw [← hq, cut?_append_self] at h
      cases h
      rw [← hq]
      rfl
    · rw [cut?_cons_of_not_prefix_cons hkey] at h
      obtain ⟨inner, hinner, rfl⟩ := Option.map_eq_some_iff.mp h
      have hstart : startsEndTag name (c :: r) = false := by
        rw [Bool.eq_false_iff]
        exact fun hstart ↦ hkey (isPrefix_of_startsEndTag hstart)
      rw [map_endTagPlace_split?_cons hstart, ih hinner]

/-- Without a `</` there is no end tag. -/
theorem split?_eq_none_of_cut? (h : cut? ['<', '/'] r = none) : RawText.split? name r = none := by
  rw [RawText.split?_eq_none_iff]
  rintro p s rfl -
  rw [Bool.eq_false_iff]
  intro hstart
  have hin : ['<', '/'] <:+: p ++ s :=
    (isPrefix_of_startsEndTag hstart).isInfix.trans (List.suffix_append p s).isInfix
  rw [← cut?_isSome_iff, h] at hin
  cases hin

/-! ### Rounds of the search -/

/-- A round goes forward and keeps the place that is looked for, or finds it. -/
theorem exists_endTagRound_eq_ok (h : IsAt t offset r) (name : Text) :
    ∃ outcome, endTagRound t name offset () = .ok outcome ∧ outcome.Keeps t (offset ≤ ·)
      (fun next _ ↦ ∃ s, IsAt t next s ∧ (RawText.split? name s).map (endTagPlace t) =
        (RawText.split? name r).map (endTagPlace t))
      fun result ↦ result = (RawText.split? name r).map (endTagPlace t) := by
  rw [endTagRound, cutFrom_eq h, ok_bind, offsetOf?]
  cases hcut : cut? ['<', '/'] r with
  | none =>
    rw [split?_eq_none_of_cut? hcut]
    exact ⟨_, rfl, rfl⟩
  | some parts =>
    obtain ⟨before, q⟩ := parts
    have hr := eq_append_of_cut? hcut
    dsimp only at hr
    rw [hr, List.append_assoc] at h
    have hstart := h.append
    have hname : IsAt t (offset + byteLength before + 2) q :=
      (hstart.of_cons (by decide)).of_cons (by decide)
    rw [map_endTagPlace_split?_of_cut? hcut]
    simp only [Option.map_some, hasNameAt_eq hname, ok_bind]
    cases hend : startsEndTag name ('<' :: '/' :: q) with
    | true =>
      obtain ⟨n, u, heq, hn, -⟩ := startsEndTag_iff.mp hend
      obtain rfl : q = n ++ u := by simpa using heq
      have hstop := byteLength_eq_of_lower_eq hn ▸ hname.append
      rw [map_endTagPlace_split?_append hn hend, if_pos rfl, skipPast_eq hstop, ok_bind]
      exact ⟨_, rfl, by rw [hstart.eq_startOf]; rfl⟩
    | false =>
      refine ⟨_, rfl, Nat.le_add_right _ _, by omega, hname.isBoundary, q, hname, ?_⟩
      rw [map_endTagPlace_split?_cons hend,
        map_endTagPlace_split?_cons (startsEndTag_cons_of_ne (by decide))]

/-- The end tag that closes raw text is found behind an offset. -/
theorem findEndTag_eq (h : IsAt t offset r) (name : Text) :
    findEndTag t offset name = .ok ((RawText.split? name r).map (endTagPlace t)) :=
  repeatRounds_eq (fun _ r ↦ (RawText.split? name r).map (endTagPlace t))
    (fun _ _ _ hs ↦ exists_endTagRound_eq_ok hs name) h ()

end ComponentFile.Markup.Scanner
