import ComponentFile.Proofs.Language.Scan

/-!
# The pattern of a scoped style

A scan finds a scoped style where a line shows `<`, `style`, `scoped` and `>` one after another,
with at least one character between `style` and `scoped`.  It looks for each of the four at its
first place behind the one before.  That leaves more text behind it than any other place, so nothing
is missed by going to an earlier `<`, `style` or `scoped`.

## Main definitions

* `OccursAt` : a key stands at a place of a text.
* `scopedMatch` : the texts that the pattern accepts from end to end.

## Main results

* `lineScoped_iff`, `scansScoped_iff` : the scan finds exactly what the pattern accepts.
* `detect_document_isScoped_iff` : the same in places of the text.
-/

namespace ComponentFile

open Text

variable {a b c d m n : Nat} {f g h key l p q r t : Text}

/-! ### Places -/

/-- The key stands at the place `n` of the text. -/
def OccursAt (key : Text) (n : Nat) (t : Text) : Prop :=
  key <+: t.drop n

instance (key : Text) (n : Nat) (t : Text) : Decidable (OccursAt key n t) :=
  inferInstanceAs (Decidable (key <+: t.drop n))

theorem occursAt_of_eq_append (ht : t = p ++ key ++ q) (hn : p.length = n) : OccursAt key n t := by
  rw [OccursAt, ht, List.append_assoc, List.drop_left' hn]
  exact List.prefix_append key q

theorem OccursAt.getElem?_eq {x : Char} (hx : OccursAt [x] n t) : t[n]? = some x := by
  obtain ⟨q, hq⟩ := hx
  rw [← List.head?_drop, ← hq]
  rfl

theorem OccursAt.lt_length (hkey : OccursAt key n t) (hne : key ≠ []) : n < t.length := by
  by_contra hlong
  rw [OccursAt, List.drop_eq_nil_of_le (by omega), List.prefix_nil] at hkey
  exact hne hkey

/-- From one place on stand what is in front of a key, the key, and what is behind it. -/
theorem OccursAt.exists_drop_eq (hkey : OccursAt key n t) (hne : key ≠ []) (hmn : m ≤ n) :
    ∃ gap, gap.length = n - m ∧ t.drop m = gap ++ key ++ t.drop (n + key.length) := by
  have hlength := hkey.lt_length hne
  obtain ⟨q, hq⟩ := hkey
  have hrest : t.drop (n + key.length) = q := by
    rw [← List.drop_drop, ← hq, List.drop_left]
  have hfirst : (t.drop m).drop (n - m) = key ++ q := by
    rw [List.drop_drop, Nat.add_sub_cancel' hmn, hq]
  refine ⟨(t.drop m).take (n - m), by simp; omega, ?_⟩
  rw [hrest, List.append_assoc, ← hfirst, List.take_append_drop]

/-! ### The pattern -/

/-- A text that the pattern of a scoped style accepts from end to end, by what stands in its three
gaps. -/
def scopedMatch (f g h : Text) : Text :=
  '<' :: f ++ "style".toList ++ g ++ "scoped".toList ++ h ++ ['>']

/-- A key that occurs in a text is found, with at least the text behind it that follows there. -/
theorem exists_after?_of_infix (h : p ++ key ++ q <:+: t) :
    ∃ r, after? key t = some r ∧ q <:+: r := by
  obtain ⟨r, hr, hq⟩ := exists_after?_append p key q
  obtain ⟨r', hr', hin⟩ := exists_after?_mono h hr
  exact ⟨r', hr', hq.isInfix.trans hin⟩

/-- The search finds a match of the pattern. -/
theorem lineScoped_scopedMatch (hg : g ≠ []) : lineScoped (scopedMatch f g h) = true := by
  obtain ⟨x, g', rfl⟩ := List.exists_cons_of_ne_nil hg
  have hmatch : [] ++ ['<'] ++
      (f ++ "style".toList ++ (x :: (g' ++ "scoped".toList ++ (h ++ ['>'] ++ [])))) <:+:
        scopedMatch f (x :: g') h := by
    simp [scopedMatch]
  obtain ⟨r₁, h₁, hin⟩ := exists_after?_of_infix hmatch
  obtain ⟨r₂, h₂, hin⟩ := exists_after?_of_infix hin
  obtain ⟨r₃, h₃, hin⟩ := exists_after?_of_infix (infix_drop_one hin)
  obtain ⟨r₄, h₄, -⟩ := exists_after?_of_infix hin
  simp only [lineScoped, Option.isSome_iff_exists, bind, Option.bind_eq_some_iff]
  exact ⟨r₄, r₁, h₁, r₂, h₂, r₃, h₃, h₄⟩

/-- What the search finds is a match of the pattern. -/
theorem exists_infix_scopedMatch (hl : lineScoped l = true) :
    ∃ f g h, g ≠ [] ∧ scopedMatch f g h <:+: l := by
  simp only [lineScoped, Option.isSome_iff_exists, bind, Option.bind_eq_some_iff] at hl
  obtain ⟨r, r₁, h₁, r₂, h₂, r₃, h₃, h₄⟩ := hl
  obtain ⟨p, rfl⟩ := exists_eq_append_of_after? h₁
  obtain ⟨f, rfl⟩ := exists_eq_append_of_after? h₂
  obtain ⟨g, hg⟩ := exists_eq_append_of_after? h₃
  obtain ⟨h, rfl⟩ := exists_eq_append_of_after? h₄
  cases r₂ with
  | nil => simp at hg
  | cons x r₂ =>
    rw [List.drop_one, List.tail_cons] at hg
    subst hg
    exact ⟨f, x :: g, h, List.cons_ne_nil x g, p, r, by simp [scopedMatch]⟩

/-- A line declares a scoped style exactly when it holds a match of the pattern. -/
theorem lineScoped_iff :
    lineScoped l = true ↔ ∃ f g h, g ≠ [] ∧ scopedMatch f g h <:+: l := by
  refine ⟨exists_infix_scopedMatch, ?_⟩
  rintro ⟨f, g, h, hg, hin⟩
  exact isMonotone_lineScoped hin (lineScoped_scopedMatch hg)

/-- A text declares a scoped style exactly when it holds a match of the pattern without a line
feed. -/
theorem scansScoped_iff :
    scansScoped t = true ↔
      ∃ f g h, g ≠ [] ∧ '\n' ∉ scopedMatch f g h ∧ scopedMatch f g h <:+: t := by
  constructor
  · intro ht
    obtain ⟨l, hl, hscoped⟩ := List.any_eq_true.mp ht
    obtain ⟨f, g, h, hg, hin⟩ := lineScoped_iff.mp hscoped
    exact ⟨f, g, h, hg, fun hmem ↦ notMem_of_mem_lines hl (hin.subset hmem),
      hin.trans (infix_of_mem_lines hl)⟩
  · rintro ⟨f, g, h, hg, hline, hin⟩
    obtain ⟨l, hl, hin⟩ := exists_infix_line hline hin
    exact List.any_eq_true.mpr ⟨l, hl, lineScoped_iff.mpr ⟨f, g, h, hg, hin⟩⟩

/-! ### The pattern in places of the text -/

theorem length_scopedMatch (f g h : Text) :
    (scopedMatch f g h).length = f.length + g.length + h.length + 13 := by
  simp [scopedMatch]
  omega

/-- What stands from the first of the four parts to the last is a match of the pattern. -/
theorem exists_eq_append_scopedMatch (ha : OccursAt ['<'] a t) (hb : OccursAt "style".toList b t)
    (hc : OccursAt "scoped".toList c t) (hd : OccursAt ['>'] d t) (hab : a + 1 ≤ b)
    (hbc : b + 6 ≤ c) (hcd : c + 6 ≤ d) :
    ∃ p f g h, t = p ++ scopedMatch f g h ++ t.drop (d + 1) ∧ p.length = a ∧ g ≠ [] := by
  obtain ⟨p, hp, h₁⟩ := ha.exists_drop_eq (List.cons_ne_nil '<' []) (Nat.zero_le a)
  obtain ⟨f, -, h₂⟩ := hb.exists_drop_eq (by decide) hab
  obtain ⟨g, hg, h₃⟩ := hc.exists_drop_eq (by decide) (by omega : b + 5 ≤ c)
  obtain ⟨h, -, h₄⟩ := hd.exists_drop_eq (List.cons_ne_nil '>' []) hcd
  refine ⟨p, f, g, h, ?_, hp, fun hnil ↦ ?_⟩
  · calc t = p ++ ['<'] ++ t.drop (a + 1) := h₁
      _ = p ++ ['<'] ++ (f ++ "style".toList ++ t.drop (b + 5)) := congrArg _ h₂
      _ = p ++ ['<'] ++ (f ++ "style".toList ++ (g ++ "scoped".toList ++ t.drop (c + 6))) := by
          rw [h₃]; rfl
      _ = p ++ scopedMatch f g h ++ t.drop (d + 1) := by
          rw [h₄]; simp [scopedMatch]
  · rw [hnil, List.length_nil] at hg
    omega

/-- A part of a text holds a character if the text does at one of its places. -/
theorem mem_iff_exists_getElem? {x : Char} (p u q : Text) :
    x ∈ u ↔ ∃ i, p.length ≤ i ∧ i < p.length + u.length ∧ (p ++ u ++ q)[i]? = some x := by
  rw [List.mem_iff_getElem?]
  constructor
  · rintro ⟨i, hi⟩
    have hlt : i < u.length := (List.getElem?_eq_some_iff.mp hi).1
    refine ⟨p.length + i, by omega, by omega, ?_⟩
    rw [List.append_assoc, List.getElem?_append_right (by omega), Nat.add_sub_cancel_left,
      List.getElem?_append_left hlt, hi]
  · rintro ⟨i, hle, hlt, hi⟩
    refine ⟨i - p.length, ?_⟩
    rwa [List.append_assoc, List.getElem?_append_right hle,
      List.getElem?_append_left (by omega)] at hi

/-- The four parts of a match stand at their places in the text. -/
theorem occursAt_of_eq_append_scopedMatch (ht : t = p ++ scopedMatch f g h ++ q) :
    OccursAt ['<'] p.length t ∧ OccursAt "style".toList (p.length + 1 + f.length) t ∧
      OccursAt "scoped".toList (p.length + 6 + f.length + g.length) t ∧
      OccursAt ['>'] (p.length + 12 + f.length + g.length + h.length) t := by
  have hfirst : t = p ++ ['<'] ++
      (f ++ "style".toList ++ g ++ "scoped".toList ++ h ++ ['>'] ++ q) := by
    simp [ht, scopedMatch]
  have hstyle : t = (p ++ '<' :: f) ++ "style".toList ++
      (g ++ "scoped".toList ++ h ++ ['>'] ++ q) := by
    simp [ht, scopedMatch]
  have hscoped : t = (p ++ '<' :: f ++ "style".toList ++ g) ++ "scoped".toList ++
      (h ++ ['>'] ++ q) := by
    simp [ht, scopedMatch]
  have hlast : t = (p ++ '<' :: f ++ "style".toList ++ g ++ "scoped".toList ++ h) ++ ['>'] ++
      q := by
    simp [ht, scopedMatch]
  refine ⟨occursAt_of_eq_append hfirst rfl, occursAt_of_eq_append hstyle ?_,
    occursAt_of_eq_append hscoped ?_, occursAt_of_eq_append hlast ?_⟩
  all_goals
    simp
    omega

/-- A line feed in a match stands between its ends. -/
theorem exists_newline_between (ht : t = p ++ scopedMatch f g h ++ t.drop (d + 1))
    (ha : OccursAt ['<'] p.length t) (hd : OccursAt ['>'] d t) (hmem : '\n' ∈ scopedMatch f g h) :
    ∃ i, p.length < i ∧ i < d ∧ t[i]? = some '\n' := by
  obtain ⟨i, hle, hlt, hi⟩ := (mem_iff_exists_getElem? p _ (t.drop (d + 1))).mp hmem
  have hlength : d < t.length := hd.lt_length (List.cons_ne_nil '>' [])
  have hmatch := congrArg List.length ht
  simp only [List.length_append, List.length_drop] at hmatch
  rw [← ht] at hi
  -- at the two ends of the match stand other characters
  have hfirst : i ≠ p.length := by
    rintro rfl
    rw [ha.getElem?_eq] at hi
    exact absurd hi (by decide)
  have hlast : i ≠ d := by
    rintro rfl
    rw [hd.getElem?_eq] at hi
    exact absurd hi (by decide)
  exact ⟨i, by omega, by omega, hi⟩

/-- A scan finds a scoped style exactly when the four parts of the pattern stand at places of the
text one behind another, with no line feed between the first and the last and with at least one
character between `style` and `scoped`. -/
theorem detect_document_isScoped_iff (t : Text) :
    (Languages.detect t .document).isScoped = true ↔
      ∃ a b c d, OccursAt ['<'] a t ∧ OccursAt "style".toList b t ∧
        OccursAt "scoped".toList c t ∧ OccursAt ['>'] d t ∧
        a + 1 ≤ b ∧ b + 6 ≤ c ∧ c + 6 ≤ d ∧
        ∀ i, a < i → i < d → t[i]? ≠ some '\n' := by
  change scansScoped t = true ↔ _
  rw [scansScoped_iff]
  constructor
  · rintro ⟨f, g, h, hg, hline, p, q, ht⟩
    obtain ⟨ha, hb, hc, hd⟩ := occursAt_of_eq_append_scopedMatch ht.symm
    have hpos : 0 < g.length := List.length_pos_iff.mpr hg
    refine ⟨_, _, _, _, ha, hb, hc, hd, by omega, by omega, by omega, ?_⟩
    intro i hi hi' hfeed
    apply hline
    rw [mem_iff_exists_getElem? p _ q, length_scopedMatch, ht]
    exact ⟨i, by omega, by omega, hfeed⟩
  · rintro ⟨a, b, c, d, ha, hb, hc, hd, hab, hbc, hcd, hline⟩
    obtain ⟨p, f, g, h, ht, rfl, hg⟩ := exists_eq_append_scopedMatch ha hb hc hd hab hbc hcd
    refine ⟨f, g, h, hg, ?_, p, t.drop (d + 1), ht.symm⟩
    intro hmem
    obtain ⟨i, hi, hi', hfeed⟩ := exists_newline_between ht ha hd hmem
    exact hline i hi hi' hfeed

-- the two words may not touch, and what comes first need not be the start of a tag
example : scansScoped "<stylescoped>".toList = false ∧
    scansScoped "a < b\n<!-- style\n<p>a styled, <i>scoped</i>".toList = true := by
  decide +kernel

end ComponentFile
