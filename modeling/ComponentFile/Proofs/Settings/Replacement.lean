import ComponentFile.Proofs.Dict
import ComponentFile.Proofs.Language.Scoped
import ComponentFile.Settings.Basic

/-!
# Replacements in styles

A replacement divides a text where its key is found, and it writes its value in the place of the
key.  The key may overlap itself, and a value may complete another key, so it matters where the
search looks: it takes the first place at which the key stands and goes on behind it.  That leaves
one division of the text, which is described here without the search.

## Main definitions

* `Text.OccursOnlyBehind` : a key stands behind a text and at no place before.
* `Text.IsDivided` : the division of a text by a key.
* `IsPass`, `ArePasses` : what one replacement and what several do to a text.
* `StyleSettings.hooked` : the text that the replacements begin with.

## Main results

* `Text.cut?_eq_some_iff` : a search finds the first place of a key.
* `Text.pieces_eq_iff` : the pieces of a text are its division.
* `Text.existsUnique_isDivided` : a text has one division by a key.
* `StyleSettings.foldl_replaceOne_eq_iff` : replacements are passes, one after another.
* `StyleSettings.applyReplacements_eq_iff_arePasses` : the same for the replacements in a style.
-/

namespace ComponentFile

open Text

variable {key last p q r t u value : Text} {fronts : List Text} {n : Nat}

/-! ### The first place of a key -/

theorem OccursAt.add_length_le (hkey : OccursAt key n t) (hn : n ≤ t.length) :
    n + key.length ≤ t.length := by
  have hlen := hkey.length_le
  rw [List.length_drop] at hlen
  omega

namespace Text

/-- The key stands behind `p` and nowhere before, not even where it would overlap itself. -/
def OccursOnlyBehind (key p : Text) : Prop :=
  ∀ n, OccursAt key n (p ++ key) ↔ n = p.length

/-- The place at which a search finds a key lies behind no other place of it. -/
theorem length_le_of_occursAt {parts : Text × Text} (h : cut? key t = some parts)
    (hkey : OccursAt key n t) : parts.1.length ≤ n := by
  induction t generalizing n parts with
  | nil =>
    have hlen := congrArg List.length (eq_append_of_cut? h)
    simp only [List.length_append, List.length_nil] at hlen
    omega
  | cons c t ih =>
    by_cases hp : key <+: c :: t
    · obtain ⟨rest, hrest⟩ := hp
      rw [← hrest, cut?_append_self] at h
      cases h
      exact Nat.zero_le n
    · rw [cut?_cons_of_not_prefix_cons hp] at h
      obtain ⟨inner, hinner, rfl⟩ := Option.map_eq_some_iff.mp h
      cases n with
      | zero => exact absurd hkey hp
      | succ n => exact Nat.succ_le_succ (ih hinner hkey)

theorem occursOnlyBehind_of_cut? (hne : key ≠ []) (h : cut? key t = some (p, r)) :
    OccursOnlyBehind key p := by
  intro n
  constructor
  · intro hkey
    have hcut := cut?_append_of_cut? h []
    rw [List.append_nil] at hcut
    have hfirst : p.length ≤ n := length_le_of_occursAt hcut hkey
    have hlen := hkey.add_length_le (hkey.lt_length hne).le
    rw [List.length_append] at hlen
    omega
  · rintro rfl
    exact occursAt_of_eq_append (List.append_nil _).symm rfl

/-- A key that stands nowhere before is found. -/
theorem OccursOnlyBehind.cut?_append (h : OccursOnlyBehind key p) (r : Text) :
    cut? key (p ++ key ++ r) = some (p, r) := by
  have hin : key <:+: p ++ key := (List.suffix_append p key).isInfix
  obtain ⟨parts, hparts⟩ := Option.isSome_iff_exists.mp (cut?_isSome_iff.mpr hin)
  have happ := eq_append_of_cut? hparts
  have hlen : parts.1.length = p.length := (h _).mp (occursAt_of_eq_append happ rfl)
  obtain ⟨rfl, -⟩ := List.append_inj (happ.trans (List.append_assoc ..)) hlen.symm
  exact cut?_append_of_cut? hparts r

/-- A search finds the first place of a key. -/
theorem cut?_eq_some_iff (hne : key ≠ []) :
    cut? key t = some (p, r) ↔ t = p ++ key ++ r ∧ OccursOnlyBehind key p :=
  ⟨fun h ↦ ⟨eq_append_of_cut? h, occursOnlyBehind_of_cut? hne h⟩,
    fun ⟨ht, h⟩ ↦ ht ▸ h.cut?_append r⟩

/-! ### Divisions -/

/-- The text is divided by the key: behind each of the parts `fronts` the key stands for the first
time, and in the part `last` it does not occur. -/
structure IsDivided (key t : Text) (fronts : List Text) (last : Text) : Prop where
  eq_intercalate : t = key.intercalate (fronts ++ [last])
  occursOnlyBehind : ∀ p ∈ fronts, OccursOnlyBehind key p
  not_infix : ¬key <:+: last

theorem isDivided_nil_iff : IsDivided key t [] last ↔ t = last ∧ ¬key <:+: t := by
  constructor
  · rintro ⟨rfl, -, hlast⟩
    simpa using hlast
  · rintro ⟨rfl, ht⟩
    exact ⟨by simp, by simp, ht⟩

theorem intercalate_cons_append (key p : Text) (fronts : List Text) (last : Text) :
    key.intercalate (p :: fronts ++ [last]) = p ++ key ++ key.intercalate (fronts ++ [last]) := by
  cases fronts with
  | nil => simp
  | cons q fronts => simp [List.intercalate_cons_cons]

/-- The first part of a division ends where the key is found, and the others divide what follows
there. -/
theorem isDivided_cons_iff (hne : key ≠ []) :
    IsDivided key t (p :: fronts) last ↔
      ∃ r, cut? key t = some (p, r) ∧ IsDivided key r fronts last := by
  constructor
  · rintro ⟨rfl, hfronts, hlast⟩
    rw [intercalate_cons_append]
    obtain ⟨hp, hfronts⟩ := List.forall_mem_cons.mp hfronts
    exact ⟨_, hp.cut?_append _, rfl, hfronts, hlast⟩
  · rintro ⟨r, hcut, rfl, hfronts, hlast⟩
    obtain ⟨rfl, hp⟩ := (cut?_eq_some_iff hne).mp hcut
    exact ⟨(intercalate_cons_append ..).symm, List.forall_mem_cons.mpr ⟨hp, hfronts⟩, hlast⟩

theorem pieces_ne_nil (key t : Text) : pieces key t ≠ [] := by
  rw [pieces]
  split
  · exact List.cons_ne_nil _ _
  · split <;> exact List.cons_ne_nil _ _

theorem pieces_of_cut?_eq_none (h : cut? key t = none) : pieces key t = [t] := by
  rw [pieces]
  split
  · rfl
  · split
    · rfl
    · next hsome => rw [h] at hsome; cases hsome

theorem pieces_of_cut?_eq_some (hne : key ≠ []) (h : cut? key t = some (p, r)) :
    pieces key t = p :: pieces key r := by
  rw [pieces, dif_neg hne]
  split
  · next hnone => rw [h] at hnone; cases hnone
  · next hsome =>
    rw [h] at hsome
    cases hsome
    rfl

/-- The pieces of a text are its division. -/
theorem pieces_eq_iff (hne : key ≠ []) :
    pieces key t = fronts ++ [last] ↔ IsDivided key t fronts last := by
  induction fronts generalizing t with
  | nil =>
    rw [isDivided_nil_iff, ← cut?_isSome_iff, List.nil_append]
    cases hcut : cut? key t with
    | none => simp [pieces_of_cut?_eq_none hcut]
    | some parts => simp [pieces_of_cut?_eq_some hne hcut, pieces_ne_nil]
  | cons p fronts ih =>
    rw [isDivided_cons_iff hne, List.cons_append]
    cases hcut : cut? key t with
    | none => simp [pieces_of_cut?_eq_none hcut]
    | some parts => simp [pieces_of_cut?_eq_some hne hcut, Prod.ext_iff, ih]

/-- A text has one division by a key. -/
theorem existsUnique_isDivided (hne : key ≠ []) (t : Text) :
    ∃! parts : List Text × Text, IsDivided key t parts.1 parts.2 := by
  have hpieces := List.dropLast_concat_getLast (pieces_ne_nil key t)
  refine ⟨(_, _), (pieces_eq_iff hne).mp hpieces.symm, ?_⟩
  rintro ⟨fronts, last⟩ h
  have hdivided := (pieces_eq_iff hne).mpr h
  obtain ⟨hfronts, hlast⟩ := List.append_inj' (hdivided.symm.trans hpieces.symm) rfl
  exact Prod.ext hfronts (List.singleton_inj.mp hlast)

theorem replaceAll_eq_intercalate (hne : key ≠ []) (value t : Text) :
    replaceAll key value t = value.intercalate (pieces key t) := by
  rw [replaceAll, if_neg (by simpa using hne)]

/-- A text in which the key does not occur stays as it is. -/
theorem replaceAll_of_not_infix (hne : key ≠ []) (ht : ¬key <:+: t) :
    replaceAll key value t = t := by
  rw [← cut?_isSome_iff, Option.not_isSome_iff_eq_none] at ht
  rw [replaceAll_eq_intercalate hne, pieces_of_cut?_eq_none ht, List.intercalate_singleton]

end Text

/-! ### Passes -/

/-- One replacement takes the text `t` to `u`: it divides `t` by its key and writes its value in the
places of the key. -/
def IsPass (replacement : Text × Text) (t u : Text) : Prop :=
  ∃ fronts last, IsDivided replacement.1 t fronts last ∧
    u = replacement.2.intercalate (fronts ++ [last])

/-- Replacements take a text to another one in passes, each over the result of the one before. -/
inductive ArePasses : List (Text × Text) → Text → Text → Prop
  | done (t : Text) : ArePasses [] t t
  | pass {replacement replacements t u v} (h : IsPass replacement t u)
      (hrest : ArePasses replacements u v) : ArePasses (replacement :: replacements) t v

theorem isPass_iff (hne : key ≠ []) : IsPass (key, value) t u ↔ replaceAll key value t = u := by
  rw [replaceAll_eq_intercalate hne]
  constructor
  · rintro ⟨fronts, last, hdivided, rfl⟩
    rw [(pieces_eq_iff hne).mpr hdivided]
  · rintro rfl
    have hpieces := List.dropLast_concat_getLast (pieces_ne_nil key t)
    exact ⟨_, _, (pieces_eq_iff hne).mp hpieces.symm, by rw [hpieces]⟩

namespace StyleSettings

variable {replacements : List (Text × Text)}

theorem replaceOne_of_key_ne_nil (hne : key ≠ []) :
    replaceOne t (key, value) = replaceAll key value t :=
  if_neg (by simpa using hne)

/-- Replacements are passes, one after another; an empty key makes no pass. -/
theorem foldl_replaceOne_eq_iff :
    replacements.foldl replaceOne t = u ↔
      ArePasses (replacements.filter fun replacement ↦ !replacement.1.isEmpty) t u := by
  induction replacements generalizing t with
  | nil =>
    constructor
    · rintro rfl
      exact .done t
    · rintro ⟨⟩
      rfl
  | cons replacement replacements ih =>
    obtain ⟨key, value⟩ := replacement
    rw [List.foldl_cons, ih]
    by_cases hkey : key = []
    · subst hkey
      rfl
    · rw [replaceOne_of_key_ne_nil hkey, List.filter_cons_of_pos (by simpa using hkey)]
      constructor
      · exact .pass ((isPass_iff hkey).mpr rfl)
      · rintro (_ | ⟨hpass, hrest⟩)
        rwa [(isPass_iff hkey).mp hpass]

/-- Replacements whose keys do not occur change nothing. -/
theorem foldl_replaceOne_of_not_infix
    (h : ∀ replacement ∈ replacements, replacement.1 ≠ [] → ¬replacement.1 <:+: t) :
    replacements.foldl replaceOne t = t := by
  induction replacements with
  | nil => rfl
  | cons replacement replacements ih =>
    obtain ⟨hfirst, hrest⟩ := List.forall_mem_cons.mp h
    obtain ⟨key, value⟩ := replacement
    have hone : replaceOne t (key, value) = t := by
      by_cases hkey : key = []
      · subst hkey
        rfl
      · rw [replaceOne_of_key_ne_nil hkey, replaceAll_of_not_infix hkey (hfirst hkey)]
    rw [List.foldl_cons, hone, ih hrest]

/-- The text after the hook, with which the replacements begin. -/
def hooked (s : StyleSettings) (t : Text) : Text :=
  match s.hook with
  | some hook => hook t
  | none => t

theorem applyReplacements_eq_foldl (s : StyleSettings) (t : Text) :
    s.applyReplacements t = s.replacements.entries.foldl replaceOne (s.hooked t) := by
  rw [applyReplacements, hooked]
  cases s.hook <;> rfl

/-- The replacements in a style are passes over the text after the hook, one for each key that is
not empty, in the order of the settings.  Each of them divides its text by the key, which can be
done in one way only.  Without an occurrence of a key the text stays as it is, and replacements with
an empty key might as well be left out. -/
theorem applyReplacements_eq_iff_arePasses (s : StyleSettings) (t : Text) :
    (∀ u, s.applyReplacements t = u ↔
      ArePasses (s.replacements.filterKeys fun key ↦ !key.isEmpty).entries (s.hooked t) u) ∧
    (∀ key, key ≠ [] → ∀ v, ∃! parts : List Text × Text, IsDivided key v parts.1 parts.2) ∧
    ((∀ key ∈ s.replacements.keys, key ≠ [] → ¬key <:+: s.hooked t) →
      s.applyReplacements t = s.hooked t) ∧
    { s with replacements := s.replacements.filterKeys fun key ↦
      !key.isEmpty }.applyReplacements t = s.applyReplacements t := by
  have hpasses (s : StyleSettings) (u : Text) : s.applyReplacements t = u ↔
      ArePasses (s.replacements.filterKeys fun key ↦ !key.isEmpty).entries (s.hooked t) u := by
    rw [applyReplacements_eq_foldl]
    exact foldl_replaceOne_eq_iff
  refine ⟨hpasses s, fun key hkey v ↦ existsUnique_isDivided hkey v, fun h ↦ ?_, ?_⟩
  · rw [applyReplacements_eq_foldl]
    exact foldl_replaceOne_of_not_infix fun replacement hmem ↦ h _ (List.mem_map_of_mem hmem)
  · rw [hpasses, OrderedMap.filterKeys_filterKeys]
    exact (hpasses s _).mp rfl

/-- Settings with a key that overlaps itself, an empty key, and a key that an earlier value
completes. -/
def overlapSettings : StyleSettings where
  compile := true
  command := ["sass".toList]
  options := ∅
  replacements := .ofList [("aa".toList, "b".toList), ([], "x".toList), ("ba".toList, "aa".toList),
    ("c".toList, "d".toList)]
  hook := some ('a' :: ·)

theorem overlapSettings_applyReplacements_eq_iff_arePasses :
    ArePasses [("aa".toList, "b".toList), ("ba".toList, "aa".toList), ("c".toList, "d".toList)]
      "aaab".toList "aab".toList ∧
    ("aa".toList ≠ [] ∧ ∃! parts : List Text × Text,
      IsDivided "aa".toList "aaab".toList parts.1 parts.2) ∧
    ((∀ key ∈ overlapSettings.replacements.keys, key ≠ [] →
      ¬key <:+: overlapSettings.hooked ['b']) ∧
      overlapSettings.applyReplacements ['b'] = ['a', 'b']) := by
  obtain ⟨hpasses, hunique, -, -⟩ := applyReplacements_eq_iff_arePasses overlapSettings "aab".toList
  have hnone : ∀ key ∈ overlapSettings.replacements.keys, key ≠ [] →
      ¬key <:+: overlapSettings.hooked ['b'] := by decide
  obtain ⟨-, -, hsame, -⟩ := applyReplacements_eq_iff_arePasses overlapSettings ['b']
  exact ⟨(hpasses _).mp (by decide +kernel), ⟨by decide, hunique _ (by decide) _⟩, hnone,
    hsame hnone⟩

end StyleSettings

end ComponentFile
