import ComponentFile.Path.Basic
import Mathlib.Data.List.Basic

/-!
# Parts of paths

What a path leads to depends on its parts only, so every operation on paths is described here by
what it does to them, however the path is spelled.

## Main definitions

* `Path.Part.ofFirst` : the part that the first segment of a path makes.

## Main results

* `Path.parts_eq_cons` : the parts of a path are those of its segments.
* `Path.parts_ofBody` : the parts of a path that is put together of segments.
* `Path.parts_join` : the parts of a path continued by another one.
* `Path.parts_of_relativeTo?`, `Path.isSome_relativeTo?` : the remainder of a path is the remainder
  of its parts.
* `Path.exists_parent?` : the path above has all parts but the last.
-/

namespace ComponentFile.Path

variable {p q base r : Path} {s t : Text} {body rest : List Text} {ps : List Part}

/-! ### Segments -/

theorem segments_ne_nil (p : Path) : p.segments ≠ [] :=
  List.splitOn_ne_nil '/' p.text

/-- A slash separates segments. -/
theorem segments_append_slash (s t : Text) :
    segments ⟨s ++ '/' :: t⟩ = segments ⟨s⟩ ++ segments ⟨t⟩ :=
  List.splitOn_append_cons_of_beq s t rfl

/-- A text without slashes is one segment. -/
theorem segments_of_not_mem (h : '/' ∉ t) : segments ⟨t⟩ = [t] :=
  List.splitOn_eq_singleton h

/-- Segments that are put together are taken apart again. -/
theorem segments_intercalate (h : ∀ s ∈ body, '/' ∉ s) (hne : body ≠ []) :
    segments ⟨['/'].intercalate body⟩ = body :=
  List.splitOn_intercalate '/' h hne

/-- There is no slash in a segment. -/
theorem not_mem_of_mem_segments (h : s ∈ p.segments) : '/' ∉ s := by
  obtain ⟨t⟩ := p
  induction t generalizing s with
  | nil =>
    obtain rfl : s = [] := by simpa [segments] using h
    exact List.not_mem_nil
  | cons c t ih =>
    simp only [segments, List.splitOn_cons_eq_if_modifyHead] at h ih
    split at h
    · obtain rfl | h := List.mem_cons.mp h
      · exact List.not_mem_nil
      · exact ih h
    · next hc =>
      obtain ⟨u, us, hus⟩ := List.exists_cons_of_ne_nil (List.splitOn_ne_nil '/' t)
      rw [hus] at ih
      rw [hus, List.modifyHead_cons] at h
      obtain rfl | h := List.mem_cons.mp h
      · have hne : '/' ≠ c := fun e ↦ hc (by simp [← e])
        simp [hne, ih List.mem_cons_self]
      · exact ih (List.mem_cons_of_mem _ h)

/-- A path that begins with a slash has an empty first segment. -/
theorem head?_text_eq_slash_iff (hp : p.text ≠ []) (h : p.segments = s :: rest) :
    p.text.head? = some '/' ↔ s = [] := by
  obtain ⟨t⟩ := p
  obtain ⟨c, t, rfl⟩ := List.exists_cons_of_ne_nil hp
  simp only [segments, List.splitOn_cons_eq_if_modifyHead] at h
  split at h
  · next hc => simp_all
  · next hc =>
    obtain ⟨u, us, hus⟩ := List.exists_cons_of_ne_nil (List.splitOn_ne_nil '/' t)
    rw [hus, List.modifyHead_cons] at h
    obtain ⟨rfl, -⟩ := List.cons.inj h
    simpa using hc

/-! ### Parts -/

/-- The part that the first segment of a path makes. -/
def Part.ofFirst (segment : Text) : Part :=
  if segment = [] then .root
  else if segment = ['.'] then .current
  else if segment = ['.', '.'] then .parent
  else .name segment

theorem Part.ofSegment?_of_isIdle (h : isIdle s = true) : Part.ofSegment? s = none :=
  if_pos h

theorem Part.ofSegment?_of_not_isIdle (h : isIdle s = false) :
    Part.ofSegment? s = some (Part.ofFirst s) := by
  simp only [isIdle, Bool.or_eq_false_iff, List.isEmpty_eq_false_iff, beq_eq_false_iff_ne] at h
  simp only [ofSegment?, isIdle, ofFirst, if_neg h.1, if_neg h.2]
  simp only [Bool.or_eq_true, List.isEmpty_iff, beq_iff_eq, h.1, h.2, or_self, if_false]
  split <;> rfl

theorem parts_of_text_eq_nil (hp : p.text = []) : p.parts = [] := by
  obtain rfl : p = ⟨[]⟩ := by rw [← hp]
  rfl

/-- The parts of a path are those that its segments make; only the first one makes a part in any
case. -/
theorem parts_eq_cons (hp : p.text ≠ []) (h : p.segments = s :: rest) :
    p.parts = Part.ofFirst s :: rest.filterMap Part.ofSegment? := by
  have hslash := head?_text_eq_slash_iff hp h
  by_cases hroot : s = []
  · have hlead : p.lead = .root := by rw [lead, if_pos (hslash.mpr hroot)]
    simp [parts, body, hlead, h, Lead.parts, Part.ofFirst, hroot]
  by_cases hcurrent : s = ['.']
  · have hlead : p.lead = .current := by
      rw [lead, if_neg (hslash.not.mpr hroot), if_pos (by rw [h, hcurrent]; rfl)]
    simp [parts, body, hlead, h, Lead.parts, Part.ofFirst, hcurrent]
  · have hlead : p.lead = .relative := by
      rw [lead, if_neg (hslash.not.mpr hroot), if_neg (by simp [h, hcurrent])]
    have hidle : isIdle s = false := by simp [isIdle, hroot, hcurrent]
    simp [parts, body, hlead, h, Lead.parts, Part.ofSegment?_of_not_isIdle hidle]

/-- A path whose parts are all names is relative. -/
theorem lead_of_forall_name (h : ∀ a ∈ p.parts, ∃ n, a = .name n) : p.lead = .relative := by
  cases hlead : p.lead with
  | relative => rfl
  | root =>
    obtain ⟨n, hn⟩ := h .root (by simp [parts, hlead, Lead.parts])
    cases hn
  | current =>
    obtain ⟨n, hn⟩ := h .current (by simp [parts, hlead, Lead.parts])
    cases hn

/-! ### Paths put together -/

/-- A path begins at the root if its text begins with a slash. -/
theorem isAbsolute_iff : p.isAbsolute = true ↔ p.text.head? = some '/' := by
  rw [isAbsolute, beq_iff_eq, lead]
  split
  · next h => simp [h]
  · next h => split <;> simp [h]

theorem join_of_text_eq_nil (hp : p.text = []) : p.join q = q := by
  rw [join, hp]
  split <;> rfl

/-- A path continued by a relative one is its text, a slash unless there is one, and the text of the
other one. -/
theorem exists_text_join (hp : p.text ≠ []) (hq : q.isAbsolute = false) : ∃ u sep,
    p.text = u ++ sep ∧ (sep = [] ∨ sep = ['/']) ∧ (p.join q).text = u ++ '/' :: q.text := by
  by_cases hlast : p.text.getLast? = some '/'
  · obtain ⟨u, hu⟩ := List.getLast?_eq_some_iff.mp hlast
    refine ⟨u, ['/'], hu, .inr rfl, ?_⟩
    rw [join, if_neg (by simp [hq]), if_pos (by simp [hlast])]
    simp [hu]
  · refine ⟨p.text, [], by simp, .inl rfl, ?_⟩
    rw [join, if_neg (by simp [hq]), if_neg (by simp [hp, hlast])]

/-- The segments of a path continued by a relative one. -/
theorem exists_segments_join (hp : p.text ≠ []) (hq : q.isAbsolute = false) : ∃ front extra,
    p.segments = front ++ extra ∧ (extra = [] ∨ extra = [[]]) ∧ front ≠ [] ∧
      (p.join q).segments = front ++ q.segments := by
  obtain ⟨u, sep, hu, hsep, hjoin⟩ := exists_text_join hp hq
  have hsegments : (p.join q).segments = segments ⟨u⟩ ++ q.segments := by
    rw [segments.eq_1 (p.join q), hjoin]
    exact segments_append_slash u q.text
  refine ⟨segments ⟨u⟩, if sep = [] then [] else [[]], ?_, ?_, segments_ne_nil _, hsegments⟩
  · rw [segments.eq_1 p, hu]
    obtain rfl | rfl := hsep
    · simp [segments]
    · exact segments_append_slash u []
  · split <;> simp

theorem isAbsolute_join (hp : p.text ≠ []) (hq : q.isAbsolute = false) :
    (p.join q).isAbsolute = p.isAbsolute := by
  obtain ⟨u, sep, hu, hsep, hjoin⟩ := exists_text_join hp hq
  rw [Bool.eq_iff_iff, isAbsolute_iff, isAbsolute_iff, hjoin, hu]
  obtain rfl | rfl := hsep
  · rw [List.append_nil] at hu ⊢
    rw [List.head?_append_of_ne_nil _ (hu ▸ hp)]
  · cases u <;> simp

/-- The parts of a path continued by another one. -/
theorem parts_join (hq : q.lead = .relative) : (p.join q).parts = p.parts ++ q.parts := by
  have hqparts : q.parts = q.segments.filterMap Part.ofSegment? := by
    simp [parts, body, hq, Lead.parts]
  by_cases hp : p.text = []
  · rw [join_of_text_eq_nil hp, parts_of_text_eq_nil hp, List.nil_append]
  have hrelative : q.isAbsolute = false := by simp [isAbsolute, hq]
  obtain ⟨u, sep, -, -, hjoin⟩ := exists_text_join hp hrelative
  have hne : (p.join q).text ≠ [] := by simp [hjoin]
  obtain ⟨front, extra, hseg, hextra, hfront, hjoinseg⟩ := exists_segments_join hp hrelative
  obtain ⟨s, rest, rfl⟩ := List.exists_cons_of_ne_nil hfront
  rw [List.cons_append] at hseg hjoinseg
  have hidle : extra.filterMap Part.ofSegment? = [] := by
    obtain rfl | rfl := hextra <;> rfl
  rw [parts_eq_cons hne hjoinseg, parts_eq_cons hp hseg, List.filterMap_append,
    List.filterMap_append, hidle, hqparts]
  simp

/-- The parts of a path that is put together of segments. -/
theorem parts_ofBody (lead : Lead) (hbody : ∀ s ∈ body, '/' ∉ s)
    (hhead : lead = .relative → ∀ s ∈ body.head?, isIdle s = false) :
    (ofBody lead body).parts = lead.parts ++ body.filterMap Part.ofSegment? := by
  cases lead with
  | relative =>
    cases body with
    | nil => rfl
    | cons s rest =>
      have hs := hhead rfl s rfl
      have hsegments := segments_intercalate hbody (List.cons_ne_nil s rest)
      have hne : ['/'].intercalate (s :: rest) ≠ [] := by
        intro hnil
        rw [hnil] at hsegments
        obtain ⟨rfl, -⟩ := List.cons.inj (show [[]] = s :: rest from hsegments)
        cases hs
      refine (parts_eq_cons hne hsegments).trans ?_
      simp [Lead.parts, Part.ofSegment?_of_not_isIdle hs]
  | root =>
    have hsegments : segments ⟨'/' :: ['/'].intercalate body⟩ =
        [] :: segments ⟨['/'].intercalate body⟩ := segments_append_slash [] _
    rw [ofBody, parts_eq_cons (List.cons_ne_nil _ _) hsegments]
    cases body with
    | nil => rfl
    | cons s rest =>
      rw [segments_intercalate hbody (List.cons_ne_nil s rest)]
      rfl
  | current =>
    cases body with
    | nil => rfl
    | cons s rest =>
      have hsegments : segments ⟨'.' :: '/' :: ['/'].intercalate (s :: rest)⟩ =
          ['.'] :: segments ⟨['/'].intercalate (s :: rest)⟩ := segments_append_slash ['.'] _
      rw [segments_intercalate hbody (List.cons_ne_nil s rest)] at hsegments
      exact (parts_eq_cons (List.cons_ne_nil _ _) hsegments).trans rfl

/-! ### Paths taken apart -/

theorem not_mem_of_mem_body (h : s ∈ p.body) : '/' ∉ s := by
  refine not_mem_of_mem_segments (p := p) ?_
  unfold body at h
  split at h
  · exact h
  · exact List.mem_of_mem_drop h

theorem filterMap_dropWhile_isIdle (body : List Text) :
    (body.dropWhile isIdle).filterMap Part.ofSegment? = body.filterMap Part.ofSegment? := by
  induction body with
  | nil => rfl
  | cons s body ih =>
    cases hs : isIdle s with
    | true => simp [hs, ih, Part.ofSegment?_of_isIdle hs]
    | false => simp [hs]

theorem filterMap_trimEnd (body : List Text) :
    (trimEnd body).filterMap Part.ofSegment? = body.filterMap Part.ofSegment? := by
  rw [trimEnd, List.filterMap_reverse, filterMap_dropWhile_isIdle, List.filterMap_reverse,
    List.reverse_reverse]

theorem filterMap_dropParts (n : Nat) (body : List Text) :
    (dropParts n body).filterMap Part.ofSegment? = (body.filterMap Part.ofSegment?).drop n := by
  induction n generalizing body with
  | zero => rfl
  | succ n ih =>
    rw [dropParts, ih, ← filterMap_dropWhile_isIdle body]
    cases h : body.dropWhile isIdle with
    | nil => simp
    | cons s rest =>
      have hs : isIdle s = false := by
        have hhead := List.head?_dropWhile_not isIdle body
        rw [h] at hhead
        simpa using hhead
      simp [Part.ofSegment?_of_not_isIdle hs]

theorem isPrefix_trimEnd (body : List Text) : trimEnd body <+: body := by
  rw [trimEnd, ← List.reverse_suffix, List.reverse_reverse]
  exact List.dropWhile_suffix isIdle

theorem mem_head?_of_isPrefix {front : List Text} (h : front <+: body) (hs : s ∈ front.head?) :
    s ∈ body.head? := by
  obtain ⟨rest, rfl⟩ := h
  rw [Option.mem_def] at hs ⊢
  rw [List.head?_append, hs, Option.some_or]

theorem head?_trimEnd (h : ∀ s ∈ body.head?, isIdle s = false) :
    ∀ s ∈ (trimEnd body).head?, isIdle s = false :=
  fun s hs ↦ h s (mem_head?_of_isPrefix (isPrefix_trimEnd body) hs)

/-- The first segment of a relative path makes a part, unless the path is empty. -/
theorem head?_trimEnd_body (h : p.lead = .relative) :
    ∀ s ∈ (trimEnd p.body).head?, isIdle s = false := by
  by_cases hp : p.text = []
  · obtain rfl : p = ⟨[]⟩ := by rw [← hp]
    decide
  · refine head?_trimEnd fun s hs ↦ ?_
    have hbody : p.body = p.segments := by simp [body, h]
    obtain ⟨rest, hrest⟩ := List.head?_eq_some_iff.mp (hbody ▸ hs)
    have hslash := head?_text_eq_slash_iff hp hrest
    rw [isIdle, Bool.or_eq_false_iff, List.isEmpty_eq_false_iff, beq_eq_false_iff_ne]
    constructor
    · intro hnil
      rw [lead, if_pos (hslash.mpr hnil)] at h
      cases h
    · rintro rfl
      rw [lead, if_neg (hslash.not.mpr (by simp)), if_pos (by rw [hrest]; rfl)] at h
      cases h

theorem parts_trimmed (p : Path) : p.trimmed.parts = p.parts := by
  rw [trimmed, parts_ofBody, filterMap_trimEnd, parts]
  · exact fun s hs ↦ not_mem_of_mem_body ((isPrefix_trimEnd p.body).subset hs)
  · exact fun h ↦ head?_trimEnd_body h

theorem dropParts_suffix (n : Nat) (body : List Text) : dropParts n body <:+ body := by
  induction n generalizing body with
  | zero => exact List.suffix_rfl
  | succ n ih =>
    exact (ih _).trans ((List.drop_suffix 1 _).trans (List.dropWhile_suffix isIdle))

/-- The remainder of a path has the remaining parts. -/
theorem parts_of_relativeTo? (h : p.relativeTo? base = some r) :
    base.parts ++ r.parts = p.parts := by
  unfold relativeTo? at h
  split at h
  · next hfront =>
    obtain ⟨rest, hrest⟩ := List.isPrefixOf_iff_prefix.mp hfront
    split at h
    · next hnil =>
      obtain rfl : p.trimmed = r := Option.some.inj h
      rw [parts_trimmed, List.isEmpty_iff.mp hnil, List.nil_append]
    · next hne =>
      obtain rfl := Option.some.inj h
      have hlen : p.lead.parts.length ≤ base.parts.length := by
        have hpos := List.length_pos_iff.mpr (by simpa using hne)
        cases p.lead <;> simp [Lead.parts] <;> omega
      rw [parts_ofBody, filterMap_trimEnd, filterMap_dropWhile_isIdle, filterMap_dropParts]
      · have hdrop : (p.body.filterMap Part.ofSegment?).drop
            (base.parts.length - p.lead.parts.length) = rest := by
          have happ := congrArg (List.drop base.parts.length) hrest
          rw [List.drop_left, parts.eq_1 p, List.drop_append, List.drop_eq_nil_of_le hlen] at happ
          exact happ.symm
        rw [hdrop, ← hrest]
        rfl
      · intro s hs
        have hsuffix := (List.dropWhile_suffix isIdle).trans
          (dropParts_suffix (base.parts.length - p.lead.parts.length) p.body)
        exact not_mem_of_mem_body (hsuffix.subset ((isPrefix_trimEnd _).subset hs))
      · refine fun _ ↦ head?_trimEnd fun s hs ↦ ?_
        have hhead := List.head?_dropWhile_not isIdle
          (dropParts (base.parts.length - p.lead.parts.length) p.body)
        rw [Option.mem_def] at hs
        rwa [hs] at hhead
  · cases h

/-- A path has a remainder below every path whose parts are its first ones. -/
theorem isSome_relativeTo? (h : base.parts <+: p.parts) : (p.relativeTo? base).isSome = true := by
  rw [relativeTo?, if_pos (List.isPrefixOf_iff_prefix.mpr h)]
  split <;> rfl

/-- The remainder of a path below another one has the remaining parts. -/
theorem parts_relativeTo (h : base.parts <+: p.parts) :
    base.parts ++ (p.relativeTo base).parts = p.parts := by
  obtain ⟨r, hr⟩ := Option.isSome_iff_exists.mp (isSome_relativeTo? h)
  rw [relativeTo, hr, Option.getD_some, parts_of_relativeTo? hr]

/-- Above a path that ends with a name is the path without that name. -/
theorem exists_parent? {n : Text} (h : p.parts = ps ++ [.name n]) :
    ∃ q, p.parent? = some q ∧ q.parts = ps := by
  have htrim := filterMap_trimEnd p.body
  rw [parts, ← htrim] at h
  unfold parent?
  cases hrev : (trimEnd p.body).reverse with
  | nil =>
    rw [List.reverse_eq_nil_iff.mp hrev] at h
    have hlast := congrArg List.getLast? h
    cases hlead : p.lead <;> simp [hlead, Lead.parts] at hlast
  | cons s outer =>
    have hs : isIdle s = false := by
      have hhead := List.head?_dropWhile_not isIdle p.body.reverse
      rw [trimEnd, List.reverse_reverse] at hrev
      simpa [hrev] using hhead
    have hbody : trimEnd p.body = outer.reverse ++ [s] := by
      rw [← List.reverse_reverse (trimEnd p.body), hrev, List.reverse_cons]
    have hfront : outer.reverse <+: trimEnd p.body := ⟨[s], hbody.symm⟩
    rw [hbody, List.filterMap_append, ← List.append_assoc] at h
    refine ⟨_, rfl, ?_⟩
    rw [parts_ofBody, filterMap_trimEnd]
    · refine (List.append_inj' h ?_).1
      simp [Part.ofSegment?_of_not_isIdle hs]
    · intro t ht
      exact not_mem_of_mem_body
        ((isPrefix_trimEnd p.body).subset (hfront.subset ((isPrefix_trimEnd _).subset ht)))
    · exact fun hlead ↦ head?_trimEnd fun t ht ↦
        head?_trimEnd_body hlead t (mem_head?_of_isPrefix hfront ht)

end ComponentFile.Path
