import ComponentFile.Path.Name
import ComponentFile.Proofs.Path.Parts
import ComponentFile.Proofs.Text.Search
import Mathlib.Data.List.DropRight

/-!
# Names of generated scripts

A script is generated beside its source under the same name with another ending.  The ending is
taken off the last name only, and a literate script in Markdown has an ending with two dots, so the
whole ending has to be known before the name is cut.  One kind of name is generated wrongly: when
nothing but a dot stands in front of the ending, the name that is left is taken for the segment
`..`, and no ending is written behind it.

## Main definitions

* `Path.IsDirectory` : what may stand in front of the last name of a path.
* `Path.sourceEndings`, `Path.literateEndings`, `Path.scriptEnding` : the endings of sources and of
  generated scripts.
* `Path.EndsInDot` : the last name is a single dot.

## Main results

* `Path.ofBody_lead_body` : a path is put together again from its segments.
* `Path.withExtension_append` : the extension is replaced behind the stem of the last name.
* `Path.generated_append_stem`, `Path.generated_append` : the script that is generated from a
  source.
* `Path.isLiterate_iff` : endings decide whether a script is literate.
* `Path.generated_and_isLiterate_agree` : the ending of a literate script is the one that makes room
  for that of the generated script.
-/

namespace ComponentFile.Path

open Text

variable {p : Path} {dir dir' ending ext name s s' stem t x : Text} {front : List Text}

/-! ### The last segment -/

/-- A path is put together again from its segments. -/
theorem ofBody_lead_body (p : Path) : ofBody p.lead p.body = p := by
  have hjoin : ['/'].intercalate p.segments = p.text := List.intercalate_splitOn '/'
  unfold body lead
  split_ifs with hroot hcurrent
  · obtain ⟨rest, hrest⟩ := List.head?_eq_some_iff.mp hroot
    have hsegments : p.segments = [] :: rest.splitOn '/' := by
      rw [segments, hrest]
      exact segments_append_slash [] rest
    simp only [hsegments, List.drop_one, List.tail_cons, ofBody, List.intercalate_splitOn]
    rw [← hrest]
  · obtain ⟨rest, hrest⟩ := List.head?_eq_some_iff.mp hcurrent
    rw [hrest] at hjoin ⊢
    cases rest with
    | nil =>
      rw [List.intercalate_singleton] at hjoin
      simp [ofBody, hjoin]
    | cons s rest =>
      rw [List.intercalate_cons_cons] at hjoin
      exact congrArg Path.mk hjoin
  · rw [ofBody, hjoin]

/-- What may stand in front of the last name of a path: nothing, or a text that ends in a slash. -/
def IsDirectory (dir : Text) : Prop :=
  ∀ c ∈ dir.getLast?, c = '/'

theorem exists_eq_append_of_isDirectory (x : Text) :
    ∃ dir stem, x = dir ++ stem ∧ IsDirectory dir ∧ '/' ∉ stem := by
  refine ⟨x.rdropWhile (· != '/'), x.rtakeWhile (· != '/'),
    List.rdropWhile_append_rtakeWhile.symm, fun c hc ↦ ?_, fun hmem ↦ ?_⟩
  · have hdir : x.rdropWhile (· != '/') ≠ [] := fun e ↦ by simp [e] at hc
    have hnot := List.rdropWhile_last_not _ _ hdir
    rw [List.getLast?_eq_some_getLast hdir, Option.mem_some] at hc
    simpa [hc] using hnot
  · simpa using List.mem_rtakeWhile_imp hmem

/-- The last segment of a path is what stands behind the last slash. -/
theorem append_inj_of_isDirectory (hdir : IsDirectory dir) (hdir' : IsDirectory dir')
    (hs : '/' ∉ s) (hs' : '/' ∉ s') (h : dir ++ s = dir' ++ s') : dir = dir' ∧ s = s' := by
  -- what one directory has more than the other one ends in a slash
  have hnil {outer u : Text} (hlong : IsDirectory (outer ++ u)) (hu : '/' ∉ u) : u = [] := by
    by_contra hne
    rw [IsDirectory, List.getLast?_append_of_ne_nil _ hne,
      List.getLast?_eq_some_getLast hne] at hlong
    exact hu (hlong _ rfl ▸ List.getLast_mem hne)
  obtain ⟨u, rfl, rfl⟩ | ⟨u, rfl, rfl⟩ := List.append_eq_append_iff.mp h
  · obtain rfl := hnil hdir' fun hu ↦ hs (List.mem_append_left s' hu)
    simp
  · obtain rfl := hnil hdir fun hu ↦ hs' (List.mem_append_left s hu)
    simp

theorem exists_segments_eq (hdir : IsDirectory dir) (hname : '/' ∉ name) :
    ∃ front, segments ⟨dir ++ name⟩ = front ++ [name] ∧ (front = [] → dir = []) := by
  cases hlast : dir.getLast? with
  | none =>
    obtain rfl := List.getLast?_eq_none_iff.mp hlast
    exact ⟨[], segments_of_not_mem hname, fun _ ↦ rfl⟩
  | some c =>
    obtain ⟨outer, rfl⟩ := List.getLast?_eq_some_iff.mp hlast
    obtain rfl := hdir c hlast
    refine ⟨segments ⟨outer⟩, ?_, fun h ↦ absurd h (segments_ne_nil _)⟩
    rw [List.append_assoc, List.singleton_append, segments_append_slash,
      segments_of_not_mem hname]

/-- A last segment that makes a part stands behind the beginning of the path. -/
theorem exists_body_eq (hdir : IsDirectory dir) (hname : '/' ∉ name) (hidle : isIdle name = false) :
    ∃ front, body ⟨dir ++ name⟩ = front ++ [name] := by
  obtain ⟨front, hsegments, hfront⟩ := exists_segments_eq hdir hname
  cases front with
  | nil =>
    obtain rfl := hfront rfl
    rw [List.nil_append] at hsegments ⊢
    rw [isIdle, Bool.or_eq_false_iff, List.isEmpty_eq_false_iff, beq_eq_false_iff_ne] at hidle
    have hroot : name.head? ≠ some '/' := fun h ↦ hname (List.mem_of_mem_head? h)
    have hlead : lead ⟨name⟩ = .relative := by
      rw [lead, if_neg hroot, if_neg (by simpa [hsegments] using hidle.2)]
    exact ⟨[], by rw [body, hlead, hsegments]⟩
  | cons s front =>
    unfold body
    split
    · exact ⟨_, hsegments⟩
    · exact ⟨front, by rw [hsegments]; rfl⟩

theorem trimmed_of_body_eq (h : p.body = front ++ [name]) (hidle : isIdle name = false) :
    p.trimmed = p := by
  have htrim : trimEnd p.body = p.body := by
    rw [h, trimEnd, List.reverse_append, List.reverse_singleton, List.singleton_append,
      List.dropWhile_cons_of_neg (by simp [hidle]), List.reverse_cons, List.reverse_reverse]
  rw [trimmed, htrim, ofBody_lead_body]

theorem fileName?_of_body_eq (h : p.body = front ++ [name]) (hidle : isIdle name = false)
    (hparent : name ≠ ['.', '.']) : p.fileName? = some name := by
  have hpart : Part.ofSegment? name = some (.name name) := by
    rw [Part.ofSegment?, if_neg (by simp [hidle]), if_neg hparent]
  have hlast : p.parts.getLast? = some (.name name) := by
    rw [parts, h, List.filterMap_append, List.filterMap_cons_some hpart, List.filterMap_nil,
      ← List.append_assoc, List.getLast?_concat]
  rw [fileName?, hlast]

/-! ### Extensions -/

/-- A name is cut at its last dot, unless nothing stands in front of that. -/
theorem splitName_append (hext : '.' ∉ ext) :
    splitName (stem ++ '.' :: ext) =
      if stem = [] then ('.' :: ext, none) else (stem, some ext) := by
  have hlast : ((stem ++ '.' :: ext).reverse.takeWhile (· != '.')).reverse = ext := by
    have hreverse : (stem ++ '.' :: ext).reverse = ext.reverse ++ '.' :: stem.reverse := by simp
    rw [hreverse, takeWhile_append_eq, List.reverse_reverse]
    · exact fun d hd ↦ by simpa using fun e : d = '.' ↦ hext (e ▸ List.mem_reverse.mp hd)
    · simp
  have hlength : (stem ++ '.' :: ext).length - ext.length - 1 = stem.length := by
    simp only [List.length_append, List.length_cons]
    omega
  simp only [splitName, hlast, hlength, List.take_left, List.isEmpty_iff]
  split
  · next hstem => rw [hstem, List.nil_append]
  · rfl

theorem splitName_of_not_mem (ht : '.' ∉ t) : (splitName t).2 = none := by
  have hlast : (t.reverse.takeWhile (· != '.')).reverse = t := by
    rw [List.takeWhile_eq_self_iff.mpr, List.reverse_reverse]
    exact fun d hd ↦ by simpa using fun e : d = '.' ↦ ht (e ▸ List.mem_reverse.mp hd)
  simp [splitName, hlast]

/-- The extension is replaced behind the stem of the last name.  When the stem is a single dot,
nothing but two dots is left. -/
theorem withExtension_append (hdir : IsDirectory dir) (hstem : stem ≠ []) (hslash : '/' ∉ stem)
    (hext : ext ≠ []) (hdot : '.' ∉ ext) (hslash' : '/' ∉ ext) (new : Text) :
    withExtension ⟨dir ++ (stem ++ '.' :: ext)⟩ new =
      ⟨dir ++ if stem = ['.'] then ['.', '.'] else stem ++ '.' :: new⟩ := by
  obtain ⟨c, ext, rfl⟩ := List.exists_cons_of_ne_nil hext
  have hname : '/' ∉ stem ++ '.' :: c :: ext := by
    simp only [List.mem_append, List.mem_cons, not_or] at hslash' ⊢
    exact ⟨hslash, by decide, hslash'⟩
  have hlong : 2 < (stem ++ '.' :: c :: ext).length := by
    have hpos := List.length_pos_iff.mpr hstem
    simp only [List.length_append, List.length_cons]
    omega
  -- a name with an ending is too long to be one of the segments that dots make
  have hne (short : Text) (h : short.length ≤ 2) : stem ++ '.' :: c :: ext ≠ short := by
    rintro rfl
    omega
  have hidle : isIdle (stem ++ '.' :: c :: ext) = false := by
    rw [isIdle, Bool.or_eq_false_iff, List.isEmpty_eq_false_iff, beq_eq_false_iff_ne]
    exact ⟨hne _ (by decide), hne _ (by decide)⟩
  obtain ⟨front, hbody⟩ := exists_body_eq hdir hname hidle
  have hfile := fileName?_of_body_eq hbody hidle (hne _ (by decide))
  rw [withExtension, hfile, trimmed_of_body_eq hbody hidle]
  simp only [splitName_append hdot, if_neg hstem, List.length_append, Nat.add_sub_cancel_right,
    List.take_left]
  by_cases h : stem = ['.']
  · simp [h]
  · simp [h]

/-! ### Generated scripts -/

/-- The endings of literate scripts. -/
def literateEndings : List Text :=
  [literateCoffee, literateMarkdown]

/-- The endings of components and of literate scripts. -/
def sourceEndings : List Text :=
  ".vue".toList :: literateEndings

/-- The ending of generated scripts. -/
def scriptEnding : Text := ".js".toList

/-- The last name is a single dot. -/
def EndsInDot (x : Text) : Prop :=
  x = ['.'] ∨ ['/', '.'] <:+ x

instance (x : Text) : Decidable (EndsInDot x) :=
  inferInstanceAs (Decidable (x = ['.'] ∨ ['/', '.'] <:+ x))

theorem endsInDot_append_iff (hdir : IsDirectory dir) (hslash : '/' ∉ stem) :
    EndsInDot (dir ++ stem) ↔ stem = ['.'] := by
  have hdot : '/' ∉ ['.'] := by decide
  constructor
  · rintro (h | ⟨outer, h⟩)
    · have hempty : IsDirectory [] := by simp [IsDirectory]
      exact (append_inj_of_isDirectory hdir hempty hslash hdot h).2
    · have houter : IsDirectory (outer ++ ['/']) := by simp [IsDirectory]
      have happ : dir ++ stem = outer ++ ['/'] ++ ['.'] := by rw [← h, List.append_assoc]; rfl
      exact (append_inj_of_isDirectory hdir houter hslash hdot happ).2
  · rintro rfl
    cases hlast : dir.getLast? with
    | none => exact .inl (by rw [List.getLast?_eq_none_iff.mp hlast]; rfl)
    | some c =>
      obtain ⟨outer, rfl⟩ := List.getLast?_eq_some_iff.mp hlast
      obtain rfl := hdir c hlast
      exact .inr ⟨outer, by rw [List.append_assoc]; rfl⟩

/-- A script is literate exactly when it has the ending of one. -/
theorem isLiterate_iff :
    p.isLiterate = true ↔ ∃ x, ∃ ending ∈ literateEndings, p.text = x ++ ending := by
  rw [isLiterate, Bool.or_eq_true, List.isSuffixOf_iff_suffix, List.isSuffixOf_iff_suffix]
  constructor
  · rintro (⟨x, hx⟩ | ⟨x, hx⟩)
    · exact ⟨x, literateCoffee, by simp [literateEndings], hx.symm⟩
    · exact ⟨x, literateMarkdown, by simp [literateEndings], hx.symm⟩
  · rintro ⟨x, ending, hending, hx⟩
    simp only [literateEndings, List.mem_cons, List.not_mem_nil, or_false] at hending
    rw [hx]
    obtain rfl | rfl := hending
    · exact .inl (List.suffix_append _ _)
    · exact .inr (List.suffix_append _ _)

theorem not_suffix_append (hs : s ≠ []) (ht : t ≠ []) (hlast : s.getLast? ≠ t.getLast?) :
    ¬s <:+ x ++ t := by
  rintro ⟨u, hu⟩
  have hend := congrArg List.getLast? hu
  rw [List.getLast?_append_of_ne_nil _ hs, List.getLast?_append_of_ne_nil _ ht] at hend
  exact hlast hend

theorem generated_of_not_suffix (h : ¬literateMarkdown <:+ p.text) :
    p.generated = p.withExtension "js".toList := by
  have hsuffix : literateMarkdown.isSuffixOf p.text = false := by
    rwa [Bool.eq_false_iff, ne_eq, List.isSuffixOf_iff_suffix]
  rw [generated, hsuffix]
  rfl

theorem generated_append_literateMarkdown (x : Text) :
    generated ⟨x ++ literateMarkdown⟩ = withExtension ⟨x ++ literateCoffee⟩ "js".toList := by
  have hsuffix : literateMarkdown.isSuffixOf (x ++ literateMarkdown) = true :=
    List.isSuffixOf_iff_suffix.mpr (List.suffix_append _ _)
  simp only [generated, hsuffix, if_true, List.length_append, Nat.add_sub_cancel_right,
    List.take_left]

/-- Whatever the ending of a source is, it counts as one extension. -/
theorem exists_generated_eq_withExtension (hending : ending ∈ sourceEndings) :
    ∃ ext, ext ≠ [] ∧ '.' ∉ ext ∧ '/' ∉ ext ∧
      ∀ x, generated ⟨x ++ ending⟩ = withExtension ⟨x ++ '.' :: ext⟩ "js".toList := by
  simp only [sourceEndings, literateEndings, List.mem_cons, List.not_mem_nil, or_false] at hending
  obtain rfl | rfl | rfl := hending
  · exact ⟨"vue".toList, by decide, by decide, by decide, fun x ↦
      generated_of_not_suffix (not_suffix_append (by decide) (by decide) (by decide))⟩
  · exact ⟨"litcoffee".toList, by decide, by decide, by decide, fun x ↦
      generated_of_not_suffix (not_suffix_append (by decide) (by decide) (by decide))⟩
  · exact ⟨"litcoffee".toList, by decide, by decide, by decide, generated_append_literateMarkdown⟩

/-- The ending of a source is taken off the last name, and the ending of scripts takes its place.
Only when a single dot is left, that becomes two dots. -/
theorem generated_append_stem (hdir : IsDirectory dir) (hslash : '/' ∉ stem) (hstem : stem ≠ [])
    (hending : ending ∈ sourceEndings) :
    generated ⟨dir ++ (stem ++ ending)⟩ =
      ⟨dir ++ if stem = ['.'] then ['.', '.'] else stem ++ scriptEnding⟩ := by
  obtain ⟨ext, hext, hdot, hslash', hgenerated⟩ := exists_generated_eq_withExtension hending
  rw [← List.append_assoc, hgenerated, List.append_assoc,
    withExtension_append hdir hstem hslash hext hdot hslash']
  rfl

theorem generated_append (hne : x ≠ []) (hlast : x.getLast? ≠ some '/')
    (hending : ending ∈ sourceEndings) :
    generated ⟨x ++ ending⟩ = ⟨x ++ if EndsInDot x then ['.'] else scriptEnding⟩ := by
  obtain ⟨dir, stem, rfl, hdir, hslash⟩ := exists_eq_append_of_isDirectory x
  have hstem : stem ≠ [] := by
    rintro rfl
    rw [List.append_nil] at hne hlast
    rw [List.getLast?_eq_some_getLast hne, ne_eq, Option.some_inj] at hlast
    exact hlast (hdir _ (List.getLast?_eq_some_getLast hne))
  rw [List.append_assoc, generated_append_stem hdir hslash hstem hending,
    if_congr (endsInDot_append_iff hdir hslash) rfl rfl, List.append_assoc]
  split
  · next hdotted => rw [hdotted]; rfl
  · rfl

/-- From a text that has a last name, the endings of components and of literate scripts lead to the
same script, which has the ending of scripts unless the last name is a single dot.  A script is
literate exactly when it has one of the endings of literate scripts, and then the whole ending makes
room for that of scripts and the directory stays, unless nothing or a single dot is in front of the
ending. -/
theorem generated_and_isLiterate_agree (x : Text) (p : Path) :
    (x ≠ [] → x.getLast? ≠ some '/' → ∀ ending ∈ sourceEndings,
      generated ⟨x ++ ending⟩ = ⟨x ++ if EndsInDot x then ['.'] else scriptEnding⟩) ∧
    (p.isLiterate = true ↔ ∃ front, ∃ ending ∈ literateEndings, p.text = front ++ ending) ∧
    (p.isLiterate = true → ∃ dir stem, ∃ ending ∈ literateEndings,
      IsDirectory dir ∧ '/' ∉ stem ∧ p.text = dir ++ (stem ++ ending) ∧
        (stem ≠ [] → p.generated.text =
          dir ++ if stem = ['.'] then ['.', '.'] else stem ++ scriptEnding)) := by
  refine ⟨fun hne hlast ending ↦ generated_append hne hlast, isLiterate_iff, fun hliterate ↦ ?_⟩
  obtain ⟨front, ending, hending, htext⟩ := isLiterate_iff.mp hliterate
  obtain ⟨dir, stem, rfl, hdir, hslash⟩ := exists_eq_append_of_isDirectory front
  rw [List.append_assoc] at htext
  refine ⟨dir, stem, ending, hending, hdir, hslash, htext, fun hstem ↦ ?_⟩
  obtain rfl : p = ⟨dir ++ (stem ++ ending)⟩ := by rw [← htext]
  rw [generated_append_stem hdir hslash hstem (List.mem_cons_of_mem _ hending)]

theorem dottedPath_generated_and_isLiterate_agree :
    ("d.coffee.md/a..b".toList ≠ [] ∧ "d.coffee.md/a..b".toList.getLast? ≠ some '/' ∧
      ".coffee.md".toList ∈ sourceEndings ∧
      generated ⟨"d.coffee.md/a..b.coffee.md".toList⟩ = ⟨"d.coffee.md/a..b.js".toList⟩) ∧
    isLiterate ⟨"d.coffee.md/a..b.coffee.md".toList⟩ = true ∧
      ∃ dir stem, ∃ ending ∈ literateEndings, IsDirectory dir ∧ '/' ∉ stem ∧
        "d.coffee.md/a..b.coffee.md".toList = dir ++ (stem ++ ending) ∧ stem ≠ [] ∧
        "d.coffee.md/a..b.js".toList =
          dir ++ if stem = ['.'] then ['.', '.'] else stem ++ scriptEnding := by
  obtain ⟨happend, -, hparts⟩ := generated_and_isLiterate_agree "d.coffee.md/a..b".toList
    ⟨"d.coffee.md/a..b.coffee.md".toList⟩
  have hne : "d.coffee.md/a..b".toList ≠ [] := by decide
  have hlast : "d.coffee.md/a..b".toList.getLast? ≠ some '/' := by decide
  have hending : ".coffee.md".toList ∈ sourceEndings := by decide
  have hliterate : isLiterate ⟨"d.coffee.md/a..b.coffee.md".toList⟩ = true := by decide
  have hgenerated := (happend hne hlast _ hending).trans
    (show _ = (⟨"d.coffee.md/a..b.js".toList⟩ : Path) by decide)
  obtain ⟨dir, stem, ending, hmem, hdir, hslash, htext, hscript⟩ := hparts hliterate
  have hstem : stem ≠ [] := by
    rintro rfl
    have houter : IsDirectory "d.coffee.md/".toList := by
      rintro c ⟨⟩
      rfl
    have hplain : ∀ ending ∈ literateEndings, '/' ∉ ending := by decide
    rw [List.nil_append] at htext
    have happ : "d.coffee.md/".toList ++ "a..b.coffee.md".toList = dir ++ ending := by
      rw [← htext]
      decide
    have hname := (append_inj_of_isDirectory houter hdir (by decide) (hplain _ hmem) happ).2
    rw [← hname] at hmem
    revert hmem
    decide
  exact ⟨⟨hne, hlast, hending, hgenerated⟩, hliterate, dir, stem, ending, hmem, hdir, hslash,
    htext, hstem, (congrArg Path.text hgenerated).symm.trans (hscript hstem)⟩

/-- The name `..vue` has a single dot in front of its ending, and so the directory above is taken
for the generated script. -/
theorem not_generated_append :
    ¬∀ x : Text, x ≠ [] → x.getLast? ≠ some '/' → ∀ ending ∈ sourceEndings,
      generated ⟨x ++ ending⟩ = ⟨x ++ scriptEnding⟩ := by
  intro h
  have hdot := h ['.'] (by decide) (by decide) ".vue".toList (by decide)
  revert hdot
  decide

end ComponentFile.Path
