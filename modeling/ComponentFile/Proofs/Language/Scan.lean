import ComponentFile.Language
import ComponentFile.Proofs.Text.BlankLines

/-!
# What a scan finds

The scan for declarations looks at single lines, and what it finds in a line it finds in every
longer line.  So it finds in a file whatever it finds in a block that was cut out of the file, also
after lines were taken out of the block.

## Main definitions

* `Covers` : texts that declare whatever another text declares.

## Main results

* `isMonotone_declares`, `isMonotone_lineScoped` : what is found in a text is found in longer ones.
* `anyLine_declares` : languages are declared within a line.
* `covers_stripBlankLines` : a file covers its blocks without their blank lines.
-/

namespace ComponentFile

open Text

variable {key lang r s t : Text}

/-! ### Search after search -/

theorem exists_eq_append_of_after? (h : after? key t = some r) : ∃ p, t = p ++ key ++ r := by
  obtain ⟨parts, hcut, rfl⟩ := Option.map_eq_some_iff.mp h
  exact ⟨parts.1, eq_append_of_cut? hcut⟩

/-- Behind the first occurrence of a key there is more text than behind any other. -/
theorem exists_after?_append (p key q : Text) :
    ∃ r, after? key (p ++ key ++ q) = some r ∧ q <:+ r := by
  induction p with
  | nil => exact ⟨q, by rw [List.nil_append, after?, cut?_append_self]; rfl, List.suffix_rfl⟩
  | cons c p ih =>
    rw [List.cons_append, List.cons_append]
    by_cases hkey : key <+: c :: (p ++ key ++ q)
    · obtain ⟨z, hz⟩ := hkey
      refine ⟨z, by rw [← hz, after?, cut?_append_self]; rfl, ?_⟩
      have hq : q <:+ key ++ z := ⟨c :: (p ++ key), by simp [hz]⟩
      have hlen := congrArg List.length hz
      simp only [List.length_append, List.length_cons] at hlen
      exact List.suffix_of_suffix_length_le hq (List.suffix_append key z) (by omega)
    · obtain ⟨r, hr, hq⟩ := ih
      obtain ⟨parts, hparts, rfl⟩ := Option.map_eq_some_iff.mp hr
      exact ⟨parts.2, by rw [after?, cut?_cons_of_not_prefix_cons hkey, hparts]; rfl, hq⟩

/-- A key that is found in a text is found in every longer one, with more text behind it. -/
theorem exists_after?_mono (h : s <:+: t) (hs : after? key s = some r) :
    ∃ r', after? key t = some r' ∧ r <:+: r' := by
  obtain ⟨x, y, rfl⟩ := h
  obtain ⟨p, rfl⟩ := exists_eq_append_of_after? hs
  obtain ⟨r', hr', hsuffix⟩ := exists_after?_append (x ++ p) key (r ++ y)
  refine ⟨r', by simpa using hr', (List.prefix_append r y).isInfix.trans hsuffix.isInfix⟩

theorem infix_drop_one (h : s <:+: t) : s.drop 1 <:+: t.drop 1 := by
  obtain ⟨x, y, rfl⟩ := h
  cases s with
  | nil => exact List.nil_infix
  | cons c s =>
    cases x with
    | nil => exact (List.prefix_append s y).isInfix
    | cons d x => exact ⟨x ++ [c], y, by simp⟩

/-! ### Declarations -/

theorem isMonotone_declares (lang : Text) : IsMonotone fun t ↦ declares t lang :=
  (isMonotone_contains _).or (isMonotone_contains _)

/-- Languages are declared within a line. -/
theorem anyLine_declares (hlang : '\n' ∉ lang) (t : Text) :
    anyLine (fun l ↦ declares l lang) t = declares t lang := by
  have hdouble : '\n' ∉ "lang=\"".toList ++ lang := by
    rw [List.mem_append, not_or]
    exact ⟨by decide, hlang⟩
  have hsingle : '\n' ∉ "lang='".toList ++ lang := by
    rw [List.mem_append, not_or]
    exact ⟨by decide, hlang⟩
  simp only [declares, anyLine_or, anyLine_contains hdouble, anyLine_contains hsingle]

/-- A line that declares a scoped style does so within every longer line. -/
theorem isMonotone_lineScoped : IsMonotone lineScoped := by
  intro s t h hs
  simp only [lineScoped, Option.isSome_iff_exists, bind, Option.bind_eq_some_iff] at hs ⊢
  obtain ⟨r₀, s₁, h₁, s₂, h₂, s₃, h₃, h₄⟩ := hs
  obtain ⟨t₁, h₁, hin⟩ := exists_after?_mono h h₁
  obtain ⟨t₂, h₂, hin⟩ := exists_after?_mono hin h₂
  obtain ⟨t₃, h₃, hin⟩ := exists_after?_mono (infix_drop_one hin) h₃
  obtain ⟨r, h₄, -⟩ := exists_after?_mono hin h₄
  exact ⟨r, t₁, h₁, t₂, h₂, t₃, h₃, h₄⟩

/-! ### Blocks and the file that they come from -/

/-- The names of languages that a scan looks for, other than that of the script. -/
def scannedNames : List Text :=
  [TemplateLang.pug.name, StyleLang.sass.name, StyleLang.scss.name]

/-- A scan of the text `t` finds everything that a scan of the block finds. -/
structure Covers (t block : Text) : Prop where
  declares : ∀ lang ∈ scannedNames, declares block lang = true → declares t lang = true
  scansScoped : scansScoped block = true → scansScoped t = true

/-- A file covers its blocks, also without their blank lines. -/
theorem covers_stripBlankLines (h : s <:+: t) : Covers t (stripBlankLines s) where
  declares lang hlang hs := by
    have hline : '\n' ∉ lang := (by decide : ∀ lang ∈ scannedNames, '\n' ∉ lang) lang hlang
    have hnil : ComponentFile.declares [] lang = false :=
      (by decide : ∀ lang ∈ scannedNames, ComponentFile.declares [] lang = false) lang hlang
    rw [← anyLine_declares hline] at hs ⊢
    exact (isMonotone_declares lang).anyLine_of_isInfix h
      (anyLine_of_anyLine_stripBlankLines hnil hs)
  scansScoped hs :=
    isMonotone_lineScoped.anyLine_of_isInfix h (anyLine_of_anyLine_stripBlankLines rfl hs)

end ComponentFile
