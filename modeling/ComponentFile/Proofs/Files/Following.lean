import ComponentFile.Files.Tree
import ComponentFile.Proofs.Path.Parts
import ComponentFile.Proofs.Text.Offsets

/-!
# Where paths lead

A path is followed segment by segment.  A path continued by a name leads on from the directory that
the path leads to, unless the name or the whole path is too long.

## Main results

* `FileTree.followSegments_append` : segments are followed one after another.
* `FileTree.follow_eq_ok_iff` : where a path leads.
* `FileTree.follow_join_eq_ok_iff` : where a path leads that is continued by a name.
-/

namespace ComponentFile

variable {tree after : FileTree} {cwd place place' : Place} {p : Path} {entry : Entry}
  {segments segments' : List Text} {segment : Text} {bytes : Bytes}

/-! ### Names of files -/

namespace FileName

variable {name : FileName}

theorem ofSegment?_text (name : FileName) :
    Path.Part.ofSegment? name.text = some (.name name.text) := by
  have h := name.valid
  rw [isFileName, Bool.and_eq_true, beq_iff_eq] at h
  exact h.1

theorem slash_notMem (name : FileName) : '/' ∉ name.text := by
  have h := name.valid
  rw [isFileName, Bool.and_eq_true, List.all_eq_true] at h
  exact fun hmem ↦ by simpa using h.2 '/' hmem

theorem isIdle_text (name : FileName) : Path.isIdle name.text = false := by
  cases h : Path.isIdle name.text with
  | false => rfl
  | true =>
    have hsegment := name.ofSegment?_text
    rw [Path.Part.ofSegment?_of_isIdle h] at hsegment
    cases hsegment

theorem ofFirst_text (name : FileName) : Path.Part.ofFirst name.text = .name name.text := by
  have h := Path.Part.ofSegment?_of_not_isIdle name.isIdle_text
  rw [ofSegment?_text, Option.some.injEq] at h
  exact h.symm

theorem text_ne_nil (name : FileName) : name.text ≠ [] := by
  intro h
  have hidle := name.isIdle_text
  rw [h] at hidle
  cases hidle

theorem ofText?_text (name : FileName) : ofText? name.text = some name := by
  rw [ofText?, dif_pos name.valid]

theorem text_of_ofText? (h : ofText? segment = some name) : name.text = segment := by
  unfold ofText? at h
  split at h
  · cases h
    rfl
  · cases h

/-- The path of a name. -/
theorem segments_text (name : FileName) : Path.segments ⟨name.text⟩ = [name.text] :=
  Path.segments_of_not_mem name.slash_notMem

theorem parts_text (name : FileName) : Path.parts ⟨name.text⟩ = [.name name.text] := by
  rw [Path.parts_eq_cons name.text_ne_nil name.segments_text, ofFirst_text]
  rfl

theorem lead_text (name : FileName) : Path.lead ⟨name.text⟩ = .relative := by
  refine Path.lead_of_forall_name fun part hpart ↦ ?_
  rw [parts_text, List.mem_singleton] at hpart
  exact ⟨_, hpart⟩

theorem isAbsolute_text (name : FileName) : Path.isAbsolute ⟨name.text⟩ = false := by
  simp [Path.isAbsolute, name.lead_text]

end FileName

namespace FileTree

/-! ### Segments -/

/-- Segments are followed one after another. -/
theorem followSegments_append : tree.followSegments place (segments ++ segments') =
    (tree.followSegments place segments).bind fun middle ↦
      tree.followSegments middle segments' := by
  induction segments generalizing place with
  | nil => rfl
  | cons segment segments ih =>
    rw [List.cons_append, followSegments, followSegments]
    cases tree.entry? place with
    | none => rfl
    | some entry =>
      cases entry with
      | file bytes isProgram => rfl
      | directory =>
        cases FileName.ofText? segment with
        | some name =>
          dsimp only
          split
          · rfl
          · exact ih
        | none =>
          dsimp only
          split <;> exact ih

theorem followSegments_append_eq_ok_iff :
    tree.followSegments place (segments ++ segments') = .ok place' ↔
      ∃ middle, tree.followSegments place segments = .ok middle ∧
        tree.followSegments middle segments' = .ok place' := by
  rw [followSegments_append]
  cases tree.followSegments place segments <;> simp [Except.bind]

/-- A step begins at a directory.  It leads to a name in it, to the place above or nowhere else. -/
theorem followSegments_singleton_eq_ok_iff :
    tree.followSegments place [segment] = .ok place' ↔
      tree.entry? place = some .directory ∧
        match FileName.ofText? segment with
        | some name => Text.byteLength segment ≤ maxNameLength ∧ place' = place ++ [name]
        | none => place' = if segment = ['.', '.'] then place.dropLast else place := by
  simp only [followSegments]
  cases tree.entry? place with
  | none => simp
  | some entry =>
    cases entry with
    | file bytes isProgram => simp
    | directory =>
      cases FileName.ofText? segment with
      | some name =>
        dsimp only
        split
        · next h => simp [Nat.not_le.mpr h]
        · next h => simp [Nat.not_lt.mp h, eq_comm]
      | none =>
        dsimp only
        split <;> simp [eq_comm]

theorem followSegments_name_eq_ok_iff (name : FileName) :
    tree.followSegments place [name.text] = .ok place' ↔
      tree.entry? place = some .directory ∧ Text.byteLength name.text ≤ maxNameLength ∧
        place' = place ++ [name] := by
  simp only [followSegments_singleton_eq_ok_iff, name.ofText?_text]

theorem followSegments_empty_eq_ok_iff : tree.followSegments place [[]] = .ok place' ↔
    tree.entry? place = some .directory ∧ place' = place := by
  have hnone : FileName.ofText? [] = none := by decide
  simp [followSegments_singleton_eq_ok_iff, hnone]

/-! ### Paths -/

theorem follow_eq_ok_iff : tree.follow cwd p = .ok place ↔
    p.text ≠ [] ∧ Text.byteLength p.text ≤ maxPathLength ∧
      tree.followSegments (if p.isAbsolute then [] else cwd) p.segments = .ok place := by
  simp only [follow, List.isEmpty_iff]
  split
  · next h => simp [h]
  · next h =>
    split
    · next hlength => simp [Nat.not_le.mpr hlength]
    · next hlength => simp [h, Nat.not_lt.mp hlength]

/-- A path continued by a name is longer. -/
theorem byteLength_lt_join (p : Path) (name : FileName) :
    Text.byteLength p.text < Text.byteLength (p.join ⟨name.text⟩).text := by
  have hpos := Text.byteLength_pos name.text_ne_nil
  by_cases hp : p.text = []
  · rw [Path.join_of_text_eq_nil hp, hp]
    exact hpos
  · obtain ⟨u, sep, hu, hsep, hjoin⟩ := Path.exists_text_join hp name.isAbsolute_text
    have hslash : Text.byteLength ['/'] = 1 := by decide
    rw [hu, hjoin, ← List.singleton_append, Text.byteLength_append, Text.byteLength_append,
      Text.byteLength_append, hslash]
    have hle : Text.byteLength sep ≤ 1 := by
      obtain rfl | rfl := hsep
      · exact Nat.zero_le 1
      · exact Nat.le_of_eq hslash
    dsimp only
    omega

/-- A path continued by a name leads from the directory that the path leads to. -/
theorem follow_join_eq_ok_iff (hp : p.text ≠ []) (name : FileName) :
    tree.follow cwd (p.join ⟨name.text⟩) = .ok place' ↔
      ∃ place, tree.follow cwd p = .ok place ∧ tree.entry? place = some .directory ∧
        Text.byteLength name.text ≤ maxNameLength ∧
        Text.byteLength (p.join ⟨name.text⟩).text ≤ maxPathLength ∧ place' = place ++ [name] := by
  have hname := name.isAbsolute_text
  obtain ⟨u, sep, hu, -, hjoin⟩ := Path.exists_text_join hp hname
  have hne : (p.join ⟨name.text⟩).text ≠ [] := by simp [hjoin]
  obtain ⟨front, extra, hseg, hextra, -, hjoinseg⟩ := Path.exists_segments_join hp hname
  -- the path and the continued path begin with the same segments
  have hfront (start place : Place) (hdirectory : tree.entry? place = some .directory) :
      tree.followSegments start p.segments = .ok place ↔
        tree.followSegments start front = .ok place := by
    rw [hseg]
    obtain rfl | rfl := hextra
    · rw [List.append_nil]
    · simp only [followSegments_append_eq_ok_iff, followSegments_empty_eq_ok_iff]
      constructor
      · rintro ⟨middle, hmiddle, -, rfl⟩
        exact hmiddle
      · exact fun h ↦ ⟨place, h, hdirectory, rfl⟩
  have hlength := byteLength_lt_join p name
  simp only [follow_eq_ok_iff, Path.isAbsolute_join hp hname, hjoinseg, name.segments_text,
    followSegments_append_eq_ok_iff, followSegments_name_eq_ok_iff]
  constructor
  · rintro ⟨-, hle, place, hplace, hdirectory, hnamelength, rfl⟩
    exact ⟨place, ⟨hp, Nat.le_trans (Nat.le_of_lt hlength) hle, (hfront _ _ hdirectory).mpr hplace⟩,
      hdirectory, hnamelength, hle, rfl⟩
  · rintro ⟨place, ⟨-, -, hplace⟩, hdirectory, hnamelength, hle, rfl⟩
    exact ⟨hne, hle, place, (hfront _ _ hdirectory).mp hplace, hdirectory, hnamelength, rfl⟩

end FileTree

end ComponentFile
