import ComponentFile.Files.Tree

/-!
# What changes of a file tree keep

Making directories and writing files only adds to a tree: a directory stays a directory, a file
stays a file, and no bytes change but those of the file that is written.  A path that led somewhere
therefore leads to the same place afterwards, whatever came of the attempts in between.

## Main definitions

* `FileTree.Keeps` : one tree has all that another one has, but for the bytes of some files.
* `FileTree.SameFile` : two paths that lead to one place.
* `FileTree.Holds` : a path leads to a file with some bytes.
* `FileTree.IsReadable` : the trees in which all files can be read.

## Main results

* `FileTree.Keeps.follow` : paths lead where they led before.
* `FileTree.keeps_of_makeDirectories` : making directories changes nothing that is there, also when
  it is refused on the way.
* `FileTree.write_eq_ok` : a file that was written holds its bytes, and no other file has changed.
* `FileTree.Holds.read` : what a file holds is read, unless it is closed.
-/

namespace ComponentFile

namespace FileTree

variable {tree before middle after : FileTree} {cwd place other : Place} {p : Path}
  {entry : Entry} {written written' : List Place} {bytes : Bytes}

@[simp] theorem entry?_nil (tree : FileTree) : tree.entry? [] = some .directory := rfl

/-- The entry that was put at a place is found there, all others are as before. -/
theorem entry?_put (hplace : place ≠ []) :
    entry? (tree.put place entry) other =
      if other = place then some entry else tree.entry? other := by
  by_cases h : other = []
  · have hne : other ≠ place := fun heq ↦ hplace (heq ▸ h)
    simp [ entry?, h, hplace.symm]
  · simp [ entry?, put, h, OrderedMap.get?_insert]

/-- All that `before` has is in `after`, and nothing is different but the bytes of the files at the
places `written`.  The same places are closed. -/
structure Keeps (before after : FileTree) (written : List Place) : Prop where
  closed : after.closed = before.closed
  directory : ∀ place, before.entry? place = some .directory →
    after.entry? place = some .directory
  file : ∀ place bytes isProgram, before.entry? place = some (.file bytes isProgram) →
    ∃ new, after.entry? place = some (.file new isProgram) ∧ (place ∉ written → new = bytes)

namespace Keeps

theorem refl (tree : FileTree) : tree.Keeps tree [] :=
  ⟨rfl, fun _ h ↦ h, fun _ bytes _ h ↦ ⟨bytes, h, fun _ ↦ rfl⟩⟩

theorem trans (h : before.Keeps middle written) (h' : middle.Keeps after written') :
    before.Keeps after (written ++ written') where
  closed := h'.closed.trans h.closed
  directory place hplace := h'.directory place (h.directory place hplace)
  file place bytes isProgram hplace := by
    obtain ⟨new, hnew, hkept⟩ := h.file place bytes isProgram hplace
    obtain ⟨newer, hnewer, hkept'⟩ := h'.file place new isProgram hnew
    refine ⟨newer, hnewer, fun hplace ↦ ?_⟩
    rw [List.mem_append, not_or] at hplace
    exact (hkept' hplace.2).trans (hkept hplace.1)

/-- Segments that led somewhere lead to the same place. -/
theorem followSegments (h : before.Keeps after written) {segments : List Text}
    (hbefore : before.followSegments place segments = .ok other) :
    after.followSegments place segments = .ok other := by
  induction segments generalizing place with
  | nil => exact hbefore
  | cons segment rest ih =>
    rw [FileTree.followSegments] at hbefore ⊢
    split at hbefore
    · cases hbefore
    · cases hbefore
    · next hdirectory =>
      rw [h.directory place hdirectory]
      dsimp only
      split at hbefore
      · split at hbefore
        · cases hbefore
        · next hlength => exact (if_neg hlength).trans (ih hbefore)
      · split at hbefore
        · next hup => exact (if_pos hup).trans (ih hbefore)
        · next hup => exact (if_neg hup).trans (ih hbefore)

/-- A path that led somewhere leads to the same place. -/
theorem follow (h : before.Keeps after written) (hbefore : before.follow cwd p = .ok place) :
    after.follow cwd p = .ok place := by
  rw [FileTree.follow] at hbefore ⊢
  split at hbefore
  · cases hbefore
  · next hempty =>
    rw [if_neg hempty]
    split at hbefore
    · cases hbefore
    · next hlength => exact (if_neg hlength).trans (h.followSegments hbefore)

end Keeps

/-! ### Directories -/

/-- Nothing was at the place of a new directory. -/
theorem keeps_put_directory (hnone : tree.entry? place = none) :
    tree.Keeps (tree.put place .directory) [] := by
  have hplace : place ≠ [] := fun h ↦ by simp [h] at hnone
  refine ⟨rfl, ?_, ?_⟩
  · intro other hother
    have hne : other ≠ place := fun h ↦ by simp [h, hnone] at hother
    rw [entry?_put hplace, if_neg hne, hother]
  · intro other bytes isProgram hother
    have hne : other ≠ place := fun h ↦ by simp [h, hnone] at hother
    exact ⟨bytes, by rw [entry?_put hplace, if_neg hne, hother], fun _ ↦ rfl⟩

theorem keeps_of_makeDirectory (h : tree.makeDirectory cwd p = .ok after) :
    tree.Keeps after [] := by
  rw [makeDirectory] at h
  split at h
  · cases h
  · split at h
    · cases h
    · next hnone =>
      split at h
      · cases h
      · cases h
        exact keeps_put_directory hnone

theorem keeps_of_ensureDirectory (h : tree.ensureDirectory cwd p = .ok after) :
    tree.Keeps after [] := by
  rw [ensureDirectory] at h
  split at h
  · next hmade =>
    cases h
    exact keeps_of_makeDirectory hmade
  · split at h
    · cases h
      exact Keeps.refl tree
    · cases h

theorem keeps_makeDirectoriesBelow (above : Nat) :
    tree.Keeps (makeDirectoriesBelow cwd above tree p).tree [] := by
  induction above generalizing p with
  | zero =>
    rw [makeDirectoriesBelow]
    cases h : tree.ensureDirectory cwd p with
    | error fault => exact Keeps.refl tree
    | ok made => exact keeps_of_ensureDirectory h
  | succ above ih =>
    rw [makeDirectoriesBelow]
    split
    · exact Keeps.refl tree
    · split
      · next h => exact keeps_of_ensureDirectory h
      · split
        · exact Keeps.refl tree
        · next outer _ =>
          -- Directories above that were made stay, whether or not the last one is refused.
          rw [Attempt.andThen]
          split
          · cases h : (makeDirectoriesBelow cwd above tree outer).tree.ensureDirectory cwd p with
            | error fault => exact ih
            | ok made => exact ih.trans (keeps_of_ensureDirectory h)
          · exact ih
      · exact Keeps.refl tree

/-- Making directories changes nothing that is there, also when it is refused on the way. -/
theorem keeps_of_makeDirectories {problem : Option Fault}
    (h : tree.makeDirectories cwd p = ⟨after, problem⟩) : tree.Keeps after [] := by
  have hkeeps : tree.Keeps (tree.makeDirectories cwd p).tree [] :=
    keeps_makeDirectoriesBelow (p.parts.length + 1)
  rwa [h] at hkeeps

/-! ### Files -/

/-- A file may be put where a file was, or nothing. -/
theorem keeps_put_file (bytes : Bytes) (isProgram : Bool)
    (hfile : ∀ entry, tree.entry? place = some entry → ∃ old, entry = .file old isProgram) :
    entry? (tree.put place (.file bytes isProgram)) place = some (.file bytes isProgram) ∧
      tree.Keeps (tree.put place (.file bytes isProgram)) [place] := by
  have hplace : place ≠ [] := by
    rintro rfl
    obtain ⟨old, hold⟩ := hfile .directory rfl
    cases hold
  refine ⟨by rw [entry?_put hplace, if_pos rfl], rfl, ?_, ?_⟩
  · intro other hother
    have hne : other ≠ place := by
      rintro rfl
      obtain ⟨old, hold⟩ := hfile .directory hother
      cases hold
    rw [entry?_put hplace, if_neg hne, hother]
  · intro other old wasProgram hother
    by_cases heq : other = place
    · obtain ⟨_, hold⟩ := hfile _ (heq ▸ hother)
      cases hold
      exact ⟨bytes, by rw [entry?_put hplace, if_pos heq],
        fun hwritten ↦ absurd (List.mem_singleton.mpr heq) hwritten⟩
    · exact ⟨old, by rw [entry?_put hplace, if_neg heq, hother], fun _ ↦ rfl⟩

/-- A file that was written is where its path leads and holds its bytes, and nothing else has
changed. -/
theorem write_eq_ok (h : tree.write cwd p bytes = .ok after) :
    ∃ place isProgram, after.follow cwd p = .ok place ∧
      after.entry? place = some (.file bytes isProgram) ∧ tree.Keeps after [place] := by
  rw [write] at h
  split at h
  · cases h
  · next place hfollow =>
    split at h
    · cases h
    · next old isProgram hfile =>
      cases h
      obtain ⟨hbytes, hkeeps⟩ := keeps_put_file bytes isProgram
        fun entry hentry ↦ ⟨old, Option.some.inj (hentry.symm.trans hfile)⟩
      exact ⟨place, isProgram, hkeeps.follow hfollow, hbytes, hkeeps⟩
    · next hnone =>
      split at h
      · cases h
      · cases h
        obtain ⟨hbytes, hkeeps⟩ := keeps_put_file bytes false
          fun entry hentry ↦ nomatch hnone.symm.trans hentry
        exact ⟨place, false, hkeeps.follow hfollow, hbytes, hkeeps⟩

/-! ### Files that two paths lead to -/

/-- Two paths lead to one place. -/
def SameFile (tree : FileTree) (cwd : Place) (p q : Path) : Prop :=
  ∃ place, tree.follow cwd p = .ok place ∧ tree.follow cwd q = .ok place

/-! ### Reading -/

/-- A path leads to a file that holds the given bytes, whether or not it can be read. -/
def Holds (tree : FileTree) (cwd : Place) (p : Path) (bytes : Bytes) : Prop :=
  ∃ place isProgram, tree.follow cwd p = .ok place ∧
    tree.entry? place = some (.file bytes isProgram)

/-- A tree in which every file can be read: only directories are closed. -/
def IsReadable (tree : FileTree) : Prop :=
  ∀ place ∈ tree.closed, tree.entry? place = some .directory

/-- A file holds nothing else. -/
theorem Holds.eq {bytes' : Bytes} (h : tree.Holds cwd p bytes) (h' : tree.Holds cwd p bytes') :
    bytes = bytes' := by
  obtain ⟨place, _, hfollow, hentry⟩ := h
  obtain ⟨place', _, hfollow', hentry'⟩ := h'
  obtain rfl := Except.ok.inj (hfollow.symm.trans hfollow')
  exact (Entry.file.inj (Option.some.inj (hentry.symm.trans hentry'))).1

/-- What a file holds is read where its path leads, unless it is closed. -/
theorem Holds.read (h : tree.Holds cwd p bytes) (hreadable : tree.IsReadable) :
    tree.read cwd p = .ok bytes := by
  obtain ⟨place, isProgram, hfollow, hentry⟩ := h
  have hopen : ¬tree.closed.contains place = true := fun hclosed ↦ by
    cases hentry.symm.trans (hreadable place (List.contains_iff_mem.mp hclosed))
  rw [FileTree.read, hfollow]
  dsimp only
  rw [hentry]
  exact if_neg hopen

/-- What can be read in a tree can be read in every tree that keeps it. -/
theorem Keeps.isReadable (h : before.Keeps after written) (hreadable : before.IsReadable) :
    after.IsReadable := by
  intro place hplace
  rw [h.closed] at hplace
  exact h.directory place (hreadable place hplace)

end FileTree

end ComponentFile
