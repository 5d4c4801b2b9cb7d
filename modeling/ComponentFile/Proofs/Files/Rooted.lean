import ComponentFile.Files.Machine
import ComponentFile.Proofs.Dict
import ComponentFile.Proofs.Files.Following
import ComponentFile.Proofs.Files.Preservation
import Mathlib.Data.List.Induction

/-!
# Rooted trees

In a file tree all entries hang on the root: each of them is in a directory.  A step from a
directory that is no name ends at a directory again, so a path that leads to a file ends with the
name of that file.  The tree of a machine is rooted, and every change leaves it so.

## Main definitions

* `FileTree.IsRooted` : the trees in which every entry is in a directory.

## Main results

* `FileTree.IsRooted.exists_parts_eq` : a path that leads to a file ends with a name.
* `FileTree.IsRooted.makeDirectories`, `FileTree.IsRooted.write` : trees stay rooted.
* `FileTree.isRooted_machine` : the tree of a machine is rooted.
-/

namespace ComponentFile.FileTree

variable {tree after : FileTree} {cwd place : Place} {p : Path} {entry : Entry}
  {names : List FileName} {bytes : Bytes}

/-- Every entry of the tree is in a directory, which hangs on the root itself. -/
def IsRooted (tree : FileTree) : Prop :=
  ∀ place ∈ tree.entries.keys, tree.entry? place.dropLast = some .directory

instance (tree : FileTree) : Decidable tree.IsRooted :=
  inferInstanceAs (Decidable (∀ place ∈ tree.entries.keys, _))

theorem mem_keys_of_eq_some (hplace : place ≠ []) (h : tree.entry? place = some entry) :
    place ∈ tree.entries.keys := by
  by_contra hnot
  rw [FileTree.entry?, if_neg (by simpa using hplace), OrderedMap.get?,
    Entries.get?_of_notMem hnot] at h
  cases h

/-- Above a place where something is there is a directory. -/
theorem IsRooted.entry?_dropLast (hrooted : tree.IsRooted) (h : tree.entry? place = some entry) :
    tree.entry? place.dropLast = some .directory := by
  by_cases hplace : place = []
  · rw [hplace]
    rfl
  · exact hrooted place (mem_keys_of_eq_some hplace h)

/-- Above a place where something is there are directories only. -/
theorem IsRooted.entry?_of_append (hrooted : tree.IsRooted) (hnames : names ≠ [])
    (h : tree.entry? (place ++ names) = some entry) : tree.entry? place = some .directory := by
  induction names using List.reverseRecOn generalizing entry with
  | nil => exact absurd rfl hnames
  | append_singleton names name ih =>
    have habove := hrooted.entry?_dropLast h
    rw [← List.append_assoc, List.dropLast_concat] at habove
    by_cases hnil : names = []
    · simpa [hnil] using habove
    · exact ih hnil habove

/-- A tree stays rooted when something is put into a directory, unless it takes the place of a
directory. -/
theorem IsRooted.put (hrooted : tree.IsRooted)
    (habove : tree.entry? place.dropLast = some .directory)
    (hplace : tree.entry? place ≠ some .directory) : (tree.put place entry).IsRooted := by
  have hne : place ≠ [] := fun h ↦ hplace (h ▸ rfl)
  intro other hother
  have habove' : tree.entry? other.dropLast = some .directory := by
    rw [FileTree.put, OrderedMap.keys_insert] at hother
    split at hother
    · exact hrooted other hother
    · obtain hother | hother := List.mem_append.mp hother
      · exact hrooted other hother
      · exact List.mem_singleton.mp hother ▸ habove
  have hother' : other.dropLast ≠ place := fun h ↦ hplace (h ▸ habove')
  rw [entry?_put hne, if_neg hother', habove']

/-- A path that leads to a place where no directory is ends with a name, and it leads there from a
directory. -/
theorem IsRooted.exists_segments_eq (hrooted : tree.IsRooted)
    (hfollow : tree.follow cwd p = .ok place) (hplace : tree.entry? place ≠ some .directory) :
    ∃ outer name above, p.segments = outer ++ [FileName.text name] ∧ place = above ++ [name] ∧
      tree.entry? above = some .directory := by
  obtain ⟨-, -, hfollow⟩ := follow_eq_ok_iff.mp hfollow
  have hsegments := List.dropLast_append_getLast p.segments_ne_nil
  rw [← hsegments] at hfollow
  obtain ⟨above, -, hlast⟩ := followSegments_append_eq_ok_iff.mp hfollow
  obtain ⟨hdirectory, hstep⟩ := followSegments_singleton_eq_ok_iff.mp hlast
  split at hstep
  · next name hname =>
    obtain ⟨-, rfl⟩ := hstep
    refine ⟨p.segments.dropLast, name, above, ?_, rfl, hdirectory⟩
    rw [FileName.text_of_ofText? hname, hsegments]
  · split at hstep
    · exact absurd (hstep ▸ hrooted.entry?_dropLast hdirectory) hplace
    · exact absurd (hstep ▸ hdirectory) hplace

/-- A path that leads to a file ends with a name. -/
theorem IsRooted.exists_parts_eq (hrooted : tree.IsRooted)
    (hfollow : tree.follow cwd p = .ok place) (hplace : tree.entry? place ≠ some .directory) :
    ∃ ps name, p.parts = ps ++ [.name (FileName.text name)] := by
  obtain ⟨outer, name, -, hsegments, -⟩ := hrooted.exists_segments_eq hfollow hplace
  have hp : p.text ≠ [] := by
    intro hnil
    rw [follow, if_pos (by simp [hnil])] at hfollow
    cases hfollow
  cases outer with
  | nil =>
    rw [Path.parts_eq_cons hp hsegments, FileName.ofFirst_text]
    exact ⟨[], name, rfl⟩
  | cons first outer =>
    rw [List.cons_append] at hsegments
    rw [Path.parts_eq_cons hp hsegments, List.filterMap_append]
    refine ⟨Path.Part.ofFirst first :: outer.filterMap Path.Part.ofSegment?, name, ?_⟩
    simp [FileName.ofSegment?_text]

/-! ### Changes of rooted trees -/

/-- A place to which a path leads and where nothing is, or a file, is in a directory. -/
theorem IsRooted.put_of_follow (hrooted : tree.IsRooted)
    (hfollow : tree.follow cwd p = .ok place) (hplace : tree.entry? place ≠ some .directory) :
    (tree.put place entry).IsRooted := by
  obtain ⟨-, name, above, -, rfl, habove⟩ := hrooted.exists_segments_eq hfollow hplace
  exact hrooted.put (by rwa [List.dropLast_concat]) hplace

theorem IsRooted.ensureDirectory (hrooted : tree.IsRooted)
    (h : tree.ensureDirectory cwd p = .ok after) : after.IsRooted := by
  rw [FileTree.ensureDirectory] at h
  split at h
  · next hmade =>
    cases h
    rw [makeDirectory] at hmade
    split at hmade
    · cases hmade
    · next hfollow =>
      split at hmade
      · cases hmade
      · next hnone =>
        split at hmade <;> cases hmade
        exact hrooted.put_of_follow hfollow (by simp [hnone])
  · split at h <;> cases h
    exact hrooted

theorem IsRooted.makeDirectoriesBelow (hrooted : tree.IsRooted) (above : ℕ) :
    (makeDirectoriesBelow cwd above tree p).tree.IsRooted := by
  have hensure {tree : FileTree} (hrooted : tree.IsRooted) (p : Path) :
      (Attempt.ofResult tree (tree.ensureDirectory cwd p)).tree.IsRooted := by
    cases h : tree.ensureDirectory cwd p with
    | error fault => exact hrooted
    | ok made => exact hrooted.ensureDirectory h
  induction above generalizing p with
  | zero => exact hensure hrooted p
  | succ above ih =>
    rw [FileTree.makeDirectoriesBelow]
    split
    · exact hrooted
    · split
      · next hmade => exact hrooted.ensureDirectory hmade
      · split
        · exact hrooted
        · rw [Attempt.andThen]
          split
          · exact hensure ih p
          · exact ih
      · exact hrooted

/-- Making directories leaves a tree rooted. -/
theorem IsRooted.makeDirectories (hrooted : tree.IsRooted) (cwd : Place) (p : Path) :
    (tree.makeDirectories cwd p).tree.IsRooted :=
  hrooted.makeDirectoriesBelow (p.parts.length + 1)

/-- Writing a file leaves a tree rooted. -/
theorem IsRooted.write (hrooted : tree.IsRooted) (h : tree.write cwd p bytes = .ok after) :
    after.IsRooted := by
  rw [FileTree.write] at h
  split at h
  · cases h
  · next hfollow =>
    split at h
    · cases h
    · next hfile =>
      cases h
      exact hrooted.put_of_follow hfollow (by simp [hfile])
    · next hnone =>
      split at h <;> cases h
      exact hrooted.put_of_follow hfollow (by simp [hnone])

/-! ### The tree of a machine -/

/-- A tree of directories and other entries is rooted if all of them are in these directories. -/
theorem isRooted_ofList {directories closed devices : List Place} {others : List (Place × Entry)}
    (habove : ∀ place ∈ directories ++ others.map Prod.fst,
      place.dropLast = [] ∨ place.dropLast ∈ directories)
    (hothers : ∀ place ∈ others.map Prod.fst, place ∉ directories) :
    IsRooted ⟨.ofList (directories.map (fun place ↦ (place, .directory)) ++ others), closed,
      devices⟩ := by
  have hdirectory : ∀ place ∈ directories,
      (OrderedMap.ofList (directories.map (fun place ↦ (place, Entry.directory)) ++ others)).get?
        place = some .directory := by
    intro place hplace
    obtain ⟨entry, hentry⟩ := OrderedMap.exists_get?_of_mem_keys
      (OrderedMap.mem_keys_ofList.mpr (List.mem_map_of_mem
        (List.mem_append_left others (List.mem_map_of_mem hplace))))
    obtain hmem | hmem := List.mem_append.mp (OrderedMap.mem_of_get?_ofList hentry)
    · obtain ⟨_, -, heq⟩ := List.mem_map.mp hmem
      rw [hentry, (Prod.mk.inj heq).2]
    · exact absurd hplace (hothers place (List.mem_map_of_mem hmem))
  intro place hplace
  rw [OrderedMap.mem_keys_ofList, List.map_append, List.map_map] at hplace
  rw [FileTree.entry?]
  split
  · rfl
  · next hroot =>
    refine hdirectory _ ((habove place ?_).resolve_left (by simpa using hroot))
    simpa using hplace

/-- The tree of a machine is rooted. -/
theorem isRooted_machine : machine.IsRooted := by
  have habove : ∀ place ∈ machinePlaces ++ devicePlaces,
      place.dropLast = [] ∨ place.dropLast ∈ machinePlaces := by decide +kernel
  have hdevices : ∀ place ∈ devicePlaces, place ∉ machinePlaces := by decide +kernel
  -- programs are in directories that hold no other directory
  have htools : ∀ place ∈ toolPlaces, place ∈ machinePlaces := by decide +kernel
  have hprograms : ∀ place ∈ machinePlaces, place.dropLast ∉ toolPlaces := by decide +kernel
  rw [machine, List.append_assoc]
  generalize toolNames.map _ ++ scriptTools.map _ = files
  have hothers : ∀ place ∈ (devicePlaces.map (fun place ↦ (place, Entry.file [] false)) ++
      toolPlaces.flatMap fun directory ↦ files.filterMap fun file ↦
        (FileName.ofText? file.1).map fun name ↦
          (directory ++ [name], Entry.file file.2 true)).map Prod.fst,
      place ∈ devicePlaces ∨ place.dropLast ∈ toolPlaces := by
    intro place hplace
    rw [List.map_append, List.mem_append] at hplace
    refine hplace.imp (fun hdevice ↦ by simpa using hdevice) fun hprogram ↦ ?_
    obtain ⟨_, hentry, rfl⟩ := List.mem_map.mp hprogram
    obtain ⟨directory, hdirectory, hentry⟩ := List.mem_flatMap.mp hentry
    obtain ⟨_, -, hname⟩ := List.mem_filterMap.mp hentry
    obtain ⟨name, -, rfl⟩ := Option.map_eq_some_iff.mp hname
    simpa using hdirectory
  refine isRooted_ofList (fun place hplace ↦ ?_) fun place hplace ↦ ?_
  · obtain hmachine | hother := List.mem_append.mp hplace
    · exact habove place (List.mem_append_left _ hmachine)
    · exact (hothers place hother).elim (fun h ↦ habove place (List.mem_append_right _ h))
        fun h ↦ .inr (htools _ h)
  · exact (hothers place hplace).elim (hdevices place) fun h hmachine ↦ hprograms place hmachine h

end ComponentFile.FileTree
