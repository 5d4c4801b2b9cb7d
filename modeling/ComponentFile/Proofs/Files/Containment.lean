import ComponentFile.Files.Machine
import ComponentFile.Proofs.Files.Discovery

/-!
# Output paths stay below the output directory

The base of an input is the directory above a file that was named, or the directory in which a file
was found.  In either case the parts of the base come first in the path of the input, and what
remains is names only.  Put behind an output directory, these names lead to a place below it.

## Main definitions

* `Document.IsContained` : a document whose path lies below its base.

## Main results

* `FileTree.StandsFor.exists_parts_eq` : the path of an input is its base and names.
* `Document.isContained_of_parts_eq` : such a document lies below its base.
* `FileTree.isContained_of_findFiles` : so do all files that are found.
-/

namespace ComponentFile

variable {tree : FileTree} {cwd place : Place} {p : Path} {input : Input} {inputs : List Input}
  {paths : List Path} {d : Document}

/-- The path of an input has the parts of its base and then names, at least one. -/
theorem FileTree.StandsFor.exists_parts_eq (h : tree.StandsFor cwd p input)
    (hrooted : tree.IsRooted) :
    ∃ names : List FileName, names ≠ [] ∧
      input.path.parts = input.base.parts ++ names.map fun name ↦ .name name.text := by
  cases h with
  | named hfollow hfile _ hparent =>
    obtain ⟨ps, name, hparts⟩ := hrooted.exists_parts_eq hfollow (by simp [hfile])
    obtain ⟨outer, houter, rfl⟩ := Path.exists_parent? hparts
    obtain rfl := Option.some.inj (hparent.symm.trans houter)
    exact ⟨[name], by simp, hparts⟩
  | @below _ names name => exact ⟨names ++ [name], by simp, p.parts_descend _⟩

/-- A document lies below its base: the parts of its path are those of its base and then names, at
least one, which make up its relative path, and behind another directory that path has these parts,
too. -/
structure Document.IsContained (d : Document) : Prop where
  base_isPrefix : d.base.parts <+: d.path.parts
  relative_ne_nil : d.relative.parts ≠ []
  relative_isAbsolute : d.relative.isAbsolute = false
  names : ∀ part ∈ d.relative.parts, ∃ name : FileName, part = .name name.text
  base_join : (d.base.join d.relative).parts = d.path.parts
  join : ∀ directory : Path, (directory.join d.relative).parts = directory.parts ++ d.relative.parts

/-- A document whose path is its base and names lies below its base. -/
theorem Document.isContained_of_parts_eq {names : List FileName} (hne : names ≠ [])
    (h : d.path.parts = d.base.parts ++ names.map fun name ↦ .name name.text) :
    d.IsContained := by
  have hfront : d.base.parts <+: d.path.parts := ⟨_, h.symm⟩
  have hrelative : d.relative.parts = names.map fun name ↦ .name name.text := by
    have hparts := Path.parts_relativeTo hfront
    rw [h] at hparts
    exact List.append_cancel_left hparts
  have hnames : ∀ part ∈ d.relative.parts, ∃ name : FileName, part = .name name.text := by
    rw [hrelative]
    intro part hpart
    obtain ⟨name, -, rfl⟩ := List.mem_map.mp hpart
    exact ⟨name, rfl⟩
  have hlead : d.relative.lead = .relative := Path.lead_of_forall_name fun part hpart ↦ by
    obtain ⟨name, hname⟩ := hnames part hpart
    exact ⟨name.text, hname⟩
  refine ⟨hfront, by simpa [hrelative] using hne, by simp [Path.isAbsolute, hlead], hnames, ?_,
    fun directory ↦ Path.parts_join hlead⟩
  rw [Path.parts_join hlead, hrelative, h]

namespace FileTree

/-- Every file that is found lies below its base, however the paths were spelled. -/
theorem isContained_of_findFiles (tree : FileTree) (cwd : Place) (paths : List Path)
    (inputs : List Input) (hrooted : tree.IsRooted) (h : tree.findFiles cwd paths = .ok inputs) :
    ∀ input ∈ inputs, ∀ contents,
      Document.IsContained ⟨input.path, input.base, contents⟩ := by
  intro input hinput contents
  rw [findFiles] at h
  split at h
  · obtain rfl := Except.ok.inj h
    obtain ⟨p, -, hp⟩ := List.mem_flatMap.mp (List.mem_mergeSort.mp hinput)
    obtain ⟨names, hne, hparts⟩ := ((mem_inputsOf_iff hrooted).mp hp).exists_parts_eq hrooted
    exact Document.isContained_of_parts_eq hne hparts
  · cases h

/-- A tree with two component files, one of them below the directory of the other. -/
def nestedTree : FileTree :=
  ⟨.ofList [(Place.ofString "d", .directory), (Place.ofString "d/A.vue", .file [] false),
    (Place.ofString "d/e", .directory), (Place.ofString "d/e/b.VUE", .file [] false)], [], []⟩

/-- Paths with detours to the files and the directory. -/
def windingPaths : List Path :=
  [⟨"/d//e/b.VUE".toList⟩, ⟨"../d/A.vue".toList⟩, ⟨"d/../d/.".toList⟩]

/-- The files that are found there. -/
def windingInputs : List Input :=
  [⟨⟨"/d//e/b.VUE".toList⟩, ⟨"/d//e".toList⟩⟩, ⟨⟨"../d/A.vue".toList⟩, ⟨"../d".toList⟩⟩,
    ⟨⟨"d/../d/./A.vue".toList⟩, ⟨"d/../d/.".toList⟩⟩,
    ⟨⟨"d/../d/./e/b.VUE".toList⟩, ⟨"d/../d/.".toList⟩⟩]

theorem nestedTree_isContained_of_findFiles :
    (nestedTree.IsRooted ∧ nestedTree.findFiles [] windingPaths = .ok windingInputs) ∧
      Document.IsContained ⟨⟨"d/../d/./e/b.VUE".toList⟩, ⟨"d/../d/.".toList⟩, .absent⟩ ∧
      Document.relative ⟨⟨"d/../d/./e/b.VUE".toList⟩, ⟨"d/../d/.".toList⟩, .absent⟩ =
        ⟨"e/b.VUE".toList⟩ := by
  have hrooted : nestedTree.IsRooted := by decide +kernel
  have hfound : nestedTree.findFiles [] windingPaths = .ok windingInputs :=
    findFiles_of_pairwise (by decide +kernel) (by decide +kernel) (by decide +kernel)
  have hdeep : ⟨⟨"d/../d/./e/b.VUE".toList⟩, ⟨"d/../d/.".toList⟩⟩ ∈ windingInputs := by decide
  have hcontained :=
    isContained_of_findFiles nestedTree [] windingPaths windingInputs hrooted hfound
  exact ⟨⟨hrooted, hfound⟩, hcontained _ hdeep .absent, by decide +kernel⟩

end FileTree

end ComponentFile
