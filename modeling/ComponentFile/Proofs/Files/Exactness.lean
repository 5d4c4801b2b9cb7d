import ComponentFile.Proofs.Files.Containment
import ComponentFile.Proofs.Files.Walk

/-!
# Exactly the files that paths stand for

Several paths have the inputs that each of them stands for, in the order of their paths.  That fixes
the inputs and their order up to the spelling of paths, whatever the order of the paths and of the
names in the directories.  A path may be spelled with so many detours that no name fits behind it
any more; then nothing is found below it.

## Main definitions

* `FileTree.AreInputsOf` : the inputs that several paths stand for, sorted.
* `Input.SameUpToSpelling` : lists of inputs that differ in the order of equal paths only.
* `Path.detour` : a path that steps on the spot before it sets out.

## Main results

* `FileTree.AreInputsOf.same` : paths in another order have the same inputs.
* `FileTree.findFiles_exact` : these are found, by any walk.
* `FileTree.inputsOf_eq_nil_of_full` : nothing is found below a path that is as long as any may be.
* `FileTree.not_findFiles_complete` : so a directory may have component files that are not found.
-/

namespace ComponentFile

/-- The same inputs, in orders that differ only among paths of the same parts. -/
def Input.SameUpToSpelling (inputs inputs' : List Input) : Prop :=
  inputs.Perm inputs' ∧
    inputs.map (fun input ↦ input.path.parts) = inputs'.map fun input ↦ input.path.parts

variable {tree : FileTree} {cwd place : Place} {p : Path} {paths paths' : List Path}
  {inputs inputs' : List Input}

namespace FileTree

/-! ### What is found -/

/-- The inputs of several paths: what each of them stands for, once for each of them, in the order
of the paths of the inputs. -/
structure AreInputsOf (tree : FileTree) (cwd : Place) (paths : List Path) (inputs : List Input) :
    Prop where
  sorted : inputs.Pairwise fun a b ↦ a.path.le b.path = true
  once : ∃ each : Path → List Input, inputs.Perm (paths.flatMap each) ∧
    ∀ p, (each p).Nodup ∧ ∀ input, input ∈ each p ↔ tree.StandsFor cwd p input

/-- The order of the paths does not matter for their inputs. -/
theorem AreInputsOf.same (h : tree.AreInputsOf cwd paths inputs)
    (h' : tree.AreInputsOf cwd paths' inputs') (hperm : paths'.Perm paths) :
    Input.SameUpToSpelling inputs' inputs := by
  obtain ⟨each, hinputs, heach⟩ := h.once
  obtain ⟨each', hinputs', heach'⟩ := h'.once
  have hsame : ∀ p ∈ paths', (each' p).Perm (each p) := fun p _ ↦
    (List.perm_ext_iff_of_nodup (heach' p).1 (heach p).1).mpr fun input ↦
      ((heach' p).2 input).trans ((heach p).2 input).symm
  have hall : inputs'.Perm inputs :=
    hinputs'.trans <| (List.Perm.flatMap_left paths' hsame).trans <|
      (hperm.flatMap_right each).trans hinputs.symm
  exact ⟨hall, map_parts_eq_of_perm hall h.sorted h'.sorted⟩

theorem areInputsOf_listFiles (hrooted : tree.IsRooted) (cwd : Place) (paths : List Path) :
    tree.AreInputsOf cwd paths (tree.listFiles cwd paths) where
  sorted := pairwise_mergeSort _
  once := ⟨tree.inputsOf cwd, List.mergeSort_perm _ _, fun p ↦
    ⟨nodup_inputsOf tree cwd p, fun _ ↦ mem_inputsOf_iff hrooted⟩⟩

/-- If all directories on the way can be listed, exactly the inputs of the paths are found.  Any
walk, and the paths in any order, find them in the same order up to the spelling of their paths.  If
a directory cannot be listed, nothing is found in any order. -/
theorem findFiles_exact (tree : FileTree) (cwd : Place) (paths : List Path)
    (hrooted : tree.IsRooted) :
    (paths.all (tree.isListable cwd) = true →
      ∃ inputs, tree.findFiles cwd paths = .ok inputs ∧ tree.AreInputsOf cwd paths inputs ∧
        ∀ paths' : List Path, paths'.Perm paths →
          (∃ inputs', tree.findFiles cwd paths' = .ok inputs' ∧
            Input.SameUpToSpelling inputs' inputs) ∧
          ∀ listing : tree.Listing, ∃ inputs', listing.findFiles cwd paths' = .ok inputs' ∧
            Input.SameUpToSpelling inputs' inputs) ∧
    (paths.all (tree.isListable cwd) = false →
      ∀ paths' : List Path, paths'.Perm paths →
        tree.findFiles cwd paths' = .error .permissionDenied ∧
          ∀ listing : tree.Listing, listing.findFiles cwd paths' = .error .permissionDenied) := by
  have hlistable {paths' : List Path} (hperm : paths'.Perm paths) :
      paths'.all (tree.isListable cwd) = paths.all (tree.isListable cwd) :=
    hperm.all_eq
  constructor
  · intro hopen
    have hfound := areInputsOf_listFiles hrooted cwd paths
    refine ⟨tree.listFiles cwd paths, by rw [findFiles, if_pos hopen], hfound,
      fun paths' hperm ↦ ⟨⟨tree.listFiles cwd paths', ?_, ?_⟩, fun listing ↦ ?_⟩⟩
    · rw [findFiles, if_pos ((hlistable hperm).trans hopen)]
    · exact hfound.same (areInputsOf_listFiles hrooted cwd paths') hperm
    · obtain ⟨inputs', hwalk, hperm', hsorted⟩ :=
        listing.exists_findFiles_eq hrooted hperm hopen
      exact ⟨inputs', hwalk, hperm', map_parts_eq_of_perm hperm' hfound.sorted hsorted⟩
  · intro hshut paths' hperm
    refine ⟨?_, fun listing ↦ listing.findFiles_eq_error hrooted hperm hshut⟩
    rw [findFiles, if_neg (by rw [hlistable hperm, hshut]; exact Bool.false_ne_true)]

/-- Paths in the tree of `windingPaths`, and the same tree with a directory that cannot be
listed. -/
theorem nestedTree_findFiles_exact :
    nestedTree.IsRooted ∧
      (∃ inputs, nestedTree.findFiles [] windingPaths = .ok inputs ∧
        nestedTree.AreInputsOf [] windingPaths inputs ∧
        ∃ inputs', (Listing.stored nestedTree).findFiles [] windingPaths.reverse = .ok inputs' ∧
          Input.SameUpToSpelling inputs' inputs) ∧
      (nestedTree.close (Place.ofString "d/e")).findFiles [] windingPaths =
        .error .permissionDenied := by
  have hrooted : nestedTree.IsRooted := by decide +kernel
  obtain ⟨inputs, hfound, hinputs, hsame⟩ :=
    (findFiles_exact nestedTree [] windingPaths hrooted).1 (by decide +kernel)
  refine ⟨hrooted, ⟨inputs, hfound, hinputs,
    (hsame windingPaths.reverse (List.reverse_perm _)).2 (Listing.stored nestedTree)⟩, ?_⟩
  exact ((findFiles_exact (nestedTree.close (Place.ofString "d/e")) [] windingPaths
    (by decide +kernel)).2 (by decide +kernel) windingPaths (.refl _)).1

/-! ### Paths without room behind them -/

theorem byteLength_le_descend (p : Path) (names : List FileName) :
    Text.byteLength p.text ≤ Text.byteLength (p.descend names).text := by
  induction names using List.reverseRecOn with
  | nil => exact Nat.le_refl _
  | append_singleton names name ih =>
    rw [Path.descend_concat]
    exact Nat.le_trans ih (Nat.le_of_lt (byteLength_lt_join _ name))

/-- Nothing is found below a directory whose path is as long as any path may be. -/
theorem inputsOf_eq_nil_of_full (hrooted : tree.IsRooted) (hp : tree.isDirectory cwd p = true)
    (hfull : Text.byteLength p.text = maxPathLength) : tree.inputsOf cwd p = [] := by
  refine List.eq_nil_iff_forall_not_mem.mpr fun input hinput ↦ ?_
  obtain ⟨place, hfollow, hdirectory⟩ := isDirectory_iff.mp hp
  cases (mem_inputsOf_iff hrooted).mp hinput with
  | named hfollow' hfile =>
    obtain rfl := Except.ok.inj (hfollow.symm.trans hfollow')
    rw [hdirectory] at hfile
    cases hfile
  | @below _ names name _ _ _ _ _ _ _ hpath =>
    rw [Path.descend_concat] at hpath
    have hlt := byteLength_lt_join (p.descend names) name
    have hle := byteLength_le_descend p names
    omega

end FileTree

namespace Path

/-- The path that first steps on the spot, `n` times. -/
def detour (p : Path) : ℕ → Path
  | 0 => p
  | n + 1 => ⟨['.'] ++ '/' :: (p.detour n).text⟩

theorem byteLength_detour (p : Path) (n : ℕ) :
    Text.byteLength (p.detour n).text = 2 * n + Text.byteLength p.text := by
  induction n with
  | zero => simp [detour]
  | succ n ih =>
    have hdot : '.'.utf8Size = 1 := by decide
    have hslash : '/'.utf8Size = 1 := by decide
    simp only [detour, Text.byteLength_append, Text.byteLength_cons, Text.byteLength_nil, ih, hdot,
      hslash]
    omega

theorem isAbsolute_detour {p : Path} (hp : p.isAbsolute = false) (n : ℕ) :
    (p.detour n).isAbsolute = false := by
  cases n with
  | zero => exact hp
  | succ n =>
    rw [← Bool.not_eq_true, isAbsolute_iff]
    simp [detour]

end Path

namespace FileTree

/-- A detour leads where the path leads. -/
theorem follow_detour (hcwd : tree.entry? cwd = some .directory) (hp : p.isAbsolute = false)
    (hfollow : tree.follow cwd p = .ok place) {n : ℕ}
    (hlength : Text.byteLength (p.detour n).text ≤ maxPathLength) :
    tree.follow cwd (p.detour n) = .ok place := by
  induction n with
  | zero => exact hfollow
  | succ n ih =>
    have hshorter : Text.byteLength (p.detour n).text ≤ maxPathLength := by
      rw [Path.byteLength_detour] at hlength ⊢
      omega
    obtain ⟨-, -, hsegments⟩ := follow_eq_ok_iff.mp (ih hshorter)
    rw [Path.isAbsolute_detour hp n] at hsegments
    have hdot : tree.followSegments cwd [['.']] = .ok cwd := by
      have hnone : FileName.ofText? ['.'] = none := by decide
      rw [followSegments_singleton_eq_ok_iff, hnone]
      exact ⟨hcwd, rfl⟩
    refine follow_eq_ok_iff.mpr ⟨by simp [Path.detour], hlength, ?_⟩
    rw [Path.isAbsolute_detour hp (n + 1), Path.detour, Path.segments_append_slash,
      Path.segments_of_not_mem (by decide)]
    exact followSegments_append_eq_ok_iff.mpr ⟨cwd, hdot, hsegments⟩

/-- The longest way to the directory `d` of the nested tree. -/
def longWay : Path := Path.detour ⟨['d']⟩ 2047

theorem byteLength_longWay : Text.byteLength longWay.text = maxPathLength := by
  rw [longWay, Path.byteLength_detour]
  decide

theorem nestedTree_follow_longWay :
    nestedTree.follow [] longWay = .ok (Place.ofString "d") :=
  follow_detour rfl (by decide) (by decide +kernel) byteLength_longWay.le

theorem nestedTree_findFiles_longWay : nestedTree.findFiles [] [longWay] = .ok [] := by
  have hdirectory : nestedTree.entry? (Place.ofString "d") = some .directory := by decide +kernel
  have hnone : nestedTree.inputsOf [] longWay = [] :=
    inputsOf_eq_nil_of_full (by decide +kernel)
      (isDirectory_iff.mpr ⟨_, nestedTree_follow_longWay, hdirectory⟩) byteLength_longWay
  have hlistable : nestedTree.isListable [] longWay = true := by
    rw [isListable, nestedTree_follow_longWay]
    rfl
  exact findFiles_of_pairwise (by simp [hlistable]) (by simp [hnone]) List.Pairwise.nil

/-- A directory that is reached by a long detour can be listed, but its component files are not
found; and a directory that cannot be listed makes the whole search fail. -/
theorem not_findFiles_complete :
    (¬ ∀ (tree : FileTree) (cwd : Place) (paths : List Path), tree.IsRooted → tree.closed = [] →
      tree.devices = [] → ∃ inputs, tree.findFiles cwd paths = .ok inputs ∧
        ∀ p ∈ paths, ∀ place, tree.follow cwd p = .ok place →
          tree.entry? place = some .directory → ∀ names name bytes isProgram,
            tree.entry? (place ++ (names ++ [name])) = some (.file bytes isProgram) →
              name.IsComponent → ⟨p.descend (names ++ [name]), p⟩ ∈ inputs) ∧
    ¬ ∀ (tree : FileTree) (cwd : Place) (paths : List Path), tree.IsRooted →
      ∃ inputs, tree.findFiles cwd paths = .ok inputs := by
  constructor
  · intro hcomplete
    obtain ⟨inputs, hfound, hinputs⟩ :=
      hcomplete nestedTree [] [longWay] (by decide +kernel) rfl rfl
    obtain rfl := Except.ok.inj (hfound.symm.trans nestedTree_findFiles_longWay)
    have hmem : ⟨longWay.descend [⟨"A.vue".toList, rfl⟩], longWay⟩ ∈ ([] : List Input) :=
      hinputs longWay (List.mem_singleton_self _) (Place.ofString "d") nestedTree_follow_longWay
        (by decide +kernel) [] ⟨"A.vue".toList, rfl⟩ [] false (by decide +kernel)
        ⟨['A'], "vue".toList, by decide, rfl, by decide⟩
    cases hmem
  · intro htotal
    obtain ⟨inputs, hfound⟩ :=
      htotal (nestedTree.close (Place.ofString "d")) [] [⟨['d']⟩] (by decide +kernel)
    rw [findFiles, if_neg (by decide +kernel)] at hfound
    cases hfound

end FileTree

end ComponentFile
