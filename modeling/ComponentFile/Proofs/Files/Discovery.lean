import ComponentFile.Files.Discovery
import ComponentFile.Proofs.Files.Rooted
import ComponentFile.Proofs.Path.Name
import ComponentFile.Proofs.Text.Case
import ComponentFile.Proofs.Text.Search
import Mathlib.Data.List.Induction
import Mathlib.Data.List.Nodup

/-!
# What paths stand for

A file that is named stands for itself, and a directory for the component files below it, each of
them once.  A file below a directory is reached by the path of the directory, continued by the names
that lead to the file; it counts unless that path is longer than any path may be.

## Main definitions

* `FileName.IsComponent` : the names with the extension `vue`.
* `FileTree.StandsFor` : the inputs that a path stands for.

## Main results

* `Path.parts_descend`, `Path.descend_injective` : paths that go on through names.
* `FileTree.follow_descend_iff` : where such a path leads.
* `FileTree.mem_inputsOf_iff`, `FileTree.nodup_inputsOf` : a path has exactly the inputs that it
  stands for.
-/

namespace ComponentFile

variable {tree : FileTree} {cwd place place' : Place} {p q : Path} {input : Input}
  {names names' : List FileName} {name : FileName} {entry : Entry}

/-! ### Paths that go on through names -/

namespace Path

theorem descend_concat (p : Path) (names : List FileName) (name : FileName) :
    p.descend (names ++ [name]) = (p.descend names).join ⟨name.text⟩ :=
  List.foldl_append

/-- The parts of a path that goes on through names. -/
theorem parts_descend (p : Path) (names : List FileName) :
    (p.descend names).parts = p.parts ++ names.map fun name ↦ .name name.text := by
  induction names using List.reverseRecOn with
  | nil => simp [descend]
  | append_singleton names name ih =>
    rw [descend_concat, parts_join name.lead_text, ih, name.parts_text]
    simp

theorem descend_injective (p : Path) : Function.Injective p.descend := by
  intro names names' h
  have hparts := congrArg parts h
  rw [parts_descend, parts_descend] at hparts
  refine List.map_injective_iff.mpr ?_ (List.append_cancel_left hparts)
  intro name name' hname
  obtain ⟨text, valid⟩ := name
  obtain ⟨text', valid'⟩ := name'
  cases hname
  rfl

theorem text_descend_ne_nil (hp : p.text ≠ []) (names : List FileName) :
    (p.descend names).text ≠ [] := by
  induction names using List.reverseRecOn with
  | nil => exact hp
  | append_singleton names name ih =>
    obtain ⟨u, sep, -, -, hjoin⟩ := exists_text_join ih name.isAbsolute_text
    rw [descend_concat, hjoin]
    simp

end Path

namespace FileTree

/-- A path that goes on through names leads on from where the path leads. -/
theorem exists_of_follow_descend (hp : p.text ≠ [])
    (h : tree.follow cwd (p.descend names) = .ok place') :
    ∃ place, tree.follow cwd p = .ok place ∧ place' = place ++ names := by
  induction names using List.reverseRecOn generalizing place' with
  | nil => exact ⟨place', h, by simp⟩
  | append_singleton names name ih =>
    rw [Path.descend_concat, follow_join_eq_ok_iff (Path.text_descend_ne_nil hp names)] at h
    obtain ⟨middle, hmiddle, -, -, -, rfl⟩ := h
    obtain ⟨place, hplace, rfl⟩ := ih hmiddle
    exact ⟨place, hplace, by simp⟩

/-- A path that goes on through names to something that is there leads there, unless it or one of
the names is too long. -/
theorem follow_descend_iff (hrooted : tree.IsRooted) (hfollow : tree.follow cwd p = .ok place)
    (hentry : tree.entry? (place ++ names) = some entry) :
    tree.follow cwd (p.descend names) = .ok (place ++ names) ↔
      Text.byteLength (p.descend names).text ≤ maxPathLength ∧
        ∀ name ∈ names, Text.byteLength name.text ≤ maxNameLength := by
  have hp : p.text ≠ [] := (follow_eq_ok_iff.mp hfollow).1
  induction names using List.reverseRecOn generalizing entry with
  | nil =>
    have hlength := (follow_eq_ok_iff.mp hfollow).2.1
    simpa [Path.descend, hfollow] using hlength
  | append_singleton names name ih =>
    have habove := hrooted.entry?_dropLast hentry
    rw [← List.append_assoc, List.dropLast_concat] at habove
    have hlt := byteLength_lt_join (p.descend names) name
    rw [Path.descend_concat, follow_join_eq_ok_iff (Path.text_descend_ne_nil hp names)]
    constructor
    · rintro ⟨middle, hmiddle, -, hname, hlength, heq⟩
      rw [← List.append_assoc, List.append_cancel_right_eq] at heq
      obtain ⟨-, hnames⟩ := (ih habove).mp (heq ▸ hmiddle)
      exact ⟨hlength, by simpa [or_imp, forall_and] using ⟨hnames, hname⟩⟩
    · rintro ⟨hlength, hnames⟩
      simp only [List.mem_append, List.mem_singleton, or_imp, forall_and, forall_eq] at hnames
      have hmiddle := (ih habove).mpr ⟨Nat.le_trans (Nat.le_of_lt hlt) hlength, hnames.1⟩
      exact ⟨_, hmiddle, habove, hnames.2, hlength, by simp⟩

/-- A path leads to something exactly when it can be followed to a place where that is. -/
theorem lookup_eq_ok_iff : tree.lookup cwd p = .ok entry ↔
    ∃ place, tree.follow cwd p = .ok place ∧ tree.entry? place = some entry := by
  rw [lookup]
  cases tree.follow cwd p with
  | error fault => simp
  | ok place =>
    cases hentry : tree.entry? place with
    | none => simp [hentry]
    | some found => simp [hentry]

theorem isDirectory_iff : tree.isDirectory cwd p = true ↔
    ∃ place, tree.follow cwd p = .ok place ∧ tree.entry? place = some .directory := by
  rw [← lookup_eq_ok_iff, isDirectory]
  split
  · next h => simp [h]
  · next h => simpa using h

theorem isFile_iff : tree.isFile cwd p = true ↔
    ∃ place bytes isProgram, tree.follow cwd p = .ok place ∧
      tree.entry? place = some (.file bytes isProgram) ∧ place ∉ tree.devices := by
  have hdevice {place : Place} : (!tree.devices.contains place) = true ↔ place ∉ tree.devices := by
    simp
  rw [isFile]
  split
  · next h => simp [h]
  · next place h =>
    simp only [h, Except.ok.injEq, exists_and_left, exists_eq_left']
    split
    · next bytes isProgram hentry =>
      rw [hdevice]
      exact ⟨fun hregular ↦ ⟨bytes, isProgram, hentry, hregular⟩,
        fun ⟨_, _, _, hregular⟩ ↦ hregular⟩
    · next hentry => exact ⟨nofun, fun ⟨bytes, isProgram, hfile, _⟩ ↦ absurd hfile (hentry _ _)⟩

/-! ### Files below a place -/

theorem below?_eq_some_iff : below? place place' = some names ↔
    names ≠ [] ∧ place' = place ++ names := by
  unfold below?
  split
  · next hfront =>
    obtain ⟨rest, rfl⟩ := List.isPrefixOf_iff_prefix.mp hfront
    rw [List.drop_left, List.append_cancel_left_eq]
    cases rest with
    | nil => simp
    | cons name rest =>
      simp only [Option.some.injEq]
      exact ⟨fun h ↦ ⟨h ▸ List.cons_ne_nil name rest, h⟩, And.right⟩
  · next hfront =>
    simp only [reduceCtorEq, false_iff, not_and]
    rintro - rfl
    exact hfront (List.isPrefixOf_iff_prefix.mpr ⟨names, rfl⟩)

/-- The files below a place are found by the names that lead to them. -/
theorem mem_filesBelow_iff : names ∈ tree.filesBelow place ↔
    names ≠ [] ∧ ∃ bytes isProgram,
      tree.entry? (place ++ names) = some (.file bytes isProgram) := by
  rw [filesBelow, List.mem_filterMap]
  constructor
  · rintro ⟨⟨found, entry⟩, hmem, hnames⟩
    cases entry with
    | directory => cases hnames
    | file bytes isProgram =>
      obtain ⟨hne, rfl⟩ := below?_eq_some_iff.mp hnames
      refine ⟨hne, bytes, isProgram, ?_⟩
      rw [FileTree.entry?, if_neg (by simp [hne]), OrderedMap.get?_eq_some_iff]
      exact hmem
  · rintro ⟨hne, bytes, isProgram, hfile⟩
    rw [FileTree.entry?, if_neg (by simp [hne]), OrderedMap.get?_eq_some_iff] at hfile
    exact ⟨_, hfile, below?_eq_some_iff.mpr ⟨hne, rfl⟩⟩

/-- No file below a place is found twice. -/
theorem nodup_filesBelow (tree : FileTree) (place : Place) : (tree.filesBelow place).Nodup := by
  have hkeys := List.pairwise_map.mp tree.entries.nodup_keys
  refine hkeys.filterMap _ fun found other hne names hnames names' hnames' heq ↦ hne ?_
  obtain ⟨found, _ | ⟨bytes, isProgram⟩⟩ := found
  · cases hnames
  obtain ⟨other, _ | ⟨bytes', isProgram'⟩⟩ := other
  · cases hnames'
  rw [(below?_eq_some_iff.mp hnames).2, (below?_eq_some_iff.mp hnames').2, heq]

end FileTree

/-! ### Extensions -/

/-- The names with the extension `vue`, in any case. -/
def FileName.IsComponent (name : FileName) : Prop :=
  ∃ stem ext, stem ≠ [] ∧ name.text = stem ++ '.' :: ext ∧ Text.lower ext = "vue".toList

theorem Path.isComponent_descend_concat (p : Path) (names : List FileName) (name : FileName) :
    (p.descend (names ++ [name])).isComponent = true ↔ name.IsComponent := by
  have hname : (p.descend (names ++ [name])).fileName? = some name.text := by
    simp [fileName?, parts_descend, ← List.append_assoc]
  rw [isComponent, extension?, hname, Option.bind_some]
  constructor
  · intro h
    by_cases hdot : '.' ∈ name.text
    · obtain ⟨ext, stem, hreverse, hext⟩ :=
        List.eq_append_cons_of_mem (List.mem_reverse.mpr hdot)
      have htext : name.text = stem.reverse ++ '.' :: ext.reverse := by
        rw [← List.reverse_reverse name.text, hreverse]
        simp
      rw [htext, splitName_append (by simpa using hext)] at h
      split at h
      · cases h
      · next hstem => exact ⟨stem.reverse, ext.reverse, hstem, htext, by simpa using h⟩
    · rw [splitName_of_not_mem hdot] at h
      cases h
  · rintro ⟨stem, ext, hstem, htext, hlower⟩
    have hext : '.' ∉ ext := fun hmem ↦ by
      have hdot : '.' ∈ Text.lower ext := Text.toLower_mem_lower hmem
      rw [hlower] at hdot
      exact absurd hdot (by decide)
    rw [htext, splitName_append hext, if_neg hstem]
    simp [hlower]

namespace FileTree

/-! ### Inputs -/

/-- The inputs that a path stands for: the regular file that it leads to, with the path above as its
base, or a regular component file at any depth below the directory that it leads to, with itself as
the base, unless a name or the path that leads there is too long. -/
inductive StandsFor (tree : FileTree) (cwd : Place) (p : Path) : Input → Prop
  | named {place bytes isProgram outer} (hfollow : tree.follow cwd p = .ok place)
      (hfile : tree.entry? place = some (.file bytes isProgram))
      (hregular : place ∉ tree.devices)
      (hparent : p.parent? = some outer) : StandsFor tree cwd p ⟨p, outer⟩
  | below {place names name bytes isProgram} (hfollow : tree.follow cwd p = .ok place)
      (hdirectory : tree.entry? place = some .directory)
      (hfile : tree.entry? (place ++ (names ++ [name])) = some (.file bytes isProgram))
      (hregular : place ++ (names ++ [name]) ∉ tree.devices)
      (hcomponent : name.IsComponent)
      (hpath : Text.byteLength (p.descend (names ++ [name])).text ≤ maxPathLength)
      (hnames : ∀ n ∈ names ++ [name], Text.byteLength n.text ≤ maxNameLength) :
      StandsFor tree cwd p ⟨p.descend (names ++ [name]), p⟩

/-- A path that goes on through names from a directory leads to a regular file where one is and
where the path may lead. -/
theorem isFile_descend_iff (hrooted : tree.IsRooted) (hfollow : tree.follow cwd p = .ok place) :
    tree.isFile cwd (p.descend names) = true ↔
      (∃ bytes isProgram, tree.entry? (place ++ names) = some (.file bytes isProgram)) ∧
        place ++ names ∉ tree.devices ∧
        Text.byteLength (p.descend names).text ≤ maxPathLength ∧
        ∀ name ∈ names, Text.byteLength name.text ≤ maxNameLength := by
  rw [isFile_iff]
  constructor
  · rintro ⟨there, bytes, isProgram, hthere, hfile, hregular⟩
    obtain ⟨start, hstart, rfl⟩ :=
      exists_of_follow_descend (follow_eq_ok_iff.mp hfollow).1 hthere
    obtain rfl := Except.ok.inj (hfollow.symm.trans hstart)
    exact ⟨⟨bytes, isProgram, hfile⟩, hregular,
      (follow_descend_iff hrooted hfollow hfile).mp hthere⟩
  · rintro ⟨⟨bytes, isProgram, hfile⟩, hregular, hlengths⟩
    exact ⟨_, bytes, isProgram, (follow_descend_iff hrooted hfollow hfile).mpr hlengths, hfile,
      hregular⟩

/-- The inputs of a path are those that it stands for. -/
theorem mem_inputsOf_iff (hrooted : tree.IsRooted) :
    input ∈ tree.inputsOf cwd p ↔ tree.StandsFor cwd p input := by
  constructor
  · intro h
    unfold inputsOf at h
    split at h
    · cases h
    · next place hfollow =>
      split at h
      · cases h
      · next hfile =>
        split at h
        · cases h
        · next hregular =>
          obtain rfl := List.mem_singleton.mp h
          obtain ⟨ps, name, hparts⟩ := hrooted.exists_parts_eq hfollow (by simp [hfile])
          obtain ⟨outer, hparent, -⟩ := Path.exists_parent? hparts
          rw [hparent]
          exact .named hfollow hfile (by simpa using hregular) hparent
      · next hdirectory =>
        obtain ⟨hfound, hmatches⟩ := List.mem_filter.mp h
        obtain ⟨names, hnames, rfl⟩ := List.mem_map.mp hfound
        obtain ⟨hne, -⟩ := mem_filesBelow_iff.mp hnames
        obtain ⟨front, name, rfl⟩ := (List.eq_nil_or_concat' names).resolve_left hne
        rw [Bool.and_eq_true, isFile_descend_iff hrooted hfollow,
          Path.isComponent_descend_concat] at hmatches
        obtain ⟨⟨⟨bytes, isProgram, hfile⟩, hregular, hpath, hlengths⟩, hcomponent⟩ := hmatches
        exact .below hfollow hdirectory hfile hregular hcomponent hpath hlengths
  · intro h
    cases h with
    | named hfollow hfile hregular hparent =>
      simp [inputsOf, hfollow, hfile, hregular, hparent]
    | below hfollow hdirectory hfile hregular hcomponent hpath hlengths =>
      simp only [inputsOf, hfollow, hdirectory]
      refine List.mem_filter.mpr ⟨List.mem_map.mpr ⟨_, mem_filesBelow_iff.mpr ⟨?_, _, _, hfile⟩,
        rfl⟩, ?_⟩
      · simp
      · rw [Bool.and_eq_true, isFile_descend_iff hrooted hfollow, Path.isComponent_descend_concat]
        exact ⟨⟨⟨_, _, hfile⟩, hregular, hpath, hlengths⟩, hcomponent⟩

/-- No input of a path is found twice. -/
theorem nodup_inputsOf (tree : FileTree) (cwd : Place) (p : Path) :
    (tree.inputsOf cwd p).Nodup := by
  unfold inputsOf
  split
  · exact List.nodup_nil
  · next place _ =>
    split
    · exact List.nodup_nil
    · split
      · exact List.nodup_nil
      · exact List.nodup_singleton _
    · refine List.Nodup.filter _ ((tree.nodup_filesBelow place).map fun names names' h ↦ ?_)
      exact p.descend_injective (Input.mk.inj h).1

/-- Inputs that are found in the order of their paths stay in that order. -/
theorem findFiles_of_pairwise {paths : List Path} {inputs : List Input}
    (hlistable : paths.all (tree.isListable cwd) = true)
    (hfound : paths.flatMap (tree.inputsOf cwd) = inputs)
    (hsorted : inputs.Pairwise fun x y => x.path.le y.path = true) :
    tree.findFiles cwd paths = .ok inputs := by
  rw [findFiles, if_pos hlistable, listFiles, hfound, List.mergeSort_of_pairwise hsorted]

end FileTree

end ComponentFile
