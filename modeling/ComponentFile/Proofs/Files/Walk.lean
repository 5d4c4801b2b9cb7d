import ComponentFile.Proofs.Files.Discovery
import ComponentFile.Proofs.Path.Order

/-!
# Walking directories

Component files can be found by a walk that lists one directory after another, in whatever order
their names come, and goes on into every directory among them.  It fails as soon as a directory
cannot be listed.  A directory further down has a longer path, and no path is longer than the
longest one that may be followed; so the walk comes to an end.  It finds what a look at all entries
of the tree finds.

## Main definitions

* `FileTree.Listing` : the orders in which the names in the directories are listed.
* `FileTree.Listing.walk` : the component files that a walk from a path finds.
* `FileTree.Listing.findFiles` : those that several paths stand for, in the order of their paths.

## Main results

* `FileTree.Listing.finds_walk` : a walk finds every file once, or fails.
* `FileTree.Listing.exists_findFiles_eq` : walks in any order from paths in any order find the same.
-/

namespace ComponentFile

/-- What is found for each element of a list, one after another, unless something fails. -/
def collect {α β ε : Type} (f : α → Except ε (List β)) : List α → Except ε (List β)
  | [] => .ok []
  | a :: as =>
    match f a with
    | .error e => .error e
    | .ok bs =>
      match collect f as with
      | .error e => .error e
      | .ok rest => .ok (bs ++ rest)

section Collect

variable {α β ε : Type} {f : α → Except ε (List β)} {g : α → List β} {l : List α} {e : ε}

/-- What is found one after another, each time in some order. -/
theorem exists_collect_eq (h : ∀ a ∈ l, ∃ found, f a = .ok found ∧ found.Perm (g a)) :
    ∃ found, collect f l = .ok found ∧ found.Perm (l.flatMap g) := by
  induction l with
  | nil => exact ⟨[], rfl, .refl _⟩
  | cons a as ih =>
    obtain ⟨found, hfound, hperm⟩ := h a List.mem_cons_self
    obtain ⟨rest, hrest, hperm'⟩ := ih fun a ha ↦ h a (List.mem_cons_of_mem _ ha)
    exact ⟨found ++ rest, by rw [collect, hfound, hrest], hperm.append hperm'⟩

/-- If there is one fault only, it is the result wherever it occurs. -/
theorem collect_eq_error (h : ∀ a ∈ l, f a = .error e ∨ ∃ found, f a = .ok found)
    (hfault : ∃ a ∈ l, f a = .error e) : collect f l = .error e := by
  induction l with
  | nil => simp at hfault
  | cons a as ih =>
    obtain hfail | ⟨found, hfound⟩ := h a List.mem_cons_self
    · rw [collect, hfail]
    · have hrest : ∃ a ∈ as, f a = .error e := by simpa [hfound] using hfault
      rw [collect, hfound, ih (fun a ha ↦ h a (List.mem_cons_of_mem _ ha)) hrest]

end Collect

/-- A search finds each thing with a property once, unless something is in its way. -/
def Finds {β ε : Type} (result : Except ε (List β)) (blocked : Prop) (e : ε) (P : β → Prop) :
    Prop :=
  (blocked ∧ result = .error e) ∨
    (¬blocked ∧ ∃ found, result = .ok found ∧ found.Nodup ∧ ∀ b, b ∈ found ↔ P b)

theorem Finds.congr {β ε : Type} {result : Except ε (List β)} {blocked blocked' : Prop} {e : ε}
    {P P' : β → Prop} (h : Finds result blocked e P) (hblocked : blocked ↔ blocked')
    (hP : ∀ b, P b ↔ P' b) : Finds result blocked' e P' := by
  simpa only [Finds, hblocked, hP] using h

/-- Searches for different things, one after another, find what each of them finds. -/
theorem Finds.collect {α β ε : Type} {f : α → Except ε (List β)} {l : List α} {Blocked : α → Prop}
    {e : ε} {P : α → β → Prop} (h : ∀ a ∈ l, Finds (f a) (Blocked a) e (P a)) (hl : l.Nodup)
    (hP : ∀ a a' b, P a b → P a' b → a = a') :
    Finds (collect f l) (∃ a ∈ l, Blocked a) e fun b ↦ ∃ a ∈ l, P a b := by
  induction l with
  | nil => exact .inr ⟨by simp, [], rfl, List.nodup_nil, by simp⟩
  | cons a as ih =>
    obtain ⟨hnot, hl⟩ := List.nodup_cons.mp hl
    have hrest := ih (fun a ha ↦ h a (List.mem_cons_of_mem _ ha)) hl
    simp only [Finds, ComponentFile.collect, List.exists_mem_cons_iff]
    obtain ⟨hblocked, hfail⟩ | ⟨hfree, found, hfound, hnodup, hmem⟩ := h a List.mem_cons_self
    · exact .inl ⟨.inl hblocked, by rw [hfail]⟩
    obtain ⟨hblocked, hfail⟩ | ⟨hfree', found', hfound', hnodup', hmem'⟩ := hrest
    · exact .inl ⟨.inr hblocked, by rw [hfound, hfail]⟩
    refine .inr ⟨not_or.mpr ⟨hfree, hfree'⟩, found ++ found', by rw [hfound, hfound'], ?_, ?_⟩
    · refine List.nodup_append.mpr ⟨hnodup, hnodup', fun b hb b' hb' heq ↦ ?_⟩
      obtain ⟨a', ha', hPa'⟩ := (hmem' b').mp hb'
      exact hnot (hP a a' b ((hmem b).mp hb) (heq ▸ hPa') ▸ ha')
    · intro b
      rw [List.mem_append, hmem, hmem']

namespace FileTree

/-- The names in each directory that can be listed, in the order in which they are listed. -/
structure Listing (tree : FileTree) where
  names : Place → List FileName
  nodup : ∀ place, (names place).Nodup
  mem_iff : ∀ place name, place ∉ tree.closed →
    (name ∈ names place ↔ (tree.entry? (place ++ [name])).isSome = true)

variable {tree : FileTree} {cwd place : Place} {p directory : Path} {paths paths' : List Path}
  {input : Input} {name : FileName}

theorem byteLength_le_of_isDirectory (h : tree.isDirectory cwd p = true) :
    Text.byteLength p.text ≤ maxPathLength := by
  obtain ⟨place, hfollow, -⟩ := isDirectory_iff.mp h
  exact (follow_eq_ok_iff.mp hfollow).2.1

/-- The last name of a place is the name in the directory above. -/
theorem nameIn_eq_some_iff {there : Place} :
    (if place.isPrefixOf there && there.length = place.length + 1 then there.getLast? else none) =
      some name ↔ there = place ++ [name] := by
  constructor
  · intro h
    split at h
    · next hcond =>
      simp only [Bool.and_eq_true, decide_eq_true_eq, List.isPrefixOf_iff_prefix] at hcond
      obtain ⟨⟨rest, rfl⟩, hlength⟩ := hcond
      obtain ⟨last, rfl⟩ := List.length_eq_one_iff.mp (by simpa using hlength)
      simpa using h
    · cases h
  · rintro rfl
    simp [List.isPrefixOf_iff_prefix]

/-- No name is in a directory twice. -/
theorem nodup_namesIn (tree : FileTree) (place : Place) : (tree.namesIn place).Nodup := by
  rw [namesIn]
  split
  · exact List.nodup_nil
  · refine (List.pairwise_map.mp tree.entries.nodup_keys).filterMap _ ?_
    intro found other hne name hname name' hname' heq
    exact hne ((nameIn_eq_some_iff.mp hname).trans (heq ▸ (nameIn_eq_some_iff.mp hname').symm))

/-- A name is in a directory when something is there under it. -/
theorem mem_namesIn_iff (hopen : place ∉ tree.closed) :
    name ∈ tree.namesIn place ↔ (tree.entry? (place ++ [name])).isSome = true := by
  rw [namesIn, if_neg (by simpa using hopen), entry?, if_neg (by simp), List.mem_filterMap]
  constructor
  · rintro ⟨⟨there, entry⟩, hmem, hname⟩
    obtain rfl := nameIn_eq_some_iff.mp hname
    rw [OrderedMap.get?_eq_some_iff.mpr hmem]
    rfl
  · intro h
    obtain ⟨entry, hentry⟩ := Option.isSome_iff_exists.mp h
    exact ⟨_, OrderedMap.get?_eq_some_iff.mp hentry, nameIn_eq_some_iff.mpr rfl⟩

namespace Listing

/-- Names are listed in the order in which the tree holds them. -/
def stored (tree : FileTree) : tree.Listing where
  names := tree.namesIn
  nodup := tree.nodup_namesIn
  mem_iff _ _ := mem_namesIn_iff

/-- The component files that a walk from a directory finds: those among its names, and those that
walks from the directories among its names find. -/
def walk (listing : tree.Listing) (cwd : Place) (directory : Path) : Except Fault (List Path) :=
  match tree.follow cwd directory with
  | .error fault => .error fault
  | .ok place =>
    if place ∈ tree.closed then .error .permissionDenied
    else
      collect (fun name =>
        let below := directory.join ⟨name.text⟩
        if _h : tree.isDirectory cwd below = true then listing.walk cwd below
        else if tree.isFile cwd below && below.isComponent then .ok [below]
        else .ok []) (listing.names place)
termination_by maxPathLength - Text.byteLength directory.text
decreasing_by
  have hlt := byteLength_lt_join directory name
  have hle : Text.byteLength (directory.join ⟨name.text⟩).text ≤ maxPathLength :=
    byteLength_le_of_isDirectory _h
  omega

/-- The inputs that a path stands for, as a walk finds them. -/
def inputsOf (listing : tree.Listing) (cwd : Place) (p : Path) : Except Fault (List Input) :=
  if tree.isDirectory cwd p then
    (listing.walk cwd p).map fun found => found.map fun path => ⟨path, p⟩
  else if tree.isFile cwd p then .ok [⟨p, p.parent?.getD ⟨[]⟩⟩]
  else .ok []

/-- The inputs that several paths stand for, as walks find them, in the order of their paths. -/
def findFiles (listing : tree.Listing) (cwd : Place) (paths : List Path) :
    Except Fault (List Input) :=
  (collect (listing.inputsOf cwd) paths).map fun inputs =>
    inputs.mergeSort fun a b => a.path.le b.path

/-- What a walk finds at one of the names in a directory. -/
def walkName (listing : tree.Listing) (cwd : Place) (directory : Path) (name : FileName) :
    Except Fault (List Path) :=
  let below := directory.join ⟨name.text⟩
  if tree.isDirectory cwd below then listing.walk cwd below
  else if tree.isFile cwd below && below.isComponent then .ok [below]
  else .ok []

theorem walk_of_follow (listing : tree.Listing) (hfollow : tree.follow cwd directory = .ok place) :
    listing.walk cwd directory =
      if place ∈ tree.closed then .error .permissionDenied
      else collect (listing.walkName cwd directory) (listing.names place) := by
  rw [walk, hfollow]
  simp only [dite_eq_ite]
  rfl

end Listing

/-! ### Paths into directories -/

/-- What holds of a directory if it holds of all directories in it holds of every directory. -/
theorem directory_induction (tree : FileTree) (cwd : Place) {motive : Path → Prop}
    (step : ∀ directory : Path, (∀ name : FileName,
      tree.isDirectory cwd (directory.join ⟨name.text⟩) = true →
        motive (directory.join ⟨name.text⟩)) → motive directory)
    (directory : Path) : motive directory :=
  step directory fun name _ ↦ directory_induction tree cwd step (directory.join ⟨name.text⟩)
termination_by maxPathLength - Text.byteLength directory.text
decreasing_by
  have hlt := byteLength_lt_join directory name
  have hle : Text.byteLength (directory.join ⟨name.text⟩).text ≤ maxPathLength :=
    byteLength_le_of_isDirectory ‹_›
  omega

/-- A path that goes on to something goes on from a directory. -/
theorem isDirectory_of_lookup_descend {names : List FileName} {entry : Entry}
    (hrooted : tree.IsRooted) (hp : p.text ≠ []) (hnames : names ≠ [])
    (h : tree.lookup cwd (p.descend names) = .ok entry) : tree.isDirectory cwd p = true := by
  obtain ⟨there, hthere, hentry⟩ := lookup_eq_ok_iff.mp h
  obtain ⟨place, hplace, rfl⟩ := exists_of_follow_descend hp hthere
  exact isDirectory_iff.mpr ⟨place, hplace, hrooted.entry?_of_append hnames hentry⟩

/-- A directory among the names of a directory is listed there. -/
theorem follow_join_of_isDirectory (hfollow : tree.follow cwd directory = .ok place)
    (h : tree.isDirectory cwd (directory.join ⟨name.text⟩) = true) :
    tree.follow cwd (directory.join ⟨name.text⟩) = .ok (place ++ [name]) ∧
      tree.entry? (place ++ [name]) = some .directory := by
  obtain ⟨there, hthere, hentry⟩ := isDirectory_iff.mp h
  obtain ⟨start, hstart, -, -, -, rfl⟩ :=
    (follow_join_eq_ok_iff (follow_eq_ok_iff.mp hfollow).1 name).mp hthere
  obtain rfl := Except.ok.inj (hfollow.symm.trans hstart)
  exact ⟨hthere, hentry⟩

/-! ### Directories that cannot be listed -/

/-- A walk from a path comes to a directory that cannot be listed. -/
theorem isListable_eq_false_iff (hfollow : tree.follow cwd p = .ok place) :
    tree.isListable cwd p = false ↔
      ∃ names, place ++ names ∈ tree.closed ∧ tree.isDirectory cwd (p.descend names) = true := by
  simp only [isListable, hfollow, List.all_eq_false, Bool.not_eq_true, Bool.not_eq_false',
    Bool.and_eq_true, List.isPrefixOf_iff_prefix]
  constructor
  · rintro ⟨shut, hshut, ⟨names, rfl⟩, hdirectory⟩
    exact ⟨names, hshut, by simpa using hdirectory⟩
  · rintro ⟨names, hshut, hdirectory⟩
    exact ⟨_, hshut, ⟨names, rfl⟩, by simpa using hdirectory⟩

/-- A directory cannot be walked through if it, or a directory in it, cannot. -/
theorem isListable_eq_false_iff_step (hrooted : tree.IsRooted) (listing : tree.Listing)
    (hfollow : tree.follow cwd directory = .ok place)
    (hdirectory : tree.entry? place = some .directory) :
    tree.isListable cwd directory = false ↔ place ∈ tree.closed ∨
      ∃ name ∈ listing.names place, tree.isDirectory cwd (directory.join ⟨name.text⟩) = true ∧
        tree.isListable cwd (directory.join ⟨name.text⟩) = false := by
  have hne : directory.text ≠ [] := (follow_eq_ok_iff.mp hfollow).1
  rw [isListable_eq_false_iff hfollow]
  constructor
  · rintro ⟨names, hshut, hnames⟩
    cases names with
    | nil => exact .inl (by simpa using hshut)
    | cons name rest =>
      by_cases hhere : place ∈ tree.closed
      · exact .inl hhere
      have hbelow : tree.isDirectory cwd (directory.join ⟨name.text⟩) = true := by
        cases rest with
        | nil => exact hnames
        | cons second rest =>
          obtain ⟨there, hthere, hentry⟩ := isDirectory_iff.mp hnames
          exact isDirectory_of_lookup_descend hrooted (Path.text_descend_ne_nil hne [name])
            (List.cons_ne_nil second rest) (lookup_eq_ok_iff.mpr ⟨there, hthere, hentry⟩)
      obtain ⟨hfollow', hentry'⟩ := follow_join_of_isDirectory hfollow hbelow
      refine .inr ⟨name, (listing.mem_iff place name hhere).mpr (by simp [hentry']), hbelow, ?_⟩
      exact (isListable_eq_false_iff hfollow').mpr ⟨rest, by simpa using hshut, hnames⟩
  · rintro (hshut | ⟨name, -, hbelow, hlistable⟩)
    · exact ⟨[], by simpa using hshut, isDirectory_iff.mpr ⟨place, hfollow, hdirectory⟩⟩
    · obtain ⟨hfollow', -⟩ := follow_join_of_isDirectory hfollow hbelow
      obtain ⟨rest, hshut, hnames⟩ := (isListable_eq_false_iff hfollow').mp hlistable
      exact ⟨name :: rest, by simpa using hshut, hnames⟩

/-! ### What a walk finds -/

/-- The path goes on through names to a component file. -/
def LeadsOn (tree : FileTree) (cwd : Place) (p : Path) (names : List FileName) (path : Path) :
    Prop :=
  path = p.descend names ∧ tree.isFile cwd path = true ∧ path.isComponent = true

/-- A component file is one of the names of a directory, or it is found in a directory among these
names. -/
theorem exists_leadsOn_iff (hrooted : tree.IsRooted) (hne : directory.text ≠ []) (path : Path) :
    (∃ rest, tree.LeadsOn cwd directory (name :: rest) path) ↔
      if tree.isDirectory cwd (directory.join ⟨name.text⟩) = true then
        ∃ rest, rest ≠ [] ∧ tree.LeadsOn cwd (directory.join ⟨name.text⟩) rest path
      else path = directory.join ⟨name.text⟩ ∧ tree.isFile cwd path = true ∧
        path.isComponent = true := by
  have hsame (rest : List FileName) : tree.LeadsOn cwd directory (name :: rest) path ↔
      tree.LeadsOn cwd (directory.join ⟨name.text⟩) rest path := Iff.rfl
  simp only [hsame]
  split
  · next hdirectory =>
    refine ⟨fun ⟨rest, hrest⟩ ↦ ⟨rest, ?_, hrest⟩, fun ⟨rest, _, hrest⟩ ↦ ⟨rest, hrest⟩⟩
    rintro rfl
    obtain ⟨rfl, hfile, -⟩ := hrest
    -- what is a directory is not a file
    obtain ⟨_, hthere, hentry⟩ := isDirectory_iff.mp hdirectory
    obtain ⟨_, _, _, hthere', hentry', -⟩ := isFile_iff.mp hfile
    obtain rfl := Except.ok.inj (hthere.symm.trans hthere')
    rw [hentry] at hentry'
    cases hentry'
  · next hdirectory =>
    constructor
    · rintro ⟨rest, rfl, hfile, hcomponent⟩
      cases rest with
      | nil => exact ⟨rfl, hfile, hcomponent⟩
      | cons second rest =>
        obtain ⟨there, bytes, isProgram, hthere, hentry, -⟩ := isFile_iff.mp hfile
        exact absurd (isDirectory_of_lookup_descend hrooted
          (Path.text_descend_ne_nil hne [name]) (List.cons_ne_nil second rest)
          (lookup_eq_ok_iff.mpr ⟨there, hthere, hentry⟩)) hdirectory
    · exact fun h ↦ ⟨[], h⟩

/-- The first of the names that lead from a directory to a file is listed there. -/
theorem Listing.mem_names_of_leadsOn (listing : tree.Listing) (hrooted : tree.IsRooted)
    (hfollow : tree.follow cwd directory = .ok place) (hopen : place ∉ tree.closed)
    {rest : List FileName} {path : Path} (h : tree.LeadsOn cwd directory (name :: rest) path) :
    name ∈ listing.names place := by
  obtain ⟨rfl, hfile, -⟩ := h
  obtain ⟨⟨bytes, isProgram, hentry⟩, -⟩ := (isFile_descend_iff hrooted hfollow).mp hfile
  rw [listing.mem_iff place name hopen]
  rw [List.append_cons] at hentry
  cases rest with
  | nil => simp_all
  | cons second rest =>
    rw [hrooted.entry?_of_append (List.cons_ne_nil second rest) hentry]
    rfl

/-- A walk from a directory finds every component file below it once, unless it comes to a directory
that cannot be listed. -/
theorem Listing.finds_walk (listing : tree.Listing) (hrooted : tree.IsRooted)
    (h : tree.isDirectory cwd directory = true) :
    Finds (listing.walk cwd directory) (tree.isListable cwd directory = false)
      Fault.permissionDenied fun path ↦
        ∃ names, names ≠ [] ∧ tree.LeadsOn cwd directory names path := by
  induction directory using directory_induction tree cwd with
  | step directory ih =>
    obtain ⟨place, hfollow, hdirectory⟩ := isDirectory_iff.mp h
    have hne : directory.text ≠ [] := (follow_eq_ok_iff.mp hfollow).1
    have hlistable := isListable_eq_false_iff_step hrooted listing hfollow hdirectory
    rw [listing.walk_of_follow hfollow]
    split
    · next hshut => exact .inl ⟨hlistable.mpr (.inl hshut), rfl⟩
    · next hopen =>
      have hnames : ∀ name ∈ listing.names place, Finds (listing.walkName cwd directory name)
          (tree.isDirectory cwd (directory.join ⟨name.text⟩) = true ∧
            tree.isListable cwd (directory.join ⟨name.text⟩) = false) .permissionDenied
          fun path ↦ ∃ rest, tree.LeadsOn cwd directory (name :: rest) path := by
        intro name _
        simp only [exists_leadsOn_iff hrooted hne, Listing.walkName]
        split
        · next hbelow => simpa [hbelow] using ih name hbelow hbelow
        · next hbelow =>
          refine .inr ⟨by simp [hbelow], ?_⟩
          split
          · next hfound =>
            refine ⟨_, rfl, List.nodup_singleton _, fun path ↦ ?_⟩
            rw [List.mem_singleton]
            refine ⟨?_, And.left⟩
            rintro rfl
            exact ⟨rfl, Bool.and_eq_true_iff.mp hfound⟩
          · next hfound =>
            refine ⟨[], rfl, List.nodup_nil, fun path ↦ ⟨nofun, ?_⟩⟩
            rintro ⟨rfl, hfile, hcomponent⟩
            exact absurd (Bool.and_eq_true_iff.mpr ⟨hfile, hcomponent⟩) hfound
      refine (Finds.collect hnames (listing.nodup place) ?_).congr ?_ ?_
      · rintro name other path ⟨rest, rfl, -⟩ ⟨rest', heq, -⟩
        exact (List.cons.inj (directory.descend_injective heq)).1
      · rw [hlistable, or_iff_right hopen]
      · intro path
        constructor
        · rintro ⟨name, -, rest, hrest⟩
          exact ⟨name :: rest, List.cons_ne_nil name rest, hrest⟩
        · rintro ⟨names, hnames, hleads⟩
          obtain ⟨name, rest, rfl⟩ := List.exists_cons_of_ne_nil hnames
          exact ⟨name, listing.mem_names_of_leadsOn hrooted hfollow hopen hleads, rest, hleads⟩

/-! ### Inputs -/

/-- The inputs below a directory. -/
theorem mem_inputsOf_iff_leadsOn (hrooted : tree.IsRooted) (h : tree.isDirectory cwd p = true) :
    input ∈ tree.inputsOf cwd p ↔
      ∃ path, (∃ names, names ≠ [] ∧ tree.LeadsOn cwd p names path) ∧ ⟨path, p⟩ = input := by
  obtain ⟨place, hfollow, hdirectory⟩ := isDirectory_iff.mp h
  simp only [inputsOf, hfollow, hdirectory, List.mem_filter, List.mem_map, Bool.and_eq_true]
  constructor
  · rintro ⟨⟨names, hnames, rfl⟩, hfile, hcomponent⟩
    exact ⟨_, ⟨names, (mem_filesBelow_iff.mp hnames).1, rfl, hfile, hcomponent⟩, rfl⟩
  · rintro ⟨_, ⟨names, hne, rfl, hfile, hcomponent⟩, rfl⟩
    obtain ⟨hentry, -⟩ := (isFile_descend_iff hrooted hfollow).mp hfile
    exact ⟨⟨names, mem_filesBelow_iff.mpr ⟨hne, hentry⟩, rfl⟩, hfile, hcomponent⟩

/-- Only from a directory a walk comes to a directory that cannot be listed. -/
theorem isDirectory_of_not_isListable (hrooted : tree.IsRooted)
    (h : tree.isListable cwd p = false) : tree.isDirectory cwd p = true := by
  cases hfollow : tree.follow cwd p with
  | error fault => simp [isListable, hfollow] at h
  | ok place =>
    obtain ⟨names, -, hnames⟩ := (isListable_eq_false_iff hfollow).mp h
    by_cases hnil : names = []
    · simpa [hnil, Path.descend] using hnames
    · obtain ⟨there, hthere⟩ := isDirectory_iff.mp hnames
      exact isDirectory_of_lookup_descend hrooted (follow_eq_ok_iff.mp hfollow).1 hnil
        (lookup_eq_ok_iff.mpr ⟨there, hthere⟩)

/-- A walk finds the inputs that a look at all entries finds, in some order, unless it comes to a
directory that cannot be listed. -/
theorem Listing.inputsOf_eq (listing : tree.Listing) (hrooted : tree.IsRooted) (cwd : Place)
    (p : Path) :
    (tree.isListable cwd p = false ∧ listing.inputsOf cwd p = .error .permissionDenied) ∨
      (tree.isListable cwd p = true ∧ ∃ found, listing.inputsOf cwd p = .ok found ∧
        found.Perm (tree.inputsOf cwd p)) := by
  rw [Listing.inputsOf]
  split
  · next hdirectory =>
    obtain ⟨hshut, hfail⟩ | ⟨hopen, found, hfound, hnodup, hmem⟩ :=
      listing.finds_walk hrooted hdirectory
    · exact .inl ⟨hshut, by rw [hfail]; rfl⟩
    · refine .inr ⟨by simpa using hopen, found.map fun path ↦ ⟨path, p⟩, by rw [hfound]; rfl, ?_⟩
      have hinjective : Function.Injective fun path : Path ↦ (⟨path, p⟩ : Input) :=
        fun _ _ h ↦ (Input.mk.inj h).1
      refine (List.perm_ext_iff_of_nodup (hnodup.map hinjective) (nodup_inputsOf tree cwd p)).mpr ?_
      intro input
      rw [mem_inputsOf_iff_leadsOn hrooted hdirectory, List.mem_map]
      simp only [hmem]
  · next hdirectory =>
    have hopen : tree.isListable cwd p = true := by
      rw [← Bool.not_eq_false]
      exact fun h ↦ hdirectory (isDirectory_of_not_isListable hrooted h)
    refine .inr ⟨hopen, tree.inputsOf cwd p, ?_, .refl _⟩
    cases hfollow : tree.follow cwd p with
    | error fault => simp [isFile, FileTree.inputsOf, hfollow]
    | ok place =>
      cases hentry : tree.entry? place with
      | none => simp [isFile, FileTree.inputsOf, hfollow, hentry]
      | some entry =>
        cases entry with
        | directory => exact absurd (isDirectory_iff.mpr ⟨place, hfollow, hentry⟩) hdirectory
        | file bytes isProgram =>
          by_cases hdevice : place ∈ tree.devices <;>
            simp [isFile, FileTree.inputsOf, hfollow, hentry, hdevice]

/-! ### All inputs -/

/-- Inputs that were sorted are in the order of their paths. -/
theorem pairwise_mergeSort (inputs : List Input) :
    (inputs.mergeSort fun a b ↦ a.path.le b.path).Pairwise fun a b ↦ a.path.le b.path = true :=
  List.pairwise_mergeSort
    (fun a b c ↦ Path.orders_partsLe.trans a.path.parts b.path.parts c.path.parts)
    (fun a b ↦ Path.orders_partsLe.total a.path.parts b.path.parts) inputs

/-- Inputs in the order of their paths have the same paths, part by part, in whatever order they
were before. -/
theorem map_parts_eq_of_perm {inputs inputs' : List Input} (hperm : inputs'.Perm inputs)
    (h : inputs.Pairwise fun a b ↦ a.path.le b.path = true)
    (h' : inputs'.Pairwise fun a b ↦ a.path.le b.path = true) :
    inputs'.map (fun input ↦ input.path.parts) = inputs.map fun input ↦ input.path.parts :=
  Path.eq_of_perm_of_pairwise (hperm.map _) (List.pairwise_map.mpr h') (List.pairwise_map.mpr h)

/-- Walks in any order, from paths in any order, find the same inputs, in the order of their
paths. -/
theorem Listing.exists_findFiles_eq (listing : tree.Listing) (hrooted : tree.IsRooted)
    (hperm : paths'.Perm paths) (h : paths.all (tree.isListable cwd) = true) :
    ∃ inputs, listing.findFiles cwd paths' = .ok inputs ∧
      inputs.Perm (tree.listFiles cwd paths) ∧
      inputs.Pairwise fun a b ↦ a.path.le b.path = true := by
  obtain ⟨found, hfound, hfoundPerm⟩ :=
    exists_collect_eq (f := listing.inputsOf cwd) (g := tree.inputsOf cwd) (l := paths')
      fun p hp ↦ by
        have hp' := List.all_eq_true.mp h p (hperm.mem_iff.mp hp)
        obtain ⟨hshut, -⟩ | ⟨-, hfound⟩ := listing.inputsOf_eq hrooted cwd p
        · simp [hshut] at hp'
        · exact hfound
  refine ⟨_, by rw [Listing.findFiles, hfound]; rfl, ?_, pairwise_mergeSort found⟩
  have hflat : (paths'.flatMap (tree.inputsOf cwd)).Perm (paths.flatMap (tree.inputsOf cwd)) :=
    hperm.flatMap_right _
  exact (List.mergeSort_perm found _).trans
    ((hfoundPerm.trans hflat).trans (List.mergeSort_perm _ _).symm)

/-- If one of the paths has a directory below it that cannot be listed, every walk fails. -/
theorem Listing.findFiles_eq_error (listing : tree.Listing) (hrooted : tree.IsRooted)
    (hperm : paths'.Perm paths) (h : paths.all (tree.isListable cwd) = false) :
    listing.findFiles cwd paths' = .error .permissionDenied := by
  obtain ⟨p, hp, hshut⟩ := List.all_eq_false.mp h
  have hfail : collect (listing.inputsOf cwd) paths' = .error .permissionDenied := by
    refine collect_eq_error (fun q _ ↦ ?_) ⟨p, hperm.mem_iff.mpr hp, ?_⟩
    · obtain ⟨-, hfail⟩ | ⟨-, found, hfound, -⟩ := listing.inputsOf_eq hrooted cwd q
      · exact .inl hfail
      · exact .inr ⟨found, hfound⟩
    · obtain ⟨-, hfail⟩ | ⟨hopen, -⟩ := listing.inputsOf_eq hrooted cwd p
      · exact hfail
      · exact absurd hopen hshut
  rw [Listing.findFiles, hfail]
  rfl

end FileTree

end ComponentFile
