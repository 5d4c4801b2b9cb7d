import ComponentFile.Proofs.Files.Preservation
import ComponentFile.Proofs.Program.Emission

/-!
# The files that a run writes

Each document is written below the output directory, at its path below the directory that its input
was found in.  Inputs that were found in different directories may have one target.  Documents are
written one after another, and whatever one attempt leaves, the paths that led somewhere lead to the
same place after the next one.  So in the end a target holds the document of the last input that it
is the target of.

## Main definitions

* `Machine.IsLast` : the last input whose target leads to a place.

## Main results

* `WriteEnds.exists_of_problem?_eq_none` : what was written is in the file that the target leads to,
  and no other file has changed.
* `Machine.exists_isLast` : after all inputs have succeeded, every target holds the document of the
  last input that has it.
* `Machine.run_holds_last` : so it does after a run that succeeds.
* `Machine.not_run_holds_own` : this need not be the document of the input itself.
-/

namespace ComponentFile

variable {m : Machine} {settings : Settings} {inputs : List Input} {input : Input}
  {directory : Path} {cwd place : Place} {tree : FileTree}

/-! ### One document -/

theorem IsRoom.keeps {target : Path} {room : FileTree} (h : IsRoom cwd tree target room) :
    tree.Keeps room [] := by
  rw [IsRoom] at h
  split at h
  · rw [h]
    exact .refl tree
  · exact FileTree.keeps_of_makeDirectories h

namespace WriteEnds

variable {target : Path} {bytes : Bytes} {attempt : Attempt InputError}

/-- An attempt to write that meets no problem leaves the bytes in the file that the target leads to,
and no other file has changed. -/
theorem exists_of_problem?_eq_none (h : WriteEnds cwd tree target bytes attempt)
    (hproblem : attempt.problem? = none) :
    ∃ place isProgram, attempt.tree.follow cwd target = .ok place ∧
      attempt.tree.entry? place = some (.file bytes isProgram) ∧
      tree.Keeps attempt.tree [place] := by
  cases h with
  | noRoom => cases hproblem
  | refused => cases hproblem
  | written hroom hwrite =>
    obtain ⟨place, isProgram, hfollow, hentry, hkeeps⟩ := FileTree.write_eq_ok hwrite
    exact ⟨place, isProgram, hfollow, hentry, hroom.keeps.trans hkeeps⟩

/-- However an attempt to write ends, what was there is kept, but for the bytes of some files. -/
theorem exists_keeps (h : WriteEnds cwd tree target bytes attempt) :
    ∃ written, tree.Keeps attempt.tree written := by
  cases h with
  | noRoom _ hroom => exact ⟨[], FileTree.keeps_of_makeDirectories hroom⟩
  | refused hroom _ => exact ⟨[], hroom.keeps⟩
  | written hroom hwrite =>
    obtain ⟨place, -, -, -, hkeeps⟩ := FileTree.write_eq_ok hwrite
    exact ⟨[place], hroom.keeps.trans hkeeps⟩

end WriteEnds

/-! ### All documents -/

namespace Machine

/-- Of some inputs, `last` is the last one whose target leads to a place, where the file holds its
document. -/
structure IsLast (m : Machine) (settings : Settings) (directory : Path) (tree : FileTree)
    (inputs : List Input) (place : Place) (last : Input) : Prop where
  follow : tree.follow m.place (last.target directory) = .ok place
  later : ∃ before after, inputs = before ++ last :: after ∧
    ∀ other ∈ after, ∃ elsewhere,
      tree.follow m.place (other.target directory) = .ok elsewhere ∧ elsewhere ≠ place
  entry : ∃ d t isProgram, m.compiled? settings last = some d ∧ d.contents = .text t ∧
    tree.entry? place = some (.file (Text.encode t) isProgram)

/-- An input that was written is the last one. -/
theorem isLast_concat {d : Document} {t : Text} {isProgram : Bool}
    (hd : m.compiled? settings input = some d) (ht : d.contents = .text t)
    (hfollow : tree.follow m.place (input.target directory) = .ok place)
    (hentry : tree.entry? place = some (.file (Text.encode t) isProgram)) (inputs : List Input) :
    m.IsLast settings directory tree (inputs ++ [input]) place input :=
  ⟨hfollow, ⟨inputs, [], rfl, fun _ h ↦ nomatch h⟩, ⟨d, t, isProgram, hd, ht, hentry⟩⟩

/-- The last input stays the last one when another file is written. -/
theorem IsLast.concat {after : FileTree} {last : Input} {elsewhere : Place}
    (h : m.IsLast settings directory tree inputs place last)
    (hkeeps : tree.Keeps after [elsewhere])
    (hfollow : after.follow m.place (input.target directory) = .ok elsewhere)
    (hne : elsewhere ≠ place) :
    m.IsLast settings directory after (inputs ++ [input]) place last where
  follow := hkeeps.follow h.follow
  later := by
    obtain ⟨before, others, rfl, hothers⟩ := h.later
    refine ⟨before, others ++ [input], by simp, fun other hother ↦ ?_⟩
    obtain hother | hother := List.mem_append.mp hother
    · obtain ⟨otherPlace, hplace, hotherPlace⟩ := hothers other hother
      exact ⟨otherPlace, hkeeps.follow hplace, hotherPlace⟩
    · obtain rfl := List.mem_singleton.mp hother
      exact ⟨elsewhere, hfollow, hne⟩
  entry := by
    obtain ⟨d, t, isProgram, hd, ht, hentry⟩ := h.entry
    obtain ⟨bytes, hbytes, hkept⟩ := hkeeps.file place _ isProgram hentry
    have hplace : place ∉ [elsewhere] := fun hmem ↦ hne (List.mem_singleton.mp hmem).symm
    rw [hkept hplace] at hbytes
    exact ⟨d, t, isProgram, hd, ht, hbytes⟩

theorem exists_of_succeeds {earlier : List Input}
    (h : m.succeeds settings (some directory) earlier input = true) :
    ∃ d, m.compiled? settings input = some d ∧
      (writeDocument m.place directory (m.treeAfter settings directory earlier) d).problem? =
        none := by
  simpa [succeeds, Option.any_eq_true] using h

/-- After all inputs have succeeded, the target of each one leads to a file, which holds the
document of the last input whose target leads there. -/
theorem exists_isLast (h : ∀ i (hi : i < inputs.length),
      m.succeeds settings (some directory) (inputs.take i) inputs[i] = true) :
    ∀ input ∈ inputs, ∃ place last,
      (m.treeAfter settings directory inputs).follow m.place (input.target directory) =
        .ok place ∧
      m.IsLast settings directory (m.treeAfter settings directory inputs) inputs place last := by
  induction inputs using List.reverseRecOn with
  | nil => simp
  | append_singleton inputs newest ih =>
    have hearlier (i : ℕ) (hi : i < inputs.length) :
        m.succeeds settings (some directory) (inputs.take i) inputs[i] = true := by
      simpa [List.take_append_of_le_length hi.le, hi] using
        h i (hi.trans (by simp))
    have hnewest : m.succeeds settings (some directory) inputs newest = true := by
      simpa using h inputs.length (by simp)
    obtain ⟨d, hd, hproblem⟩ := exists_of_succeeds hnewest
    obtain ⟨htarget, t, ht⟩ := exists_text_of_compiled? hd directory
    obtain ⟨written, isProgram, hfollow, hentry, hkeeps⟩ :=
      (writeEnds_writeDocument ht m.place directory _).exists_of_problem?_eq_none hproblem
    rw [treeAfter_concat, hd, Option.elim_some]
    rw [htarget] at hfollow
    intro input hinput
    have hlast := isLast_concat hd ht hfollow hentry inputs
    obtain hinput | hinput := List.mem_append.mp hinput
    · obtain ⟨place, last, hplace, hlastAt⟩ := ih hearlier input hinput
      -- The newest document takes the place of an older one, or it is somewhere else.
      by_cases hsame : written = place
      · exact ⟨written, newest, hkeeps.follow (hsame ▸ hplace), hlast⟩
      · exact ⟨place, last, hkeeps.follow hplace, hlastAt.concat hkeeps hfollow hsame⟩
    · obtain rfl := List.mem_singleton.mp hinput
      exact ⟨written, input, hfollow, hlast⟩

/-- Files that can be read can be read after the attempts to write, too. -/
theorem isReadable_treeAfter (h : m.tree.IsReadable) :
    (m.treeAfter settings directory inputs).IsReadable := by
  induction inputs using List.reverseRecOn with
  | nil => exact h
  | append_singleton inputs input ih =>
    rw [treeAfter_concat]
    cases hd : m.compiled? settings input with
    | none => exact ih
    | some d =>
      obtain ⟨-, t, ht⟩ := exists_text_of_compiled? hd directory
      obtain ⟨written, hkeeps⟩ := (writeEnds_writeDocument ht m.place directory _).exists_keeps
      exact hkeeps.isReadable ih

/-! ### Runs -/

/-- After a run with an output directory that succeeds, the target of each input holds the document
of the last input, in the order in which they are written, whose target leads to the same file. -/
theorem run_holds_last (m : Machine) (arguments : List Text) (a : Arguments) (directory : Path)
    (h : CommandLine.read arguments = .run a) (hout : a.outDirectory = some directory)
    (hcode : (m.run arguments).code = 0) :
    ∃ settings inputs, m.loadSettings a = .ok settings ∧
      m.tree.findFiles m.place a.inputs = .ok inputs ∧
      ∀ input ∈ inputs, ∃ before last after d t, inputs = before ++ last :: after ∧
        (m.run arguments).tree.SameFile m.place (last.target directory)
          (input.target directory) ∧
        (∀ other ∈ after, ¬(m.run arguments).tree.SameFile m.place (other.target directory)
          (input.target directory)) ∧
        m.compiled? settings last = some d ∧ d.contents = .text t ∧
        (m.run arguments).tree.Holds m.place (input.target directory) (Text.encode t) ∧
        (m.tree.IsReadable →
          (m.run arguments).tree.read m.place (input.target directory) = .ok (Text.encode t)) := by
  rw [run_of_read h] at hcode ⊢
  obtain ⟨settings, inputs, hsettings, hinputs, hne, hfailures⟩ :=
    code_runWith_eq_zero_iff.mp hcode
  rw [tree_runWith hsettings hinputs hne hout]
  rw [hout, failures_eq_zero_iff] at hfailures
  refine ⟨settings, inputs, hsettings, hinputs, fun input hinput ↦ ?_⟩
  obtain ⟨place, last, hplace, hlast⟩ := exists_isLast hfailures input hinput
  obtain ⟨before, after, hsplit, hafter⟩ := hlast.later
  obtain ⟨d, t, isProgram, hd, ht, hentry⟩ := hlast.entry
  have hholds : (m.treeAfter settings directory inputs).Holds m.place (input.target directory)
      (Text.encode t) := ⟨place, isProgram, hplace, hentry⟩
  refine ⟨before, last, after, d, t, hsplit, ⟨place, hlast.follow, hplace⟩, ?_, hd, ht, hholds,
    fun hreadable ↦ hholds.read (isReadable_treeAfter hreadable)⟩
  rintro other hother ⟨same, hfollow, hsame⟩
  obtain ⟨elsewhere, helsewhere, hne⟩ := hafter other hother
  obtain rfl := Except.ok.inj (hfollow.symm.trans helsewhere)
  exact hne (Except.ok.inj (hsame.symm.trans hplace))

/-- A machine with two components of the same name in different directories. -/
def twinMachine : Machine where
  tree := ⟨.ofList [(Place.ofString "a", .directory),
    (Place.ofString "a/App.vue", .file (Text.encode "<template>a</template>".toList) false),
    (Place.ofString "b", .directory),
    (Place.ofString "b/App.vue", .file (Text.encode "<template>b</template>".toList) false)],
    [], []⟩
  programs _ := none
  place := []

/-- A command line that names both. -/
def twinCommand : List Text :=
  ["a/App.vue", "b/App.vue", "-o", "out"].map String.toList

/-- What it says. -/
def twinArguments : Arguments :=
  ⟨[⟨"a/App.vue".toList⟩, ⟨"b/App.vue".toList⟩], some ⟨"out".toList⟩, none, [.outDirectory]⟩

/-- Its inputs, which have one target. -/
def twinInputs : List Input :=
  [⟨⟨"a/App.vue".toList⟩, ⟨"a".toList⟩⟩, ⟨⟨"b/App.vue".toList⟩, ⟨"b".toList⟩⟩]

/-- The document that the component in a directory becomes. -/
def twinDocument (name : Char) : Document where
  path := ⟨name :: "/App.vue".toList⟩
  base := ⟨[name]⟩
  contents := .text (Component.render ⟨[name], [], [], none, none, false⟩)

theorem read_twinCommand : CommandLine.read twinCommand = .run twinArguments := by
  decide +kernel

theorem loadSettings_twinMachine :
    twinMachine.loadSettings twinArguments = .ok (twinArguments.adjust .default) :=
  loadSettings_of_isFile_eq_false rfl (by decide +kernel)

theorem findFiles_twinMachine :
    twinMachine.tree.findFiles twinMachine.place twinArguments.inputs = .ok twinInputs :=
  FileTree.findFiles_of_pairwise (by decide +kernel) (by decide +kernel) (by decide +kernel)

theorem code_run_twinMachine : (twinMachine.run twinCommand).code = 0 := by
  rw [run_of_read read_twinCommand]
  exact code_runWith_eq_zero_iff.mpr ⟨_, _, loadSettings_twinMachine, findFiles_twinMachine,
    by decide, by decide +kernel⟩

theorem twinMachine_run_holds_last :
    (CommandLine.read twinCommand = .run twinArguments ∧
      twinArguments.outDirectory = some ⟨"out".toList⟩ ∧
      (twinMachine.run twinCommand).code = 0) ∧
    ∃ settings inputs, twinMachine.loadSettings twinArguments = .ok settings ∧
      twinMachine.tree.findFiles [] twinArguments.inputs = .ok inputs ∧
      ∀ input ∈ inputs, ∃ before last after d t, inputs = before ++ last :: after ∧
        (twinMachine.run twinCommand).tree.SameFile [] (last.target ⟨"out".toList⟩)
          (input.target ⟨"out".toList⟩) ∧
        (∀ other ∈ after, ¬(twinMachine.run twinCommand).tree.SameFile []
          (other.target ⟨"out".toList⟩) (input.target ⟨"out".toList⟩)) ∧
        twinMachine.compiled? settings last = some d ∧ d.contents = .text t ∧
        (twinMachine.run twinCommand).tree.read [] (input.target ⟨"out".toList⟩) =
          .ok (Text.encode t) := by
  have hreadable : twinMachine.tree.IsReadable := nofun
  obtain ⟨settings, inputs, hsettings, hinputs, hall⟩ :=
    run_holds_last twinMachine twinCommand twinArguments ⟨"out".toList⟩ read_twinCommand rfl
      code_run_twinMachine
  refine ⟨⟨read_twinCommand, rfl, code_run_twinMachine⟩, settings, inputs, hsettings, hinputs,
    fun input hinput ↦ ?_⟩
  obtain ⟨before, last, after, d, t, hsplit, hsame, hlater, hd, ht, -, hread⟩ :=
    hall input hinput
  exact ⟨before, last, after, d, t, hsplit, hsame, hlater, hd, ht, hread hreadable⟩

/-- The target of an input need not hold the document of that input: one that is written later may
have the same target. -/
theorem not_run_holds_own :
    ¬∀ (m : Machine) (arguments : List Text) (a : Arguments) (directory : Path),
      CommandLine.read arguments = .run a → a.outDirectory = some directory →
      (m.run arguments).code = 0 →
      ∀ settings inputs, m.loadSettings a = .ok settings →
        m.tree.findFiles m.place a.inputs = .ok inputs →
        ∀ input ∈ inputs, ∀ d t, m.compiled? settings input = some d → d.contents = .text t →
          (m.run arguments).tree.Holds m.place (input.target directory) (Text.encode t) := by
  intro hown
  have hholds (name : Char)
      (hname : ⟨(twinDocument name).path, (twinDocument name).base⟩ ∈ twinInputs)
      (hd : twinMachine.compiled? (twinArguments.adjust .default)
        ⟨(twinDocument name).path, (twinDocument name).base⟩ = some (twinDocument name)) :=
    hown twinMachine twinCommand twinArguments _ read_twinCommand rfl code_run_twinMachine _ _
      loadSettings_twinMachine findFiles_twinMachine _ hname _ _ hd rfl
  have hfirst := hholds 'a' (by decide) (by decide +kernel)
  have hsecond := hholds 'b' (by decide) (by decide +kernel)
  -- One file would have to hold two texts.
  have htarget : Input.target ⟨"out".toList⟩ ⟨(twinDocument 'a').path, (twinDocument 'a').base⟩ =
      Input.target ⟨"out".toList⟩ ⟨(twinDocument 'b').path, (twinDocument 'b').base⟩ := by
    decide +kernel
  rw [htarget] at hfirst
  exact absurd (hfirst.eq hsecond) (by decide +kernel)

end Machine

end ComponentFile
