import ComponentFile.Shell.Programs

/-!
# Which programs compile

The settings may name any command as a compiler.  Its program is the first program file among the
paths that its name may mean, and a command without one fails before anything is started.  A program
file may be a script, whose interpreter may be a script again.  Only so many scripts are followed,
so scripts that are each other's interpreters, in a circle, are refused whatever they are told.

## Main definitions

* `Job.leadsToProgram` : the paths that lead to a program file.
* `Shell.IsScriptFor` : a script and the path of its interpreter.
* `Shell.IsChain` : a script, its interpreter, the interpreter of that, and so on.
* `Shell.IsCircle` : scripts that are each other's interpreters.

## Main results

* `Shell.programsIn_eq` : the program that a name stands for.
* `Shell.runCommand_programsIn_of_forall` : a command without a program fails.
* `Shell.launchFile_of_isChain` : more scripts than can be followed are refused.
* `Shell.IsCircle.exists_runCommand_eq` : a command fails whose program is a script in a circle.
-/

namespace ComponentFile

variable {tree : FileTree} {cwd : Place} {path interpreter : Path} {paths : List Path}
  {scripts : Path → Prop} {name : Text} {n : Nat}

/-! ### Programs by name -/

/-- Whether a path leads to a program file. -/
def Job.leadsToProgram (tree : FileTree) (cwd : Place) (path : Path) : Bool :=
  match tree.lookup cwd path with
  | .ok entry => isProgram entry
  | .error _ => false

/-- The first program file among some paths is found. -/
theorem Job.toOption_findAmong (fault : Fault) :
    (findAmong tree cwd fault paths).toOption = paths.find? (leadsToProgram tree cwd) := by
  induction paths generalizing fault with
  | nil => rfl
  | cons path rest ih =>
    rw [findAmong, List.find?_cons, leadsToProgram]
    cases tree.lookup cwd path with
    | error other => exact ih fault
    | ok entry =>
      cases h : isProgram entry with
      | true => simp [h, Except.toOption]
      | false => simpa [h] using ih .permissionDenied

namespace Shell

open Job Text

/-- A name stands for the first program file among the paths that it may mean. -/
theorem programsIn_eq (tree : FileTree) (cwd : Place) (name : Text) :
    programsIn tree cwd name =
      ((filesFor name).find? (leadsToProgram tree cwd)).map fun path =>
        runFile tree cwd path.text path := by
  rw [programsIn, ← toOption_findAmong .notFound]
  cases findAmong tree cwd .notFound (filesFor name) <;> rfl

/-- A command whose name leads to no program file fails, and nothing is started. -/
theorem runCommand_programsIn_of_forall (leading arguments : List Text) (input : Text)
    (h : ∀ path ∈ filesFor name, leadsToProgram tree cwd path = false) :
    ComponentFile.runCommand (programsIn tree cwd) (name :: leading) arguments input =
      ⟨[], .error (.notFound name)⟩ := by
  have hnone : programsIn tree cwd name = none := by
    rw [programsIn_eq, Option.map_eq_none_iff, List.find?_eq_none]
    exact fun path hpath ↦ Bool.eq_false_iff.mp (h path hpath)
  rw [ComponentFile.runCommand, hnone]

/-! ### Scripts -/

/-- The path leads to a program file that is no tool but a script with an interpreter. -/
def IsScriptFor (tree : FileTree) (cwd : Place) (path interpreter : Path) : Prop :=
  ∃ bytes shebang, programAt tree cwd path = .ok bytes ∧ toolName? bytes = none ∧
    Shebang.ofOctets? (ofBytes bytes) = some shebang ∧
    interpreter = ⟨ofOctets shebang.interpreter⟩

/-- From the path a number of scripts follow, each of them interpreted by the next one, and then a
program file. -/
inductive IsChain (tree : FileTree) (cwd : Place) : Nat → Path → Prop
  | program {path : Path} {bytes : Bytes} (h : programAt tree cwd path = .ok bytes) :
      IsChain tree cwd 0 path
  | script {n : Nat} {path interpreter : Path} (h : IsScriptFor tree cwd path interpreter)
      (hrest : IsChain tree cwd n interpreter) : IsChain tree cwd (n + 1) path

/-- More scripts than can be followed are refused, and nothing has happened. -/
theorem launchFile_of_isChain (launch : Launcher) {w : World} (h : IsChain w.tree cwd n path)
    {job : Job} (hplace : job.place = cwd) :
    (launchFile launch n path job).run w = pure (.refused .tooManyLinks, w) := by
  induction h generalizing job with
  | @program path bytes hbytes => simp [launchFile, hplace, hbytes]
  | @script n path interpreter h hrest ih =>
    obtain ⟨bytes, shebang, hbytes, htool, hshebang, rfl⟩ := h
    simp only [launchFile, hplace, StateT.run_bind, StateT.run_get, pure_bind, hbytes, htool,
      Option.bind_none, hshebang]
    exact ih rfl

/-- The scripts are each other's interpreters. -/
def IsCircle (tree : FileTree) (cwd : Place) (scripts : Path → Prop) : Prop :=
  ∀ path, scripts path → ∃ interpreter, scripts interpreter ∧ IsScriptFor tree cwd path interpreter

/-- In a circle every chain goes on. -/
theorem IsCircle.isChain (h : IsCircle tree cwd scripts) (n : Nat) (hpath : scripts path) :
    IsChain tree cwd n path := by
  induction n generalizing path with
  | zero =>
    obtain ⟨-, -, bytes, -, hbytes, -⟩ := h path hpath
    exact .program hbytes
  | succ n ih =>
    obtain ⟨interpreter, hinterpreter, hscript⟩ := h path hpath
    exact .script hscript (ih hinterpreter)

/-- A chain of more scripts than can be followed does not start anything. -/
theorem exists_launcher_of_isChain {level : Nat} (hlevel : 0 < level) {w : World}
    (h : IsChain w.tree cwd (maxInterpreters + 1) path) {job : Job} (hplace : job.place = cwd) :
    ∃ fault, launcher level path job w = (.refused fault, w) := by
  obtain ⟨level, rfl⟩ := Nat.exists_eq_add_one.mpr hlevel
  rw [launcher]
  dsimp only
  split
  · exact ⟨.argumentsTooLong, rfl⟩
  · exact ⟨.tooManyLinks, launchFile_of_isChain (launcher level) h hplace⟩

/-- Scripts that are each other's interpreters are refused, whatever they are told. -/
theorem IsCircle.exists_runFile_eq (h : IsCircle tree cwd scripts) (hpath : scripts path)
    (name : Text) (arguments : List Text) (input : Bytes) :
    ∃ fault, runFile tree cwd name path arguments input = .refused fault := by
  have hlaunch (world : World) (htree : world.tree = tree) (job : Job) (hplace : job.place = cwd) :
      ∃ fault, launcher maxLaunches path job world = (.refused fault, world) :=
    exists_launcher_of_isChain (by decide) (htree ▸ h.isChain _ hpath) hplace
  rw [runFile]
  dsimp only
  split
  · exact ⟨.zeroCharacter, rfl⟩
  · obtain ⟨fault, hfault⟩ := hlaunch
      ⟨tree, #[.source (ofBytes input), .sink [], .sink []], 4242⟩ rfl
      ⟨octets name, arguments.map octets, startEnvironment, cwd, [(0, 0), (1, 1), (2, 2)]⟩ rfl
    exact ⟨fault, by rw [hfault]⟩

/-- A command whose program is a script in a circle fails. -/
theorem IsCircle.exists_runCommand_eq (h : IsCircle tree cwd scripts) (hpath : scripts path)
    (hname : (filesFor name).find? (leadsToProgram tree cwd) = some path)
    (leading arguments : List Text) (input : Text) :
    ∃ fault, (ComponentFile.runCommand (programsIn tree cwd) (name :: leading) arguments
      input).result = .error (.refused name fault) := by
  obtain ⟨fault, hfault⟩ :=
    h.exists_runFile_eq hpath path.text (leading ++ arguments) (encode input)
  refine ⟨fault, ?_⟩
  rw [ComponentFile.runCommand, programsIn_eq, hname, Option.map_some]
  dsimp only
  rw [hfault, Started.result]

/-- A script can be its own interpreter. -/
example : IsCircle
    ⟨.ofList [(Place.ofString "x", .file (encode "#!/x\n".toList) true)], [], []⟩ []
    (· = ⟨"/x".toList⟩) := by
  rintro path rfl
  exact ⟨_, rfl, _, ⟨"/x".toList, none⟩, rfl, by decide +kernel, rfl, by decide +kernel⟩

end Shell

end ComponentFile
