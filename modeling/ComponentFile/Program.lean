import ComponentFile.CommandLine
import ComponentFile.Files.Discovery
import ComponentFile.Settings.Reader

/-!
# The program

The program brings component files into normal form.  All of them are compiled as the files were
before the run; then the results are printed or written one after another, and one that fails
does not keep the others back.

## Main definitions

* `Machine` : the files and programs that the program finds.
* `Machine.loadSettings` : the settings of a run.
* `Machine.compileInput` : the document that an input becomes, or what went wrong with it.
* `emitAll` : printing or writing the results.
* `Machine.run` : a whole run, for a list of arguments.
-/

namespace ComponentFile

/-- The files and programs that are there, and the directory in which the program runs. -/
structure Machine where
  tree : FileTree
  programs : Programs
  place : Place

/-- What a run leaves behind: its exit code, what it prints, what it logs, an error that ended it
with what caused it, and the files. -/
structure Outcome where
  code : Nat
  output : Text
  log : List Log.Record
  error : Option Text
  cause : Option Text
  tree : FileTree

/-! ### Errors -/

/-- Why there was no run at all. -/
inductive RunError where
  | configUnreadable (path : Path) (reason : Text)
  | configUnusable (path : Path) (problem : Settings.Problem)
  | notListed (fault : Fault)
  | noInputs
  | failed (count total : Nat)
  deriving DecidableEq, Repr

/-- The wording of an error that ends a run. -/
def RunError.message : RunError → Text
  | configUnreadable path reason =>
    "cannot read config ".toList ++ path.text ++ ": ".toList ++ reason
  | configUnusable path _ => "invalid config JSON in ".toList ++ path.text
  | notListed fault => fault.message
  | noInputs => "no input files found".toList
  | failed count total =>
    (toString count).toList ++ " of ".toList ++ (toString total).toList ++
      " file(s) failed".toList

/-- What is told behind the wording of an error: what the reader of the settings has found. -/
def RunError.cause? : RunError → Option Text
  | configUnusable _ problem => problem.message
  | _ => none

/-- What went wrong with one input. -/
inductive InputError where
  | unreadable (path : Path) (fault : Fault)
  | document (error : DocumentError)
  | noDirectory (path : Path) (fault : Fault)
  | notWritten (path : Path) (fault : Fault)
  deriving DecidableEq, Repr

namespace InputError

/-- The wording of what went wrong with one input. -/
def message : InputError → Text
  | unreadable path fault => "cannot read ".toList ++ path.text ++ ": ".toList ++ fault.message
  | document error => error.chainMessage
  | noDirectory path fault =>
    "cannot create ".toList ++ path.text ++ ": ".toList ++ fault.message
  | notWritten path fault => "cannot write ".toList ++ path.text ++ ": ".toList ++ fault.message

/-- The level at which it is logged.  A block that was not compiled has been logged already. -/
def level : InputError → Log.Level
  | document (.notCompiled _ _ _) => .debug
  | _ => .error

/-- The record of what went wrong with an input. -/
def record (input : Input) (e : InputError) : Log.Record :=
  ⟨e.level, input.path.text ++ ": ".toList ++ e.message⟩

end InputError

/-! ### Compiling -/

/-- The file with the settings unless the command line names another one. -/
def defaultConfig : Path := ⟨"sfcc.config.json".toList⟩

namespace Machine

/-- The directory in which the program runs, as a path. -/
def directory (m : Machine) : Path :=
  ⟨'/' :: ['/'].intercalate (m.place.map FileName.text)⟩

/-- The settings in a file. -/
def readSettings (m : Machine) (p : Path) : Except RunError Settings :=
  match m.tree.read m.place p with
  | .error fault => .error (.configUnreadable p fault.message)
  | .ok bytes =>
    match Text.decode bytes with
    | .error _ => .error (.configUnreadable p "stream did not contain valid UTF-8".toList)
    | .ok t => (Settings.ofText t).mapError (.configUnusable p)

/-- The settings of a run: those of the named file, of the usual file if there is one, or the
default ones; then the command line. -/
def loadSettings (m : Machine) (a : Arguments) : Except RunError Settings :=
  let loaded : Except RunError Settings :=
    match a.config with
    | some p => m.readSettings p
    | none =>
      if m.tree.isFile m.place defaultConfig then m.readSettings defaultConfig
      else .ok .default
  loaded.map a.adjust

/-- An input with its normal form, or what went wrong, and what was logged on the way. -/
structure Compiled where
  input : Input
  log : List Log.Record
  result : Except InputError Document

/-- Compile one input. -/
def compileInput (m : Machine) (settings : Settings) (input : Input) : Compiled :=
  match m.tree.readDocument m.place input with
  | .error fault => ⟨input, [], .error (.unreadable input.path fault)⟩
  | .ok d =>
    let run := (Toolchain.ofSettings settings m.programs m.directory).transform d
    ⟨input, run.log, run.result.mapError .document⟩

end Machine

/-! ### Results -/

open Machine (Compiled)

/-- What has been done with the results so far. -/
structure Progress where
  output : Text
  log : List Log.Record
  failures : Nat
  tree : FileTree

/-- The text of a document. -/
def Document.text (d : Document) : Text :=
  match d.contents with
  | .text t => t
  | _ => []

/-- The file that a document is written to. -/
def Document.target (outDirectory : Path) (d : Document) : Path :=
  outDirectory.join d.relative

/-- Try to make the directory that a file belongs in. -/
def makeRoom (cwd : Place) (tree : FileTree) (target : Path) : Attempt InputError :=
  match target.parent? with
  | none => ⟨tree, none⟩
  | some outer => (tree.makeDirectories cwd outer).mapProblem (.noDirectory outer)

/-- Try to write a document below the output directory, in a directory that is made if it is not
there.  A document that is no text is not written. -/
def writeDocument (cwd : Place) (outDirectory : Path) (tree : FileTree) (d : Document) :
    Attempt InputError :=
  let target := d.target outDirectory
  match d.contents with
  | .text t =>
    (makeRoom cwd tree target).andThen fun tree =>
      (Attempt.ofResult tree (tree.write cwd target (Text.encode t))).mapProblem
        (.notWritten target)
  | _ => ⟨tree, none⟩

namespace Progress

/-- Note that an input failed. -/
def fail (p : Progress) (input : Input) (e : InputError) : Progress :=
  { p with log := p.log ++ [e.record input], failures := p.failures + 1 }

/-- Print or write one result. -/
def emit (cwd : Place) (outDirectory : Option Path) (p : Progress) (c : Compiled) : Progress :=
  match c.result with
  | .error e => p.fail c.input e
  | .ok d =>
    match outDirectory with
    | none => { p with output := p.output ++ d.text }
    | some directory =>
      let attempt := writeDocument cwd directory p.tree d
      match attempt.problem? with
      | some e => { p with tree := attempt.tree }.fail c.input e
      | none =>
        { p with
          tree := attempt.tree
          log := p.log ++ [⟨.info, "compiled ".toList ++ c.input.path.text⟩] }

end Progress

/-- Print or write all results, in their order. -/
def emitAll (cwd : Place) (outDirectory : Option Path) (tree : FileTree)
    (results : List Compiled) : Progress :=
  results.foldl (Progress.emit cwd outDirectory) ⟨[], [], 0, tree⟩

/-! ### Runs -/

/-- The version of the program. -/
def versionLine : Text := "sfcc 0.1.0\n".toList

namespace Machine

/-- A run that ends before any file is compiled. -/
def stop (m : Machine) (code : Nat) (output : Text) (error : Option RunError) : Outcome :=
  ⟨code, output, [], error.map RunError.message, error.bind RunError.cause?, m.tree⟩

/-- The run that the arguments ask for. -/
def runWith (m : Machine) (a : Arguments) : Outcome :=
  match m.loadSettings a with
  | .error e => m.stop 1 [] (some e)
  | .ok settings =>
    match m.tree.findFiles m.place a.inputs with
    | .error fault => m.stop 1 [] (some (.notListed fault))
    | .ok [] => m.stop 1 [] (some .noInputs)
    | .ok inputs =>
      let results := inputs.map (m.compileInput settings)
      let progress := emitAll m.place a.outDirectory m.tree results
      let log := (results.flatMap Compiled.log ++ progress.log).filter fun record =>
        record.level.isShown a.threshold
      let error :=
        if progress.failures = 0 then none
        else some (RunError.failed progress.failures inputs.length).message
      ⟨if progress.failures = 0 then 0 else 1, progress.output, log, error, none, progress.tree⟩

/-- The run for a list of arguments. -/
def run (m : Machine) (arguments : List Text) : Outcome :=
  match CommandLine.read arguments with
  | .run a => m.runWith a
  | .version => m.stop 0 versionLine none
  | .help => m.stop 0 [] none
  | .misuse => m.stop 2 [] none

end Machine

end ComponentFile
