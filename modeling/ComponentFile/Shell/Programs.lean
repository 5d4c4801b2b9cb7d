import ComponentFile.Compiler.Command
import ComponentFile.Process.Interpreter
import ComponentFile.Shell.Session
import ComponentFile.Tools.Catalogue

/-!
# Programs by name

A name of several parts is a path to a program file; other names are looked up in the directories
that programs are kept in.  A program file is a tool, or a script whose first line names its
interpreter.  The settings may name any of them as a compiler, such as a shell with a script of one
line, so what a run prints depends on what these programs do.

## Main definitions

* `Shell.launcher` : starting program files.
* `Shell.programsIn` : the programs that can be run in a directory of a file tree.
-/

namespace ComponentFile.Shell

open Text

/-! ### Program files -/

/-- What a tool does.  The shells are among the tools. -/
def toolNamed? (launch : Launcher) (name : Text) : Option (Tool ExitStatus) :=
  match String.ofList name with
  | "sh" => some (program .plain (machine launch maxLevel))
  | "dash" => some (program .plain (machine launch maxLevel))
  | "bash" => some (program .extended (machine launch maxLevel))
  | "rbash" => some (program .extended (machine launch maxLevel))
  | _ => Tools.named? launch name

/-- The number of octets that an argument can have. -/
def maxArgument : Nat := 131071

/-- The number of octets that all arguments and the environment can have. -/
def maxArguments : Nat := 2097152

/-- Whether the arguments and the environment of a job are too long for a program. -/
def isTooLong (job : Job) : Bool :=
  let words := job.name :: job.arguments ++
    job.environment.map fun v => v.1 ++ '=' :: v.2
  let sizes := words.map List.length
  sizes.any (· > maxArgument) || sizes.foldl (fun n size => n + size + 9) 0 > maxArguments

/-- The number of scripts that can be each other's interpreters, one after the other. -/
def maxInterpreters : Nat := 5

/-- The program file that a path leads to. -/
def programAt (tree : FileTree) (cwd : Place) (path : Path) : Except Fault Bytes :=
  match tree.lookup cwd path with
  | .error fault => .error fault
  | .ok (.file bytes true) => .ok bytes
  | .ok _ => .error .permissionDenied

/-- Start a program file, given how the programs that it starts are started, and how many scripts
may follow.  A script is an argument of its interpreter, which may be a script in turn. -/
def launchFile (launch : Launcher) : Nat → Launcher
  | 0 => fun path job => do
    match programAt (← get).tree job.place path with
    | .error fault => return .refused fault
    | .ok _ => return .refused .tooManyLinks
  | scripts + 1 => fun path job => do
    match programAt (← get).tree job.place path with
    | .error fault => return .refused fault
    | .ok bytes =>
      match (toolName? bytes).bind (toolNamed? launch) with
      | some tool => return .ended (← tool.run job)
      | none =>
        match Shebang.ofOctets? (ofBytes bytes) with
        | none => return .refused .badFormat
        | some shebang =>
          launchFile launch scripts ⟨Text.ofOctets shebang.interpreter⟩ { job with
            name := shebang.interpreter
            arguments := shebang.argument.toList ++ octets path.text :: job.arguments }

/-- Start a program file.  The level bounds how deep programs are nested in each other. -/
def launcher : Nat → Launcher
  | 0 => fun _ _ => return .refused .notFound
  | level + 1 => fun path job =>
    if isTooLong job then return .refused .argumentsTooLong
    else launchFile (launcher level) (maxInterpreters + 1) path job

/-- The greatest level. -/
def maxLaunches : Nat := 200

/-! ### Programs -/

/-- The number of bytes that an input can hold while nobody reads it. -/
def inputCapacity : Nat := 65536

/-- The number of bytes in a page.  Room for more input is made page by page. -/
def pageSize : Nat := 4096

/-- Whether an input was taken of which some bytes were read. -/
def takesInput (length consumed : Nat) : Bool :=
  length ≤ inputCapacity + consumed / pageSize * pageSize

/-- The environment in which programs are started. -/
def startEnvironment : List (Text × Text) :=
  [("PATH".toList, Job.defaultDirectories), ("HOME".toList, "/root".toList)]

/-- Run a program file on an input.  An argument cannot hold the character zero. -/
def runFile (tree : FileTree) (cwd : Place) (name : Text) (path : Path) (arguments : List Text)
    (input : Bytes) : Started :=
  let world : World := ⟨tree, #[.source (ofBytes input), .sink [], .sink []], 4242⟩
  let job : Job := ⟨octets name, arguments.map octets, startEnvironment, cwd,
    [(0, 0), (1, 1), (2, 2)]⟩
  if arguments.any fun t => t.any (· == '\x00') then .refused .zeroCharacter
  else
    match launcher maxLaunches path job world with
    | (.refused fault, _) => .refused fault
    | (.ended status, world) =>
      let (output, world) := Act.written 1 world
      let (messages, world) := Act.written 2 world
      let consumed := input.length - (Act.rest world 0).length
      .finished (toBytes output) (toBytes messages) status (takesInput input.length consumed)

/-- The program files that a name may mean.  A path of several parts means what its parts lead to,
so that a slash at the end of a relative one does not ask for a directory. -/
def filesFor (name : Text) : List Path :=
  let path : Path := ⟨name⟩
  if path.parts.length ≤ 1 then Job.candidates Job.defaultDirectories (octets name)
  else if path.isAbsolute then [path]
  else [path.plain]

/-- The programs that can be run in a directory of a file tree. -/
def programsIn (tree : FileTree) (cwd : Place) : Programs := fun name =>
  let found : Except Fault Path := Job.findAmong tree cwd .notFound (filesFor name)
  match found with
  | .error _ => none
  | .ok path => some (runFile tree cwd path.text path)

end ComponentFile.Shell
