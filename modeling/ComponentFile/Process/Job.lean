import ComponentFile.Compiler.Failure
import ComponentFile.Process.World
import ComponentFile.Text.Numeral

/-!
# Running programs

## Main definitions

* `Job` : what a program is started with.
* `Tool` : what a program does, which depends on what it is started with.
* `Launcher`, `Launched` : starting another program.
* `Job.find` : the file of a program that is given by its name.
-/

namespace ComponentFile

/-- What a program is started with: its name, its arguments and its environment, the directory it
works in, and its open streams, each with the number by which the program knows it. -/
structure Job where
  name : Text
  arguments : List Text
  environment : List (Text × Text)
  place : Place
  streams : List (Nat × Nat)

/-- What comes of starting a program. -/
inductive Launched where
  | ended (status : ExitStatus)
  | refused (fault : Fault)

/-- Something that starts the program file at a path. -/
abbrev Launcher := Path → Job → Act Launched

/-- What a program does. -/
abbrev Tool (α : Type) := ReaderT Job Act α

namespace Job

/-- A variable of the environment. -/
def env? (job : Job) (name : String) : Option Text :=
  job.environment.lookup name.toList

/-- The stream that the program knows by a number. -/
def stream? (job : Job) (n : Nat) : Option Nat :=
  job.streams.lookup n

/-- The number of a stream that a path below `/dev` stands for. -/
def channel? (path : Text) : Option Nat :=
  match String.ofList path with
  | "/dev/stdin" => some 0
  | "/dev/stdout" => some 1
  | "/dev/stderr" => some 2
  | _ =>
    if Text.startsWith "/dev/fd/" path then Text.nat? (path.drop 8)
    else if Text.startsWith "/proc/self/fd/" path then Text.nat? (path.drop 14)
    else none

/-- Open what a path stands for: one of the program's own streams, or a file. -/
def openPath (job : Job) (path : Text) (opening : Act.Opening) : Act (Except Fault Nat) :=
  match channel? path with
  | some n => return ((job.stream? n).map Except.ok).getD (.error .notFound)
  | none => Act.openFile job.place ⟨Text.ofOctets path⟩ opening

/-- Whether an entry is a program file. -/
def isProgram : Entry → Bool
  | .file _ isProgram => isProgram
  | .directory => false

/-- The program file among the paths, or the fault with which they are refused: a file that is no
program counts before a missing one. -/
def findAmong (tree : FileTree) (cwd : Place) : Fault → List Path → Except Fault Path
  | fault, [] => .error fault
  | fault, path :: rest =>
    match tree.lookup cwd path with
    | .ok entry => if isProgram entry then .ok path else findAmong tree cwd .permissionDenied rest
    | .error _ => findAmong tree cwd fault rest

/-- The directories in which programs are looked for unless the environment says otherwise. -/
def defaultDirectories : Text :=
  "/usr/local/sbin:/usr/local/bin:/usr/sbin:/usr/bin:/sbin:/bin".toList

/-- The paths of a program in the directories of a search path.  An empty directory is the one that
the program works in. -/
def candidates (searchPath name : Text) : List Path :=
  (searchPath.splitOn ':').map fun directory =>
    ⟨Text.ofOctets (if directory.isEmpty then name else directory ++ '/' :: name)⟩

/-- The file of a program: a name with a slash is a path, and other names are looked for in the
directories of the search path. -/
def find (job : Job) (name : Text) (tree : FileTree) : Except Fault Path :=
  if name.any (· == '/') then .ok ⟨Text.ofOctets name⟩
  else if name.isEmpty then .error .notFound
  else
    findAmong tree job.place .notFound
      (candidates ((job.env? "PATH").getD defaultDirectories) name)

end Job

namespace Tool

/-- Write to one of the program's own streams; false when it cannot be written to. -/
def writeTo (n : Nat) (t : Text) : Tool Bool := fun job =>
  match job.stream? n with
  | some i => if t.isEmpty then pure true else Act.write i t
  | none => pure false

/-- The fault with which one of the program's own streams cannot be written to. -/
def outputFault? (n : Nat) : Tool (Option Fault) := fun job =>
  match job.stream? n with
  | some i => Act.writeFault? i
  | none => return some .badDescriptor

/-- Print. -/
def say (t : Text) : Tool Unit := do
  let _ ← writeTo 1 t

/-- Print a message. -/
def report (t : Text) : Tool Unit := do
  let _ ← writeTo 2 t

/-- Print a message behind the name of the program. -/
def complain (t : Text) : Tool Unit := do
  report ((← read).name ++ ": ".toList ++ t ++ ['\n'])

/-- Complain and end with a code. -/
def fail (t : Text) (code : Nat) : Tool Nat := do
  complain t
  return code

/-- The wording of a fault with what it is about. -/
def about (subject : Text) (fault : Fault) : Text :=
  subject ++ ": ".toList ++ fault.description.toList

/-- Read the whole input. -/
def input : Tool Text := fun job =>
  match job.stream? 0 with
  | some i => Act.read i
  | none => pure []

/-- The octets of the file at a path. -/
def contents (path : Text) : Tool (Except Fault Text) := fun job => do
  match ← job.openPath path .reading with
  | .error fault => return .error fault
  | .ok i => if ← Act.isDirectory i then return .error .isADirectory else return .ok (← Act.read i)

/-- The octets of an operand: a file, or the input when it is a dash. -/
def operand (path : Text) : Tool (Except Fault Text) := do
  if path = ['-'] then
    if ((← read).stream? 0).isNone then return .error .badDescriptor
    else return .ok (← input)
  else contents path

/-- Write a file from its start. -/
def writeFile (path t : Text) : Tool (Except Fault Unit) := fun job => do
  match ← job.openPath path .writing with
  | .error fault => return .error fault
  | .ok i =>
    let _ ← Act.write i t
    return .ok ()

/-- The file tree. -/
def tree : Tool FileTree := do
  return (← getThe World).tree

/-- What a path leads to. -/
def lookup (path : Text) : Tool (Except Fault Entry) := do
  return (← tree).lookup (← read).place ⟨Text.ofOctets path⟩

/-- Change the file tree, if that is not refused. -/
def change (f : FileTree → Place → Except Fault FileTree) : Tool (Except Fault Unit) := do
  match f (← tree) (← read).place with
  | .error fault => return .error fault
  | .ok new =>
    modifyThe World fun w => { w with tree := new }
    return .ok ()

/-- Change the file tree as far as that is not refused. -/
def changeInPart (f : FileTree → Place → Attempt Fault) : Tool (Except Fault Unit) := do
  let attempt := f (← tree) (← read).place
  modifyThe World fun w => { w with tree := attempt.tree }
  return match attempt.problem? with
    | none => .ok ()
    | some fault => .error fault

/-- The path of the shell. -/
def shellPath : Path := ⟨"/bin/sh".toList⟩

/-- Start the program file at a path.  A file that is no program by its own first line is a script
of the shell. -/
def startFile (launch : Launcher) (path : Path) (job : Job) : Act Launched := do
  match ← launch path job with
  | .refused .badFormat =>
    launch shellPath { job with arguments := Text.octets path.text :: job.arguments }
  | launched => return launched

/-- Start another program by its name. -/
def start (launch : Launcher) (name : Text) (job : Job) : Act Launched := do
  match job.find name (← get).tree with
  | .error fault => return .refused fault
  | .ok path => startFile launch path { job with name := name }

/-- The streams of a program with another stream in the place of one of them. -/
def redirect (streams : List (Nat × Nat)) (n i : Nat) : List (Nat × Nat) :=
  (n, i) :: streams.filter fun s => s.1 != n

/-- Run a script by the shell, with other streams for its input and its output if they are given. -/
def shell (launch : Launcher) (script : Text) (inward outward : Option Nat) : Tool ExitStatus := do
  let job ← read
  let streams := match inward with
    | some i => redirect job.streams 0 i
    | none => job.streams
  let streams := match outward with
    | some i => redirect streams 1 i
    | none => streams
  match ← launch shellPath
      { job with name := "sh".toList, arguments := ["-c".toList, script], streams := streams } with
  | .ended status => return status
  | .refused _ => return .code 127

end Tool

/-- The number by which shells know how a program ended. -/
def ExitStatus.number : ExitStatus → Nat
  | .code n => n
  | .signal n => 128 + n

end ComponentFile
