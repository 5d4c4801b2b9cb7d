import ComponentFile.Shell.Variables
import ComponentFile.Tools.Launching

/-!
# Where the shell is

A shell works in a directory and may go to another one.  In the extended language it keeps a stack
of directories to which it can go back.

## Main definitions

* `Shell.goTo`, `Shell.cd`, `Shell.pwd` : the directory of the shell.
* `Shell.pushd`, `Shell.popd`, `Shell.dirs` : the stack.
-/

namespace ComponentFile.Shell

open Text

/-- Print, and complain if that is not possible. -/
def printOrComplain (t : Text) : Sh Nat := do
  let done ← writeTo 1 t
  if done then return 0
  else
    let s ← getThe State
    match s.dialect with
    | .plain => complain ((s.command.getD []) ++ ": I/O error".toList)
    | .extended =>
      let fault ← match s.streams.lookup 1 with
        | some i => act (Act.writeFault? i)
        | none => pure none
      complain (Tool.about "write error".toList (fault.getD .badDescriptor))
    return 1

/-- Go to a directory. -/
def goTo (path : Text) : Sh Nat := do
  let s ← getThe State
  let tree := (← act get).tree
  let fail (fault : Fault) : Sh Nat := do
    match s.dialect with
    | .plain => failBuiltin ("can't cd to ".toList ++ path) 1
    | .extended =>
      complain (Tool.about path fault)
      return 1
  match tree.lookup s.place (Tools.pathOf path) with
  | .error fault => fail fault
  | .ok (.file _ _) => fail .notADirectory
  | .ok .directory =>
    match tree.follow s.place (Tools.pathOf path) with
    | .error fault => fail fault
    | .ok place =>
      let before := s.value? "PWD".toList
      modifyThe State fun s => { s with place := place }
      let shared (name : String) (t : Text) : Sh Unit :=
        changeVar name.toList fun v => { v with value := some (.text t), exported := true }
      match before with
      | some old => shared "OLDPWD" old
      | none => pure ()
      shared "PWD" (Tools.textOfPlace place)
      return 0

/-- Go to a directory that is looked for in the directories of `CDPATH`, if it may be. -/
def goFrom (path : Text) : Sh Nat := do
  let s ← getThe State
  let tree := (← act get).tree
  let first := path.takeWhile (· != '/')
  let searches := !(first.isEmpty || first = ['.'] || first = ['.', '.'])
  let places := if searches then ((s.value? "CDPATH".toList).getD []).splitOn ':' else []
  let candidates := places.map fun directory =>
    if directory.isEmpty then (false, path) else (true, directory ++ '/' :: path)
  match candidates.find? fun c => tree.isDirectory s.place (Tools.pathOf c.2) with
  | some (true, t) =>
    let code ← goTo t
    if code = 0 then say (Tools.textOfPlace (← getThe State).place ++ ['\n'])
    return code
  | _ => goTo path

/-- Go to another directory. -/
def cd : Builtin := fun _ ws => do
  let s ← getThe State
  let (_, ws) ← options "LPe@" "cd: usage: cd [-L|[-P [-e]] [-@]] [dir]" ws
  match ws with
  | [] =>
    match s.value? "HOME".toList with
    | some home => if home.isEmpty then return 0 else goTo home
    | none =>
      match s.dialect with
      | .plain => return 0
      | .extended =>
        complain "HOME not set".toList
        return 1
  | path :: more =>
    if s.dialect = .extended && !more.isEmpty then
      complain "too many arguments".toList
      return 1
    else if path = ['-'] then
      match s.value? "OLDPWD".toList with
      | some old =>
        let code ← goTo old
        if code = 0 then say (old ++ ['\n'])
        return code
      | none =>
        match s.dialect with
        | .plain =>
          say ['\n']
          return 0
        | .extended =>
          complain "OLDPWD not set".toList
          return 1
    else if path.isEmpty then return 0
    else goFrom path

/-- Print the directory of the shell. -/
def pwd : Builtin := fun _ ws => do
  let _ ← options "LP" "pwd: usage: pwd [-LP]" ws
  printOrComplain (Tools.textOfPlace (← getThe State).place ++ ['\n'])

/-! ### The stack of directories -/

/-- A directory with a sign in the place of the home directory. -/
def withoutHome (s : State) (t : Text) : Text :=
  match s.value? "HOME".toList with
  | some home =>
    if home.length > 1 && (t = home || (home ++ ['/']).isPrefixOf t) then '~' :: t.drop home.length
    else t
  | none => t

/-- The directory of the shell and those of the stack. -/
def State.directories (s : State) : List Text :=
  Tools.textOfPlace s.place :: s.stack

/-- Print the directories in a line. -/
def sayDirectories : Sh Unit := do
  let s ← getThe State
  say ([' '].intercalate (s.directories.map (withoutHome s)) ++ ['\n'])

/-- The place in the list of directories that an argument such as `+1` names. -/
def stackIndex? (count : Nat) (w : Text) : Option (Option Nat) :=
  match w with
  | '+' :: digits => (nat? digits).map fun n => if n < count then some n else none
  | '-' :: digits => (nat? digits).map fun n => if n < count then some (count - 1 - n) else none
  | _ => none

/-- Complain about a built-in command for the stack, and fail. -/
def refuseStack (t : Text) : Sh Nat := do
  complain t
  return 1

/-- Make a directory the first one of the list, with others behind it, and go there. -/
def goWith (path : Text) (rest : List Text) (quiet : Bool) : Sh Nat := do
  let code ← goTo path
  if code = 0 then
    modifyThe State fun s => { s with stack := rest }
    if !quiet then sayDirectories
  return code

/-- Put a directory onto the stack and go there, or go to one that is there. -/
def pushd : Builtin := fun _ ws => do
  let s ← getThe State
  let here := Tools.textOfPlace s.place
  let stays := ws.head? = some ['-', 'n']
  match if stays || ws.head? = some ['-', '-'] then ws.drop 1 else ws with
  | [] =>
    match s.stack with
    | [] => refuseStack "no other directory".toList
    | first :: rest => if stays then return 0 else goWith first (here :: rest) false
  | _ :: _ :: _ => refuseStack "too many arguments".toList
  | [w] =>
    match stackIndex? s.directories.length w with
    | some none =>
      refuseStack (if s.stack.isEmpty then "directory stack empty".toList
        else w ++ ": directory stack index out of range".toList)
    | some (some n) =>
      let turned := s.directories.drop n ++ s.directories.take n
      goWith (turned.head?.getD here) (turned.drop 1) false
    | none =>
      if stays then
        set { s with stack := w :: s.stack }
        sayDirectories
        return 0
      else goWith w (here :: s.stack) false

/-- Take a directory from the stack, and go to the one that is then the first. -/
def popd : Builtin := fun _ ws => do
  let s ← getThe State
  let stays := ws.head? = some ['-', 'n']
  let drop (n : Nat) : Sh Nat := do
    if n = 0 && !stays then
      goWith (s.stack.head?.getD []) (s.stack.drop 1) false
    else
      set { s with stack := s.stack.eraseIdx (max n 1 - 1) }
      sayDirectories
      return 0
  match if stays || ws.head? = some ['-', '-'] then ws.drop 1 else ws with
  | [] => if s.stack.isEmpty then refuseStack "directory stack empty".toList else drop 0
  | w :: _ =>
    match stackIndex? s.directories.length w with
    | some (some n) =>
      if s.stack.isEmpty then refuseStack "directory stack empty".toList else drop n
    | some none =>
      refuseStack (if s.stack.isEmpty then "directory stack empty".toList
        else w ++ ": directory stack index out of range".toList)
    | none =>
      complain
        (w ++ (if w.head? = some '-' then ": invalid number" else ": invalid argument").toList)
      report "popd: usage: popd [-n] [+N | -N]\n".toList
      return 2

/-- Print the directories. -/
def dirs : Builtin := fun _ ws => do
  let s ← getThe State
  let letters := ws.flatMap fun w =>
    if w.head? = some '-' && (stackIndex? 0 w).isNone then w.drop 1 else []
  let has (c : Char) : Bool := letters.any (· == c)
  let shown := s.directories.map fun t => if has 'l' then t else withoutHome s t
  match ws.find? fun w => !(w.head? = some '-' && (stackIndex? 0 w).isNone) with
  | some w =>
    match stackIndex? shown.length w with
    | some (some n) =>
      say (shown[n]?.getD [] ++ ['\n'])
      return 0
    | some none =>
      refuseStack (w.drop 1 ++ ": directory stack index out of range".toList)
    | none =>
      complain (w ++ ": invalid option".toList)
      report "dirs: usage: dirs [-clpv] [+N] [-N]\n".toList
      return 2
  | none =>
    if has 'c' then set { s with stack := [] }
    else if has 'v' then
      say (shown.zipIdx.flatMap fun t => padLeft 2 ' ' (ofNat t.2) ++ "  ".toList ++ t.1 ++ ['\n'])
    else if has 'p' then say (joinLines shown)
    else say ([' '].intercalate shown ++ ['\n'])
    return 0

end ComponentFile.Shell
