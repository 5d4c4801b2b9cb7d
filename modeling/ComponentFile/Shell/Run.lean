import ComponentFile.Process.Interpreter
import ComponentFile.Shell.Builtins

/-!
# Running commands

The functions that run commands call each other through a machine (`Shell.Machine`), whose functions
are those of the next lower level.  The level bounds how deep commands, functions and programs are
nested in each other.

## Main definitions

* `Shell.openRedirections` : the streams of a command.
* `Shell.runSimple` : a simple command.
* `Shell.runCommand` : any command.
* `Shell.machine` : the machine of a level.
-/

namespace ComponentFile.Shell

open Text

/-! ### Redirections -/

/-- The streams of a command. -/
abbrev Streams := List (Nat × Nat)

/-- What is said when a file cannot be opened. -/
def openFault (dialect : Dialect) (creates : Bool) (path : Text) (fault : Fault) : Text :=
  match dialect with
  | .extended =>
    if creates && fault = .fileExists then path ++ ": cannot overwrite existing file".toList
    else Tool.about path fault
  | .plain =>
    let isMissing := fault = .notFound || fault = .notADirectory
    let reason := if !isMissing then fault.description
      else if creates then "Directory nonexistent" else "No such file"
    (if creates then "cannot create " else "cannot open ").toList ++ path ++ ": ".toList ++
      reason.toList

/-- Complain about a redirection. -/
def redirectionFault (t : Text) : Sh (Option Streams) := do
  complain t
  return none

/-- Bind the number of a stream to a file. -/
def bindFile (streams : Streams) (n : Nat) (direction : Direction) (path : Text) :
    Sh (Option Streams) := do
  let s ← getThe State
  let opening : Act.Opening := match direction with
    | .input => .reading
    | .append => .appending
    | .bothAppend => .appending
    | .update => .updating
    | .output => if s.has "noclobber" then .creating else .writing
    | _ => .writing
  let job := { s.job [] [] with streams := s.allStreams streams }
  match ← act (job.openPath path opening) with
  | .ok i => return some (Tool.redirect streams n i)
  | .error fault =>
    redirectionFault (openFault s.dialect (direction != .input) path fault)

/-- The only field of the word of a redirection. -/
def redirectionTarget (m : Machine) (w : Word) : Sh (Option Text) := do
  match (← getThe State).dialect with
  | .plain => return some (← expandText m false (withHomes (← getThe State) false w))
  | .extended =>
    match ← expandFields m w with
    | [t] => return some t
    | _ =>
      let shown := w.flatMap fun
        | .plain t => t
        | .quoted t => t
        | .parameter name _ _ _ => '$' :: name
        | _ => []
      complain (shown ++ ": ambiguous redirect".toList)
      return none

/-- Bind the number of a stream to another stream. -/
def bindStream (streams : Streams) (n : Nat) (direction : Direction) (t : Text) :
    Sh (Option Streams) := do
  if t = ['-'] then return some (streams.filter fun s => s.1 != n)
  else
    match nat? t with
    | some other =>
      match streams.lookup other with
      | some i => return some (Tool.redirect streams n i)
      | none => redirectionFault (t ++ ": Bad file descriptor".toList)
    | none =>
      match (← getThe State).dialect, direction with
      | .extended, .copyOutput =>
        match ← bindFile streams 1 .output t with
        | some streams => return (streams.lookup 1).map fun i => Tool.redirect streams 2 i
        | none => return none
      | .extended, _ => redirectionFault (t ++ ": ambiguous redirect".toList)
      | .plain, _ => redirectionFault "Bad fd number".toList

/-- Open what a redirection asks for. -/
def openRedirection (m : Machine) (streams : Streams) (r : Redirection) : Sh (Option Streams) := do
  match r with
  | .document line n pieces =>
    modifyThe State fun s => { s with line := line }
    let t ← expandText m true pieces
    return some (Tool.redirect streams (n.getD 0) (← act (Act.newStream (.source t))))
  | .word line n pieces =>
    modifyThe State fun s => { s with line := line }
    let t ← expandText m false pieces
    return some (Tool.redirect streams (n.getD 0) (← act (Act.newStream (.source (t ++ ['\n'])))))
  | .path line n direction w =>
    if line > 0 then modifyThe State fun s => { s with line := line }
    match ← redirectionTarget m w with
    | none => return none
    | some t =>
      match direction with
      | .copyInput => bindStream streams (n.getD 0) direction t
      | .copyOutput => bindStream streams (n.getD 1) direction t
      | .both | .bothAppend =>
        match ← bindFile streams 1 direction t with
        | some streams => return (streams.lookup 1).map fun i => Tool.redirect streams 2 i
        | none => return none
      | .input | .update => bindFile streams (n.getD 0) direction t
      | _ => bindFile streams (n.getD 1) direction t

/-- Open what redirections ask for, one after the other; none when one of them is refused. -/
def openRedirections (m : Machine) (streams : Streams) : List Redirection → Sh (Option Streams)
  | [] => return some streams
  | r :: rest => do
    match ← openRedirection m streams r with
    | some streams => openRedirections m streams rest
    | none => return none

/-! ### Programs -/

/-- Why a program was not started. -/
structure StartFailure where
  /-- What is said. -/
  text : Text
  /-- The status. -/
  code : Nat
  /-- Whether the message comes without the number of the line. -/
  isBare : Bool := false
  /-- The file that was to be started, if one was looked for and found. -/
  file : Option Text := none

/-- What the plain language says of a program that cannot be started.  A file that was found
counts as such only if it is there. -/
def plainFailure (name : Text) (isFound : Bool) (fault : Fault) : StartFailure :=
  match fault with
  | .notFound => ⟨name ++ ": not found".toList, 127, false, none⟩
  | .notADirectory => ⟨name ++ ": not found".toList, 127, false, none⟩
  | .nameTooLong => ⟨Tool.about name fault, 127, false, none⟩
  | .tooManyLinks => ⟨Tool.about name fault, 127, false, none⟩
  | _ => ⟨Tool.about name fault, if isFound then 126 else 127, false, none⟩

/-- The name of an interpreter as it is shown, with a carriage return at its end made visible. -/
def shownInterpreter (name : Text) : Text :=
  match name.reverse with
  | '\r' :: rest => rest.reverse ++ "^M".toList
  | _ => name

/-- What the extended language says of a file that cannot be started. -/
def fileFailure (tree : FileTree) (place : Place) (file : Text) (fault : Fault) : StartFailure :=
  let plainly (fault : Fault) (code : Nat) : StartFailure :=
    ⟨Tool.about file fault, code, false, some file⟩
  match tree.lookup place (Tools.pathOf file), fault with
  | .ok .directory, _ => plainly .isADirectory 126
  | .ok (.file _ true), .argumentsTooLong => plainly fault 126
  | .ok (.file _ true), .notFound =>
    ⟨file ++ ": cannot execute: required file not found".toList, 127, false, some file⟩
  | .ok (.file bytes true), _ =>
    match Shebang.ofOctets? (ofBytes bytes) with
    | some shebang =>
      ⟨file ++ ": ".toList ++ shownInterpreter shebang.interpreter ++
        ": bad interpreter: ".toList ++ fault.description.toList, 126, true, some file⟩
    | none => plainly fault 126
  | _, .notFound => plainly fault 127
  | _, _ => plainly fault 126

/-- What is said of a program that was not found on the search path.  In the extended language a
file that is no program is found nevertheless. -/
def searchFailure (s : State) (tree : FileTree) (name : Text) (candidates : List Path)
    (fault : Fault) : StartFailure :=
  match s.dialect with
  | .plain => plainFailure name false fault
  | .extended =>
    let isFile (path : Path) : Bool := match tree.lookup s.place path with
      | .ok (.file _ _) => true
      | _ => false
    match candidates.find? isFile with
    | some path => fileFailure tree s.place (octets path.text) .permissionDenied
    | none =>
      if (s.valueOf "PATH").isEmpty then ⟨Tool.about name .notFound, 127, false, none⟩
      else ⟨name ++ ": command not found".toList, 127, false, none⟩

/-- The environment of a program.  The extended shell tells it its own path, and counts itself as
gone when it becomes the program. -/
def environmentFor (s : State) (path : Option Text) (replaced : Bool) : List (Text × Text) :=
  match s.dialect with
  | .plain => s.environment
  | .extended =>
    let leveled := s.environment.map fun v =>
      if replaced && v.1 = "SHLVL".toList then (v.1, ofNat ((nat? v.2).getD 0 - 1)) else v
    match path with
    | none => leveled
    | some path =>
      if leveled.any fun v => v.1 == ['_'] then
        leveled.map fun v => if v.1 = ['_'] then (v.1, path) else v
      else leveled ++ [(['_'], path)]

/-- How a shell starts a program: as a command, as a command that the shell becomes because nothing
comes after it, or as the program that it is asked to become. -/
inductive Launching where
  | command
  | lastCommand
  | replacement
  deriving DecidableEq

/-- Start a program and find how it ended. -/
def startProgram (m : Machine) (launching : Launching) (name : Text) (arguments : List Text) :
    Sh (Except StartFailure ExitStatus) := do
  let s ← getThe State
  let tree := (← act get).tree
  let isPath := name.any (· == '/')
  let candidates :=
    if name.isEmpty then [] else Job.candidates ((s.value? "PATH".toList).getD []) name
  let found : Except Fault Path :=
    if isPath then .ok (Tools.pathOf name)
    else
      Job.findAmong tree s.place
        (if name.isEmpty && s.dialect = .plain then .permissionDenied else .notFound) candidates
  match found with
  | .error fault => return .error (searchFailure s tree name candidates fault)
  | .ok path =>
    if !isPath then modifyThe State fun s => s.locate name (octets path.text) 1
    let failure (fault : Fault) : StartFailure :=
      match s.dialect with
      | .plain => plainFailure name true fault
      | .extended => fileFailure tree s.place (if isPath then name else octets path.text) fault
    let replaced := match launching with
      | .command => false
      | .lastCommand => true
      | .replacement => !s.isSubshell
    let shown := if launching = .replacement then none
      else some (if isPath then name else octets path.text)
    let job := { s.job name arguments with environment := environmentFor s shown replaced }
    match ← act (m.launch path job) with
    | .ended status => return .ok status
    | .refused .badFormat =>
      let shell : Path := match s.dialect with
        | .plain => Tool.shellPath
        | .extended => ⟨"/bin/bash".toList⟩
      match ← act (m.launch shell { job with arguments := octets path.text :: arguments }) with
      | .ended status => return .ok status
      | .refused fault => return .error (failure fault)
    | .refused fault => return .error (failure fault)

/-- Say why a program was not started. -/
def StartFailure.tell (failure : StartFailure) : Sh Unit := do
  if failure.isBare then report ((← getThe State).label ++ ": ".toList ++ failure.text ++ ['\n'])
  else complain failure.text

/-- Run a program as a command. -/
def runProgram (m : Machine) (mode : Mode) (name : Text) (arguments : List Text) : Sh Unit := do
  let s ← getThe State
  let isLast := mode.last && s.traps.isEmpty
  match ← startProgram m (if isLast then .lastCommand else .command) name arguments with
  | .error failure =>
    failure.tell
    setStatus failure.code
  | .ok (.code n) => setStatus n
  | .ok (.signal n) =>
    if isLast && s.dialect = .extended && !s.isSubshell then throw (.killed n)
    else
      reportSignal n
      setStatus (128 + n)

/-! ### Functions and built-in commands -/

/-- Run a function. -/
def runFunction (m : Machine) (mode : Mode) (name : Text) (body : Command)
    (arguments : List Text) : Sh Unit := do
  let before ← getThe State
  set { before with arguments := arguments, frames := [] :: before.frames, loops := 0 }
  if before.dialect = .extended then
    keepVar "FUNCNAME".toList
    let outer := match (before.var? "FUNCNAME".toList).bind Var.value with
      | some v => v.elements
      | none => if before.origin = "-c".toList then [] else ["main".toList]
    let names := (name :: outer).zipIdx.map fun n => (n.2, n.1)
    modifyThe State fun s =>
      s.setVar "FUNCNAME".toList { Var.unset with value := some (.list names) }
  let r ← attempt (m.run ⟨mode.tested, false⟩ body)
  match r, (← getThe State).traps.lookup returnTrap with
  | .error .exit, _ => pure ()
  | .error (.killed _), _ => pure ()
  | _, some action =>
    if (before.traps.lookup returnTrap).isNone then runAction m action
  | _, none => pure ()
  modifyThe State fun s =>
    let hidden := s.frames.head?.getD []
    let restored := hidden.foldl (fun s v => s.restoreVar v.1 v.2) s
    { restored with
      arguments := before.arguments, frames := before.frames, loops := before.loops }
  match r with
  | .error .back => pure ()
  | r => resume r

/-- Run a built-in command.  Faults of special ones end the shell in the plain language. -/
def runBuiltin (m : Machine) (mode : Mode) (isSpecial : Bool) (name : Text) (b : Builtin)
    (ws : List Text) : Sh Unit := do
  let before ← getThe State
  modifyThe State fun s => { s with command := some name, tested := mode.tested }
  let r ← attempt (b m ws)
  modifyThe State fun s => { s with command := before.command, tested := before.tested }
  match r with
  | .ok n => setStatus n
  | .error .fault =>
    if isSpecial && (← getThe State).dialect = .plain then throw .exit
  | .error jump => throw jump

/-- Complain in the name of a built-in command. -/
def complainAs (command : String) (t : Text) : Sh Unit := do
  let s ← getThe State
  modifyThe State fun s => { s with command := some command.toList }
  complain t
  modifyThe State fun t => { t with command := s.command }

/-- Say why the shell does not become another program, and find the status.  The extended language
says more of files that were found. -/
def tellExecFailure (name : Text) (failure : StartFailure) : Sh Nat := do
  let s ← getThe State
  let tree := (← act get).tree
  match s.dialect, failure.file with
  | .plain, _ =>
    complainAs "exec" failure.text
    return failure.code
  | .extended, none =>
    if tree.isDirectory s.place (Tools.pathOf name) then
      complainAs "exec" (name ++ ": cannot execute: ".toList ++
        Fault.isADirectory.description.toList)
      return 126
    else
      complainAs "exec" (name ++ ": not found".toList)
      return 127
  | .extended, some file =>
    failure.tell
    if failure.code ≠ 127 then
      match tree.lookup s.place (Tools.pathOf file) with
      | .ok (.file _ true) => complain (file ++ ": Success".toList)
      | _ =>
        complainAs "exec" (file ++ ": cannot execute".toList ++ failure.text.drop file.length)
    return failure.code

/-- Become another program. -/
def exec (m : Machine) (ws : List Text) : Sh Unit := do
  match if ws.head? = some ['-', '-'] then ws.drop 1 else ws with
  | [] => setStatus 0
  | name :: arguments =>
    match ← startProgram m .replacement name arguments with
    | .error failure => exitWith (← tellExecFailure name failure)
    | .ok (.code n) =>
      modifyThe State fun s => { s with traps := s.traps.filter fun t => t.1 != 0 }
      exitWith n
    | .ok (.signal n) => throw (.killed n)

/-- Run a command by its name; functions count unless they are to be passed over. -/
def runNamed (m : Machine) (mode : Mode) (passFunctions : Bool) :
    Nat → List Text → Sh Unit
  | 0, _ => pure ()
  | _ + 1, [] => setStatus 0
  | fuel + 1, name :: arguments => do
    let s ← getThe State
    let isSpecial := s.dialect = .plain && isAmong specialNames name
    let function := if passFunctions || isSpecial then none else s.functions.lookup name
    match function with
    | some body => runFunction m mode name body arguments
    | none =>
      match String.ofList name with
      | "exec" => exec m arguments
      | "command" => runCommandWord fuel arguments
      | "builtin" =>
        if s.dialect = .plain then runProgram m mode name arguments
        else
          match arguments with
          | [] => setStatus 0
          | inner :: rest =>
            match builtin? s.dialect inner with
            | some b => runBuiltin m mode false inner b rest
            | none =>
              modifyThe State fun s => { s with command := some name }
              complain (inner ++ ": not a shell builtin".toList)
              modifyThe State fun t => { t with command := s.command, status := 1 }
      | _ =>
        match builtin? s.dialect name with
        | some b =>
          let isLocal := name = "local".toList
          runBuiltin m mode ((isSpecial || isLocal) && !passFunctions) name b arguments
        | none => runProgram m mode name arguments
where
  /-- Say what names stand for: the first one in the plain language. -/
  describeAll (short : Bool) (names : List Text) : Sh Nat := do
    if ← isPlain then forWords (describe short) 0 (names.take 1)
    else
      let codes ← names.mapM (describe short)
      return if codes.isEmpty || codes.contains 0 then 0 else 1
  /-- Run a command that is no function, or say what it is. -/
  runCommandWord (fuel : Nat) (ws : List Text) : Sh Unit := do
    match ws with
    | ['-', 'v'] :: names => setStatus (← describeAll true names)
    | ['-', 'V'] :: names => setStatus (← describeAll false names)
    | ['-', 'p'] :: rest => runNamed m mode true fuel rest
    | ['-', '-'] :: rest => runNamed m mode true fuel rest
    | ('-' :: c :: _) :: _ =>
      runBuiltin m mode false "command".toList (fun _ _ => do
        if ← isPlain then failBuiltin ("Illegal option -".toList ++ [c]) 2
        else
          complain ('-' :: c :: ": invalid option".toList)
          return 2) []
    | rest => runNamed m mode true fuel rest

/-! ### Simple commands -/

/-- Whether the arguments of a command may be assignments. -/
def takesAssignments (dialect : Dialect) (name : Text) : Bool :=
  isAmong (["export", "readonly", "local"] ++
    if dialect = .extended then ["declare", "typeset"] else []) name

/-- The words of a command after expansion. -/
def expandCommand (m : Machine) (ws : List Word) : Sh (List Text) := do
  match ws with
  | [] => return []
  | first :: rest =>
    let dialect := (← getThe State).dialect
    if takesAssignments dialect ((Word.plainText? first).getD []) then
      let head ← expandFields m first
      let others ← rest.mapM fun w => do
        match assignment? dialect w with
        | some (.value _ none _ value) =>
          let name := w.head?.map (fun
            | .plain t => t.takeWhile (· != '=')
            | _ => []) |>.getD []
          return [name ++ '=' :: (← expandAssigned m value)]
        | _ => expandFields m w
      return head ++ others.flatten
    else expandWords m ws

/-- A word as the extended language shows it. -/
def shownWord (t : Text) : Text :=
  if t.isEmpty then ['\'', '\'']
  else if needsMarks t then singlyQuoted t
  else if Format.needsEscapes t then Format.escaped t
  else t

/-- Show a command before it runs, if that is asked for. -/
def showCommand (assignments : List (Text × Text)) (ws : List Text) : Sh Unit := do
  let s ← getThe State
  if s.has "xtrace" then
    let sign := (s.value? "PS4".toList).getD "+ ".toList
    match s.dialect with
    | .plain =>
      let parts := assignments.map (fun a => a.1 ++ '=' :: a.2) ++ ws
      report (sign ++ [' '].intercalate parts ++ ['\n'])
    | .extended =>
      eachOf (fun (a : Text × Text) =>
        report (sign ++ a.1 ++ '=' :: (if a.2.isEmpty then [] else shownWord a.2) ++ ['\n']))
        assignments
      if !ws.isEmpty then report (sign ++ [' '].intercalate (ws.map shownWord) ++ ['\n'])

/-- The name that an assignment is for. -/
def assignedName : Assignment → Text
  | .value name _ _ _ => name
  | .elements name _ _ => name

/-- Make assignments, and find the names and the values. -/
def makeAssignments (m : Machine) (as : List Assignment) : Sh (List (Text × Text)) := do
  let made ← as.mapM fun a => do
    assign m a
    let name := assignedName a
    return (name, ((← getThe State).value? name).getD [])
  return made

/-- Leave the shell, or the line, when a failure is not to be passed over. -/
def checkFailure (m : Machine) (mode : Mode) : Sh Unit := do
  let s ← getThe State
  if s.status != 0 && !mode.tested then
    match s.traps.lookup failureTrap with
    | some action => runAction m action
    | none => pure ()
    if (← getThe State).has "errexit" then throw .exit

/-- The status after redirections that are refused. -/
def refuseRedirections (isSpecial : Bool) : Sh Unit := do
  match (← getThe State).dialect with
  | .plain =>
    setStatus 2
    if isSpecial then throw .exit
  | .extended => setStatus 1

/-- Run a command whose words are known, with assignments that count for it only. -/
def runWords (m : Machine) (mode : Mode) (as : List Assignment) (ws : List Text) : Sh Unit := do
  let s ← getThe State
  let name := ws.head?.getD []
  let isSpecial := s.dialect = .plain && isAmong specialNames name
  let run : Sh Unit := runNamed m mode false 10 ws
  if as.isEmpty then
    showCommand [] ws
    run
  else
    let names := as.map assignedName
    let before := names.map fun n => (n, s.var? n)
    let restore : Sh Unit := modifyThe State fun s =>
      before.foldl (fun s v => s.restoreVar v.1 v.2) s
    if isSpecial then
      let made ← makeAssignments m as
      showCommand made ws
      run
    else
      finally_ (do
        let made ← makeAssignments m as
        showCommand made ws
        modifyThe State fun s => names.foldl (fun s n =>
          match s.var? n with
          | some v => s.setVar n { v with exported := true }
          | none => s) { s with passed := names.reverse ++ s.passed }
        run) (do
          restore
          modifyThe State fun t => { t with passed := s.passed })

/-- Run what a trap asks for before each command. -/
def runCommandTrap (m : Machine) : Sh Unit := do
  let s ← getThe State
  match s.traps.lookup commandTrap with
  | some action => if s.frames.isEmpty && s.origin != "trap".toList then runAction m action
  | none => pure ()

/-- Run a simple command. -/
def runSimple (m : Machine) (mode : Mode) (line : Nat) (as : List Assignment) (words : List Word)
    (rs : List Redirection) : Sh Unit := do
  modifyThe State fun s => { s with line := line, substituted := none }
  let processes := (← getThe State).processes.length
  runCommandTrap m
  let ws ← expandCommand m words
  let s ← getThe State
  let isSpecial := s.dialect = .plain && (ws.head?.any (isAmong specialNames))
  let (lists, as) := as.partition fun
    | .elements _ _ _ => !words.isEmpty
    | _ => false
  match ← if rs.isEmpty then pure (some s.streams) else openRedirections m s.streams rs with
  | none => refuseRedirections isSpecial
  | some streams =>
    modifyThe State fun s => { s with line := line }
    match ws with
    | [] =>
      let made ← makeAssignments m as
      if !made.isEmpty then showCommand made []
      setStatus ((← getThe State).substituted.getD 0)
    | name :: rest =>
      let isExec := name = "exec".toList && rest.isEmpty
      if isExec then
        modifyThe State fun s => { s with streams := streams }
        runWords m mode as ws
      else if rs.isEmpty then runWords m mode as ws
      else withStreams streams (runWords m { mode with last := false } as ws)
      if !isExec then closeProcesses m processes (runAction m)
      if !lists.isEmpty then
        let _ ← makeAssignments m lists
  if s.dialect = .extended then
    modifyThe State fun s =>
      s.setVar ['_'] { Var.unset with value := some (.text (ws.getLast?.getD [])) }
  checkFailure m mode

/-! ### Loops -/

/-- Run the body of a loop once; false when the loop is left. -/
def roundOf (x : Sh Unit) : Sh Bool := do
  match ← attempt x with
  | .ok () => return true
  | .error (.leave (n + 2)) => throw (Jump.leave (n + 1))
  | .error (.leave _) => return false
  | .error (.next (n + 2)) => throw (Jump.next (n + 1))
  | .error (.next _) => return true
  | .error jump => throw jump

/-- Repeat a body while a test says so; the status is that of the last round. -/
def repeatWhile (test : Sh Bool) (body : Sh Unit) (last : Nat) : Nat → Sh Unit
  | 0 => setStatus last
  | fuel + 1 => fun s w =>
    match test s w with
    | ((.ok false, s), w) => setStatus last s w
    | ((.ok true, s), w) =>
      match roundOf body s w with
      | ((.ok true, s), w) => repeatWhile test body s.status fuel s w
      | ((.ok false, s), w) => ((.ok (), s), w)
      | ((.error jump, s), w) => ((.error jump, s), w)
    | ((.error jump, s), w) => ((.error jump, s), w)

/-- Run a body for each of some texts. -/
def repeatFor (body : Text → Sh Unit) : List Text → Sh Unit
  | [] => pure ()
  | t :: rest => fun s w =>
    match roundOf (body t) s w with
    | ((.ok true, s), w) => repeatFor body rest s w
    | ((.ok false, s), w) => ((.ok (), s), w)
    | ((.error jump, s), w) => ((.error jump, s), w)

/-- Run something inside of a loop. -/
def inLoop (x : Sh Unit) : Sh Unit := do
  modifyThe State fun s => { s with loops := s.loops + 1 }
  finally_ x (modifyThe State fun s => { s with loops := s.loops - 1 })

/-- Run a loop. -/
def runLoop (m : Machine) (mode : Mode) (whileTrue : Bool) (condition body : Command) : Sh Unit :=
  let test : Sh Bool := do
    match ← attempt (m.run ⟨true, false⟩ condition) with
    | .ok () => return ((← getThe State).status == 0) == whileTrue
    | .error (.leave (n + 2)) => throw (Jump.leave (n + 1))
    | .error (.leave _) => return false
    | .error jump => throw jump
  inLoop (repeatWhile test (m.run ⟨mode.tested, false⟩ body) 0 maxRepetitions)

/-- Run a loop over words. -/
def runFor (m : Machine) (mode : Mode) (line : Nat) (name : Text) (words : Option (List Word))
    (body : Command) : Sh Unit := do
  modifyThe State fun s => { s with line := line }
  let texts ← match words with
    | some ws => expandWords m ws
    | none => pure (← getThe State).arguments
  if !isName name then
    complain ("\x60".toList ++ name ++ "': not a valid identifier".toList)
    setStatus 1
  else
    setStatus 0
    inLoop (repeatFor (fun t => do
      assignText name t
      m.run ⟨mode.tested, false⟩ body) texts)

/-- The lines of a menu. -/
def menuLines (texts : List Text) : Text :=
  let width := (ofNat texts.length).length
  texts.zipIdx.flatMap fun t => padLeft width ' ' (ofNat (t.2 + 1)) ++ ") ".toList ++ t.1 ++ ['\n']

/-- Ask for the number of a text until there is an answer; none at the end of the input. -/
def askFor (texts : List Text) (shown : Bool) : Nat → Sh Bool
  | 0 => return false
  | fuel + 1 => do
    if shown then report (menuLines texts)
    report (((← getThe State).value? "PS3".toList).getD "#? ".toList)
    let code ← readInto ⟨false, '\n', none, 0, none⟩ ["REPLY".toList]
    let answer := (← getThe State).valueOf "REPLY"
    if code != 0 && answer.isEmpty then
      say ['\n']
      return false
    else if answer.isEmpty then askFor texts true fuel
    else return true

/-- Run a loop over words that are chosen from a menu. -/
def runSelection (m : Machine) (mode : Mode) (line : Nat) (name : Text) (words : Option (List Word))
    (body : Command) : Sh Unit := do
  modifyThe State fun s => { s with line := line }
  let texts ← match words with
    | some ws => expandWords m ws
    | none => pure (← getThe State).arguments
  if texts.isEmpty then setStatus 0
  else
    report (menuLines texts)
    let test : Sh Bool := do
      let asked ← askFor texts false maxRepetitions
      if asked then
        let n := (nat? ((← getThe State).valueOf "REPLY")).getD 0
        assignText name (if n = 0 then [] else texts[n - 1]?.getD [])
      return asked
    inLoop do
      repeatWhile test (m.run ⟨mode.tested, false⟩ body) 1 maxRepetitions

/-- The value of a part of a counting loop, or one without it. -/
def calculatePart (m : Machine) (pieces : List Piece) : Sh Int := do
  let t ← expandText m true pieces
  if t.all isWhite then return 1 else calculate t

/-- Run a counting loop. -/
def runCounting (m : Machine) (mode : Mode) (first condition step : List Piece) (body : Command) :
    Sh Unit := do
  let _ ← calculatePart m first
  setStatus 0
  let test : Sh Bool := do return (← calculatePart m condition) != 0
  let round : Sh Unit := do
    let goesOn ← roundOf (m.run ⟨mode.tested, false⟩ body)
    if goesOn then
      let _ ← calculatePart m step
    else throw (Jump.leave 1)
  inLoop (repeatWhile test round 0 maxRepetitions)

/-! ### Choices and tests -/

/-- Whether marked characters are a pattern that matches a text. -/
def matchesMarked (s : State) (rules : GlobRules) (marked : List MarkedChar) (t : Text) : Bool :=
  if s.has "nocasematch" then
    (Glob.ofMarked rules (marked.map fun c => (c.1.toLower, c.2))).isMatch (lower t)
  else (Glob.ofMarked rules marked).isMatch t

/-- Whether one of some patterns matches a text. -/
def matchesAny (m : Machine) (t : Text) : List Word → Sh Bool
  | [] => return false
  | w :: rest => do
    let s ← getThe State
    let marked := markParts (← m.parts false (withHomes s false w))
    if matchesMarked s s.globRules marked t then return true else matchesAny m t rest

/-- Run the item of a choice that a text matches.  When `falls` says so, the next one is run
whatever it matches. -/
def runItems (m : Machine) (mode : Mode) (t : Text) (falls : Bool) :
    List (List Word × Command × Continuation) → Sh Unit
  | [] => pure ()
  | (patterns, body, continuation) :: rest => do
    let chosen ← if falls then pure true else matchesAny m t patterns
    if !chosen then runItems m mode t false rest
    else
      setStatus 0
      m.run { mode with last := mode.last && continuation == .done } body
      match continuation with
      | .done => pure ()
      | .fall => runItems m mode t true rest
      | .test => runItems m mode t false rest

/-- The number that a word of a condition is. -/
def testNumber (t : Text) : Sh Int := calculate t

/-- Whether a condition between double brackets holds for two words. -/
def testBinary (m : Machine) (facts : Condition.Facts) (op : Text) (a b : Word) : Sh Bool := do
  let x ← expandText m false (withHomes (← getThe State) false a)
  let ignoreCase := (← getThe State).has "nocasematch"
  let isMatch : Sh Bool := do
    let s ← getThe State
    return matchesMarked s { s.globRules with groups := true } (markParts (← m.parts false b)) x
  match String.ofList op with
  | "=" => isMatch
  | "==" => isMatch
  | "!=" => return !(← isMatch)
  | "=~" =>
    let marked := markParts (← m.parts false b)
    let source := marked.flatMap fun c =>
      if c.2 && !isNameChar c.1 then ['\\', c.1] else [c.1]
    match Regex.read { extended := true, strict := true } source with
    | .error _ =>
      setStatus 2
      return false
    | .ok r =>
      let f : Pattern := ⟨r, ignoreCase, false⟩
      match f.find? (.start x) true with
      | some found =>
        let whole := (x.drop found.start).take (found.stop.index - found.start)
        let groups := (List.range r.groups).map fun (i : Nat) =>
          (i + 1, (found.captures.lookup (i + 1)).getD [])
        changeVar "BASH_REMATCH".toList fun v =>
          { v with value := some (.list ((0, whole) :: groups)) }
        return true
      | none =>
        changeVar "BASH_REMATCH".toList fun v => { v with value := some (.list []) }
        return false
  | "<" => return x != (← expandText m false b) && Text.le x (← expandText m false b)
  | ">" => return x != (← expandText m false b) && Text.le (← expandText m false b) x
  | "-ef" => return facts.same x (← expandText m false b)
  | "-nt" => return false
  | "-ot" => return false
  | _ =>
    let i ← testNumber x
    let j ← testNumber (← expandText m false b)
    return match String.ofList op with
      | "-eq" => i == j
      | "-ne" => i != j
      | "-lt" => i < j
      | "-le" => i ≤ j
      | "-gt" => i > j
      | _ => i ≥ j

/-- Whether a condition between double brackets holds. -/
def holds (m : Machine) (facts : Condition.Facts) : Test → Sh Bool
  | .word w => do return !(← expandText m false w).isEmpty
  | .unary op w => do
    let t ← expandText m false w
    return Condition.ofWord facts op t
  | .binary op a b => testBinary m facts op a b
  | .not t => do return !(← holds m facts t)
  | .both a b => do if ← holds m facts a then holds m facts b else return false
  | .either a b => do if ← holds m facts a then return true else holds m facts b

/-! ### Pipelines -/

/-- Run commands one after the other, each with the output of the one before it as its input, and
find their statuses. -/
def runPipes (m : Machine) (inward : Option Nat) (done : List Nat) : List Command → Sh (List Nat)
  | [] => return done.reverse
  | c :: rest => do
    let streams := (← getThe State).streams
    let streams := match inward with
      | some i => Tool.redirect streams 0 i
      | none => streams
    let outward ← if rest.isEmpty then pure none else some <$> act Act.pipe
    let streams := match outward with
      | some i => Tool.redirect streams 1 i
      | none => streams
    let status ← if rest.isEmpty && (← getThe State).has "lastpipe" then
        withStreams streams (m.run ⟨false, false⟩ c)
        pure (← getThe State).status
      else
        isolated (do
          modifyThe State fun s => { s with streams := streams }
          m.run ⟨false, false⟩ c) (runAction m)
    match inward with
    | some i => act (modify fun w => w.setStream i .nothing)
    | none => pure ()
    match outward with
    | some i => act (Act.turn i)
    | none => pure ()
    runPipes m outward (status :: done) rest

/-- In the plain language, look up the program that a command of a pipeline begins with. -/
def locateProgram : Command → Sh Unit
  | .simple _ _ (w :: _) _ => do
    let s ← getThe State
    let name := (Word.plainText? w).getD []
    if s.dialect = .plain && isName name then
      match ← kindOf name with
      | .program path => modifyThe State fun s => s.locate name path 0
      | _ => pure ()
  | _ => pure ()

/-- Run a pipeline. -/
def runPipeline (m : Machine) (mode : Mode) (negated : Bool) (cs : List Command) : Sh Unit := do
  match cs with
  | [c] => m.run ⟨mode.tested || negated, mode.last && !negated⟩ c
  | _ =>
    eachOf locateProgram cs
    let statuses ← runPipes m none [] cs
    let s ← getThe State
    if s.dialect = .extended then
      modifyThe State fun s => s.setVar "PIPESTATUS".toList { Var.unset with
        value := some (.list (statuses.zipIdx.map fun p => (p.2, ofNat p.1))) }
    let failed := statuses.filter (· != 0)
    setStatus (if s.has "pipefail" then failed.getLast?.getD 0 else statuses.getLast?.getD 0)
  if negated then
    modifyThe State fun s => { s with status := if s.status = 0 then 1 else 0 }
  else if cs.length > 1 then checkFailure m mode

/-! ### All commands -/

/-- Run commands in a subshell. -/
def runSubshell (m : Machine) (mode : Mode) (body : Command) : Sh Unit := do
  let status ← isolated (m.run ⟨mode.tested, true⟩ body) (runAction m)
  setStatus status
  checkFailure m mode

/-- Whether a command is a simple one. -/
def isSimple : Command → Bool
  | .simple _ _ _ _ => true
  | .pipeline false [.simple _ _ _ _] => true
  | _ => false

/-- Run a command in the background, which ends before anything else is done. -/
def runBackground (m : Machine) (c : Command) : Sh Unit := do
  let pid ← act Act.newProcess
  let quiet ← act (Act.newStream .nothing)
  let streams := Tool.redirect (← getThe State).streams 0 quiet
  let status ← isolated (do
    modifyThe State fun s => { s with streams := streams }
    m.run ⟨false, isSimple c⟩ c) (runAction m)
  modifyThe State fun s => { s with background := (pid, status) :: s.background, status := 0 }

/-- Run commands one after the other. -/
def runSequence (m : Machine) (mode : Mode) : List Command → Sh Unit
  | [] => setStatus 0
  | [c] => m.run mode c
  | c :: rest => fun s w =>
    match m.run { mode with last := false } c s w with
    | ((.ok (), s), w) => runSequence m mode rest s w
    | ((.error jump, s), w) => ((.error jump, s), w)

/-- Run a command, unless commands are only read. -/
def runCommand (m : Machine) (mode : Mode) (c : Command) : Sh Unit := do
  if (← getThe State).has "noexec" then return
  match c with
  | .simple line as words rs =>
    runSimple m mode line as words rs
    if (← getThe State).dialect = .extended then
      modifyThe State fun s =>
        if words.isEmpty then s
        else if (s.var? "PIPESTATUS".toList).isSome then
          s.setVar "PIPESTATUS".toList
            { Var.unset with value := some (.list [(0, ofNat s.status)]) }
        else s
  | .pipeline negated cs => runPipeline m mode negated cs
  | .both a b =>
    m.run ⟨true, false⟩ a
    if (← getThe State).status = 0 then m.run mode b
  | .either a b =>
    m.run ⟨true, false⟩ a
    if (← getThe State).status != 0 then m.run mode b
  | .sequence cs => runSequence m mode cs
  | .background c => runBackground m c
  | .subshell line body =>
    modifyThe State fun s => { s with line := line }
    runSubshell m mode body
  | .group body => m.run { mode with last := false } body
  | .conditional condition body otherwise =>
    m.run ⟨true, false⟩ condition
    if (← getThe State).status = 0 then m.run ⟨mode.tested, false⟩ body
    else
      match otherwise with
      | some c => m.run ⟨mode.tested, false⟩ c
      | none => setStatus 0
  | .loop whileTrue condition body => runLoop m mode whileTrue condition body
  | .forEach line name words body => runFor m mode line name words body
  | .selection line name words body => runSelection m mode line name words body
  | .counting line first condition step body =>
    modifyThe State fun s => { s with line := line }
    runCounting m mode first condition step body
  | .choose line word items =>
    modifyThe State fun s => { s with line := line }
    let t ← expandText m false (withHomes (← getThe State) false word)
    setStatus 0
    runItems m ⟨mode.tested, false⟩ t false items
  | .define _ name body =>
    modifyThe State fun s =>
      { s with functions := (name, body) :: s.functions.filter (fun f => f.1 != name), status := 0 }
  | .timed short c =>
    m.run ⟨mode.tested, false⟩ c
    report (if short then "real 0.00\nuser 0.00\nsys 0.00\n"
      else "\nreal\t0m0.000s\nuser\t0m0.000s\nsys\t0m0.000s\n").toList
  | .redirected c rs =>
    let s ← getThe State
    match ← openRedirections m s.streams rs with
    | none => refuseRedirections false
    | some streams => withStreams streams (m.run ⟨mode.tested, false⟩ c)
    closeProcesses m s.processes.length (runAction m)
  | .test line condition =>
    modifyThe State fun s => { s with line := line, status := 0 }
    let s ← getThe State
    let facts := Condition.Facts.ofTree .extended (← act get).tree s.place s.isAssigned
    let b ← holds m facts condition
    if (← getThe State).status != 2 then setStatus (if b then 0 else 1)
    checkFailure m mode
  | .calculate line pieces =>
    modifyThe State fun s => { s with line := line }
    let t ← expandText m true pieces
    match ← calculate? t with
    | .ok v => setStatus (if v = 0 then 1 else 0)
    | .error fault =>
      complain ("((: ".toList ++ fault.message .extended t)
      setStatus 1
    checkFailure m mode

/-- The machine of a level. -/
def machine (launch : Launcher) : Nat → Machine
  | 0 => ⟨launch, fun _ _ => exitWith 2, fun _ _ => return []⟩
  | level + 1 =>
    { launch := launch
      run := fun mode c => runCommand (machine launch level) mode c
      parts := fun quoted pieces =>
        expandPieces (machine launch level) (runAction (machine launch level)) quoted [] pieces }

/-- The greatest level. -/
def maxLevel : Nat := 2000

end ComponentFile.Shell
