import ComponentFile.Shell.Run

/-!
# The shell as a program

## Main definitions

* `Shell.startVars`, `Shell.State.start` : the variables and the state with which a shell starts.
* `Shell.Request` : what its arguments ask a shell for.
* `Shell.runInput` : running the script that is the input.
* `Shell.program` : the shell as a program.
-/

namespace ComponentFile.Shell

open Text

/-! ### Starting -/

/-- The level of a shell inside of another one: one more than that of the other one, below 1000. -/
def levelIn (environment : List (Text × Text)) : Text :=
  let level := (((environment.lookup "SHLVL".toList).bind int?).getD 0 + 1).toNat
  ofNat (if level < 1000 then level else 1)

/-- The variables that a shell sets before it begins, whatever the environment says. -/
def ownVars (dialect : Dialect) (job : Job) : List (Text × Var) :=
  let named (name : String) (t : Text) : Text × Var :=
    (name.toList, { Var.unset with value := some (.text t) })
  let shared (name : String) (t : Text) : Text × Var :=
    (name.toList, { Var.unset with value := some (.text t), exported := true })
  let constant (name : String) (t : Text) : Text × Var :=
    (name.toList, { Var.unset with value := some (.text t), readOnly := true, integer := true })
  let listed (name : String) (elements : List String) : Text × Var :=
    (name.toList, { Var.unset with
      value := some (.list (elements.zipIdx.map fun e => (e.2, e.1.toList))) })
  let common := [named "IFS" " \t\n".toList, named "OPTIND" ['1'],
    shared "PWD" (Tools.textOfPlace job.place)]
  match dialect with
  | .plain => named "PPID" ['1'] :: common
  | .extended =>
    common ++ [constant "PPID" ['1'], constant "UID" ['0'], constant "EUID" ['0'],
      named "BASH" (if job.name.any (· == '/') then job.name else "/usr/bin/".toList ++ job.name),
      named "BASH_VERSION" "5.2.15(1)-release".toList, shared "SHLVL" (levelIn job.environment),
      listed "BASH_VERSINFO" ["5", "2", "15", "1", "release", "x86_64-pc-linux-gnu"],
      listed "GROUPS" ["0"]]

/-- The variables that a shell sets unless the environment does. -/
def spareVars (dialect : Dialect) (job : Job) : List (Text × Text) :=
  let common := [("PATH".toList, Job.defaultDirectories), ("PS4".toList, "+ ".toList)]
  match dialect with
  | .plain => common ++ [("PS1".toList, "# ".toList), ("PS2".toList, "> ".toList)]
  | .extended =>
    common ++ [("HOSTTYPE".toList, "x86_64".toList), ("OSTYPE".toList, "linux-gnu".toList),
      ("MACHTYPE".toList, "x86_64-pc-linux-gnu".toList), ("OPTERR".toList, ['1']),
      ("SHELL".toList, "/bin/bash".toList), ("TERM".toList, "dumb".toList), (['_'], job.name)]

/-- The variables with which a shell starts: those of the environment, then its own. -/
def startVars (dialect : Dialect) (job : Job) : List (Text × Var) :=
  let isTaken (name : Text) : Bool := isName name &&
    !(dialect = .extended && (name = "PS1".toList || name = "PS2".toList))
  let taken := (job.environment.filter fun e => isTaken e.1).foldl (fun vars e =>
    State.putVar e.1 { Var.unset with value := some (.text e.2), exported := true } vars) []
  let owned := (ownVars dialect job).foldl (fun vars v =>
    let exported := v.2.exported || (vars.lookup v.1).any Var.exported
    State.putVar v.1 { v.2 with exported := exported } vars) taken
  let spare := (spareVars dialect job).map fun v =>
    (v.1, { Var.unset with value := some (.text v.2) })
  let left : List (Text × Var) :=
    if dialect = .extended then [("OLDPWD".toList, { Var.unset with exported := true })] else []
  (spare ++ left).foldl (fun vars v =>
    if (vars.lookup v.1).isSome then vars else State.putVar v.1 v.2 vars) owned

/-- The state in which a shell starts. -/
def State.start (dialect : Dialect) (job : Job) (process : Nat) : State where
  dialect := dialect
  name := job.name
  label := job.name
  origin := []
  process := process
  place := job.place
  streams := job.streams
  processes := []
  vars := startVars dialect job
  functions := []
  aliases := []
  arguments := []
  options := []
  status := 0
  substituted := none
  traps := []
  frames := []
  passed := []
  loops := 0
  sources := 0
  line := 0
  command := none
  tested := false
  optionIndex := 1
  optionOffset := 0
  background := []
  located := []
  pending := []
  mask := 18
  stack := []
  subshells := 0

/-! ### Arguments -/

/-- What its arguments ask a shell for: whether the first of the other arguments is a script, or
whether the script is the input. -/
structure Request where
  hasScript : Bool
  fromInput : Bool
  arguments : List Text

/-- Complain about arguments and leave the shell. -/
def refuseArguments {α : Type} (t : Text) (code : Nat) : Sh α := do
  let s ← getThe State
  report (s.name ++ ": ".toList ++ (if s.dialect = .plain then "0: ".toList else []) ++ t ++ ['\n'])
  exitWith code

/-- Turn an option on or off that the arguments of a shell name. -/
def requestOption (on : Bool) (name : Text) : Sh Unit := do
  let s ← getThe State
  if s.dialect.options.any fun o => o.1.toList == name then
    modifyThe State fun s => s.setOption (String.ofList name) on
  else
    match s.dialect with
    | .plain =>
      refuseArguments
        ("Illegal option ".toList ++ (if on then '-' else '+') :: 'o' :: ' ' :: name) 2
    | .extended =>
      refuseArguments ("line 0: ".toList ++ s.name ++ ": ".toList ++ name ++
        ": invalid option name".toList) 2

/-- The long options of the extended language that make no difference here. -/
def longOptions : List String :=
  ["debugger", "login", "noediting", "noprofile", "norc", "posix", "restricted"]

/-- Read one letter of the options of a shell: what is asked for from now on, and whether the letter
takes the next argument. -/
def requestLetter (on : Bool) (request : Request) (c : Char) (next : Option Text) :
    Sh (Request × Bool) := do
  let dialect := (← getThe State).dialect
  if c = 'c' then return ({ request with hasScript := true }, false)
  else if c = 's' then return ({ request with fromInput := true }, false)
  else if c = 'o' then
    match next with
    | some name =>
      requestOption on name
      return (request, true)
    | none =>
      let _ ← listOptions (!on)
      return (request, false)
  else if c = 'O' && dialect = .extended then
    match next with
    | some name => modifyThe State fun s => s.setFurther (String.ofList name) on
    | none => pure ()
    return (request, true)
  else if c = 'l' || c = 'i' || (dialect = .extended && "rD".toList.any (· == c)) then
    return (request, false)
  else
    match dialect.options.find? fun o => o.2 == c with
    | some o =>
      modifyThe State fun s => s.setOption o.1 on
      return (request, false)
    | none =>
      let sign := if on then '-' else '+'
      match dialect with
      | .plain => refuseArguments ("Illegal option ".toList ++ [sign, c]) 2
      | .extended => refuseArguments (sign :: c :: ": invalid option".toList) 2

/-- Read the letters of an option of a shell. -/
def requestLetters (on : Bool) (request : Request) (rest : List Text) :
    Text → Sh (Request × List Text)
  | [] => return (request, rest)
  | c :: t => do
    let (request, takes) ← requestLetter on request c rest.head?
    requestLetters on request (if takes then rest.drop 1 else rest) t

/-- Read the arguments of a shell. -/
def readRequest (request : Request) : Nat → List Text → Sh Request
  | 0, ws => return { request with arguments := ws }
  | fuel + 1, ws => do
    match ws with
    | ['-'] :: rest => return { request with arguments := rest }
    | ['-', '-'] :: rest => return { request with arguments := rest }
    | ('-' :: '-' :: t) :: rest =>
      match (← getThe State).dialect with
      | .plain => refuseArguments "Illegal option --".toList 2
      | .extended =>
        if longOptions.any fun o => o.toList == t then readRequest request fuel rest
        else if t = "verbose".toList then
          modifyThe State fun s => s.setOption "verbose" true
          readRequest request fuel rest
        else refuseArguments ("--".toList ++ t ++ ": invalid option".toList) 2
    | (sign :: c :: t) :: rest =>
      if sign = '-' || sign = '+' then
        let (request, rest) ← requestLetters (sign = '-') request rest (c :: t)
        readRequest request fuel rest
      else return { request with arguments := ws }
    | _ => return { request with arguments := ws }

/-! ### Scripts -/

/-- The number of octets that the plain shell reads at once from its input. -/
def inputBlock : Nat := 8191

/-- Take what has been read of a script away from the input, and find what the shell has read beyond
it. -/
def takeScript (kept : Text) (consumed : Nat) : Sh Text := do
  let s ← getThe State
  match s.streams.lookup 0 with
  | none => return kept.drop consumed
  | some i =>
    if consumed ≤ kept.length then return kept.drop consumed
    else
      let missing := consumed - kept.length
      let count := match s.dialect with
        | .plain => (missing + inputBlock - 1) / inputBlock * inputBlock
        | .extended => missing
      let block ← act (Act.readBlock i count)
      return block.drop missing

/-- Run the commands of the input line by line.  Programs that they start read what the shell has
not read. -/
def runInputFrom (m : Machine) : Nat → Text → Nat → Sh Unit
  | 0, _, _ => pure ()
  | fuel + 1, kept, line => fun s w =>
    let unread := match s.streams.lookup 0 with
      | some i => Act.rest w i
      | none => []
    let t := kept ++ unread
    match readLine?.run { Source.ofText s.dialect line t with
        aliases := s.usedAliases, groups := s.has "extglob" } with
    | .error fault => syntaxFault fault s w
    | .ok (none, _) => (do let _ ← takeScript kept t.length) s w
    | .ok (some c, next) =>
      let run : Sh Text := do
        let kept ← takeScript kept (t.length - next.rest.length)
        showLines t next.rest
        warnOfCutOff next.cutOff
        m.run ⟨false, false⟩ c
        return kept
      match run s w with
      | ((.ok kept, s), w) => runInputFrom m fuel kept next.line s w
      | ((.error .discard, s), w) =>
        runInputFrom m fuel (kept.drop (t.length - next.rest.length)) next.line s w
      | ((.error jump, s), w) => ((.error jump, s), w)

/-- Run the script that is the input. -/
def runInput (m : Machine) : Sh Unit := do
  let s ← getThe State
  let w ← act get
  let length := ((s.streams.lookup 0).map fun i => (Act.rest w i).length).getD 0
  runInputFrom m (length + 2) [] 1

/-- Give up a script file because of a fault. -/
def refuseScript {α : Type} (name : Text) (fault : Fault) : Sh α := do
  let isMissing := fault = .notFound || fault = .notADirectory
  match (← getThe State).dialect with
  | .plain =>
    let reason := if isMissing then "No such file" else fault.description
    refuseArguments ("cannot open ".toList ++ name ++ ": ".toList ++ reason.toList) 2
  | .extended => refuseArguments (Tool.about name fault) (if isMissing then 127 else 126)

/-- The text of a script file. -/
def scriptText (name : Text) : Sh Text := do
  let s ← getThe State
  match ← act ((s.job [] []).openPath name .reading) with
  | .error fault => refuseScript name fault
  | .ok i =>
    if ← act (Act.isDirectory i) then
      match s.dialect with
      | .plain => return []
      | .extended =>
        modifyThe State fun s => { s with name := name }
        refuseArguments (Tool.about name .isADirectory) 126
    else act (Act.read i)

/-- Run a script under a name. -/
def runNamedScript (m : Machine) (name : Text) (arguments : List Text) (t : Text) : Sh Unit := do
  modifyThe State fun s => { s with name := name, label := name, arguments := arguments }
  evaluate m true 1 t

/-- Do what the arguments of a shell ask for. -/
def serve (m : Machine) (request : Request) : Sh Unit := do
  let s ← getThe State
  if request.hasScript then
    match request.arguments with
    | [] =>
      refuseArguments ((if s.dialect = .plain then "-c requires an argument"
        else "-c: option requires an argument").toList) 2
    | script :: rest =>
      modifyThe State fun s => { s with
        origin := if s.dialect = .extended then "-c".toList else [] }
      runNamedScript m (rest.head?.getD s.name) (rest.drop 1) script
      if request.fromInput then runInput m
  else
    match request.fromInput, request.arguments with
    | false, name :: arguments =>
      runNamedScript m name arguments (← scriptText name)
    | _, arguments =>
      modifyThe State fun s => { s.setOption "stdin" true with arguments := arguments }
      runInput m

/-- Run what a shell has to do before it ends. -/
def runExitTrap (m : Machine) : Sh Unit := do
  let s ← getThe State
  match s.traps.lookup 0 with
  | some action =>
    set { s with traps := s.traps.filter fun t => t.1 != 0 }
    runAction m action
  | none => pure ()

/-- The shell as a program. -/
def program (dialect : Dialect) (m : Machine) : Tool ExitStatus := fun job => do
  let process ← Act.newProcess
  let whole : Sh Unit := do
    let arguments := job.arguments
    let fuel := arguments.length + 1
    let r ← attempt (do serve m (← readRequest ⟨false, false, []⟩ fuel arguments))
    match r with
    | .error (.killed n) => throw (Jump.killed n)
    | _ => runExitTrap m
    closeProcesses m 0 (runAction m)
  match ← StateT.run whole.run (State.start dialect job process) with
  | (.error (.killed n), _) => return .signal n
  | (_, s) => return .code (s.status % 256)

end ComponentFile.Shell
