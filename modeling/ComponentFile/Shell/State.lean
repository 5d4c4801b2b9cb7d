import ComponentFile.Process.Job
import ComponentFile.Shell.Arithmetic
import ComponentFile.Shell.Reader

/-!
# The state of a shell

## Main definitions

* `Shell.Var`, `Shell.State` : variables, and everything that a shell knows.
* `Shell.Jump`, `Shell.Sh` : why commands are left early, and what a shell does.
* `Shell.State.environment` : the variables that programs get to know, in their order.
* `Shell.complain`, `Shell.abort` : messages.
* `Shell.isolated` : running something without a lasting effect on the state.
-/

namespace ComponentFile.Shell

open Text

/-! ### Variables -/

/-- The value of a variable: a text, an array, or a table. -/
inductive Value where
  | text (t : Text)
  | list (elements : List (Nat × Text))
  | table (entries : List (Text × Text))

/-- A variable.  One that is a reference stands for the variable whose name is its value. -/
structure Var where
  value : Option Value
  exported : Bool
  readOnly : Bool
  integer : Bool
  casing : Option Casing
  isReference : Bool

/-- A variable that has no value. -/
def Var.unset : Var := ⟨none, false, false, false, none, false⟩

/-- The value of a variable as a text. -/
def Value.toText? : Value → Option Text
  | text t => some t
  | list elements => elements.lookup 0
  | table entries => entries.lookup ['0']

/-- The elements of a value. -/
def Value.elements : Value → List Text
  | text t => [t]
  | list elements => elements.map Prod.snd
  | table entries => entries.map Prod.snd

/-- The indices of a value. -/
def Value.keys : Value → List Text
  | text _ => [['0']]
  | list elements => elements.map fun e => ofNat e.1
  | table entries => entries.map Prod.fst

/-! ### States -/

/-- A stream that a word names: the number by which programs know it, the stream, and the commands
that read what is written to it. -/
structure OpenProcess where
  number : Nat
  stream : Nat
  readers : Option (List Command)

/-- Everything that a shell knows. -/
structure State where
  dialect : Dialect
  name : Text
  /-- The name in messages, which is that of the file that is being read. -/
  label : Text
  /-- What stands behind the name in messages about syntax. -/
  origin : Text
  process : Nat
  place : Place
  streams : List (Nat × Nat)
  /-- The streams that words name, the last one first. -/
  processes : List OpenProcess
  vars : List (Text × Var)
  functions : List (Text × Command)
  aliases : List (Text × Text)
  arguments : List Text
  options : List String
  status : Nat
  /-- The status of the last substitution of commands. -/
  substituted : Option Nat
  traps : List (Nat × Text)
  /-- The variables that functions hide, for each function that is running. -/
  frames : List (List (Text × Option Var))
  /-- The variables that are assigned for the command that is running only. -/
  passed : List Text
  loops : Nat
  sources : Nat
  line : Nat
  /-- The built-in command that is running. -/
  command : Option Text
  /-- Whether the failure of the built-in command that is running is looked at. -/
  tested : Bool
  /-- The argument that `getopts` is at, and how far it is in the one before. -/
  optionIndex : Nat
  optionOffset : Nat
  background : List (Nat × Nat)
  /-- The programs that have been looked up, with their paths and how often they were started. -/
  located : List (Text × Text × Nat)
  /-- The signals that a subshell has sent to the shell. -/
  pending : List Nat
  mask : Nat
  /-- The directories to which the shell can go back. -/
  stack : List Text
  subshells : Nat

/-- Why commands are left early: a loop is left or goes on, a function is left, a built-in command
or the rest of the line makes no sense any more, the shell ends, or a signal ends it. -/
inductive Jump where
  | leave (loops : Nat)
  | next (loops : Nat)
  | back
  | fault
  | discard
  | exit
  | killed (signal : Nat)

/-- What a shell does. -/
abbrev Sh := ExceptT Jump (StateT State Act)

namespace State

/-- Whether the shell is a part of another one. -/
def isSubshell (s : State) : Bool :=
  s.subshells > 0

/-- All streams that programs get to know. -/
def allStreams (s : State) (streams : List (Nat × Nat)) : List (Nat × Nat) :=
  if s.processes.isEmpty then streams
  else streams ++ s.processes.map fun p => (p.number, p.stream)

/-- Whether an option is on. -/
def has (s : State) (option : String) : Bool :=
  s.options.any (· == option)

/-- The further options of the extended language, each with whether it is on at the start. -/
def furtherOptions : List (String × Bool) :=
  [("autocd", false), ("assoc_expand_once", false), ("cdable_vars", false), ("cdspell", false),
    ("checkhash", false), ("checkjobs", false), ("checkwinsize", true), ("cmdhist", true),
    ("compat31", false), ("compat32", false), ("compat40", false), ("compat41", false),
    ("compat42", false), ("compat43", false), ("compat44", false), ("complete_fullquote", true),
    ("direxpand", false), ("dirspell", false), ("dotglob", false), ("execfail", false),
    ("expand_aliases", false), ("extdebug", false), ("extglob", false), ("extquote", true),
    ("failglob", false), ("force_fignore", true), ("globasciiranges", true),
    ("globskipdots", true), ("globstar", false), ("gnu_errfmt", false), ("histappend", false),
    ("histreedit", false), ("histverify", false), ("hostcomplete", true), ("huponexit", false),
    ("inherit_errexit", false), ("interactive_comments", true), ("lastpipe", false),
    ("lithist", false), ("localvar_inherit", false), ("localvar_unset", false),
    ("login_shell", false), ("mailwarn", false), ("no_empty_cmd_completion", false),
    ("nocaseglob", false), ("nocasematch", false), ("noexpand_translation", false),
    ("nullglob", false), ("patsub_replacement", true), ("progcomp", true),
    ("progcomp_alias", false), ("promptvars", true), ("restricted_shell", false),
    ("shift_verbose", false), ("sourcepath", true), ("varredir_close", false),
    ("xpg_echo", false)]

/-- Whether a further option is on.  For one that is on at the start, its opposite is kept. -/
def isOn (s : State) (option : String) : Bool :=
  if (furtherOptions.lookup option).getD false then !s.has ("no " ++ option) else s.has option

/-- The aliases that take the places of words. -/
def usedAliases (s : State) : List (Text × Text) :=
  if s.dialect = .plain || s.has "expand_aliases" then s.aliases else []

/-- Turn an option on or off. -/
def setOption (s : State) (option : String) (on : Bool) : State :=
  let others := s.options.filter (· != option)
  { s with options := if on then option :: others else others }

/-- Turn a further option on or off. -/
def setFurther (s : State) (option : String) (on : Bool) : State :=
  if (furtherOptions.lookup option).getD false then s.setOption ("no " ++ option) (!on)
  else s.setOption option on

/-- A variable. -/
def var? (s : State) (name : Text) : Option Var :=
  s.vars.lookup name

/-- Put a variable into the place of the one with its name, or behind all others. -/
def putVar (name : Text) (v : Var) : List (Text × Var) → List (Text × Var)
  | [] => [(name, v)]
  | (n, w) :: rest => if n = name then (n, v) :: rest else (n, w) :: putVar name v rest

/-- The state with a variable.  Programs have to be looked up again when the search path changes. -/
def setVar (s : State) (name : Text) (v : Var) : State :=
  { s with
    vars := putVar name v s.vars
    located := if name = "PATH".toList then [] else s.located }

/-- The state without a variable. -/
def eraseVar (s : State) (name : Text) : State :=
  { s with vars := s.vars.filter fun v => v.1 != name }

/-- The state with a variable as it was, or without it. -/
def restoreVar (s : State) (name : Text) (v : Option Var) : State :=
  match v with
  | some v => s.setVar name v
  | none => s.eraseVar name

/-- The state that knows where a program is, which has been started so many times more. -/
def locate (s : State) (name path : Text) (count : Nat) : State :=
  match s.located.lookup name with
  | some (_, n) =>
    { s with located := s.located.map fun l => if l.1 = name then (name, path, n + count) else l }
  | none => { s with located := s.located ++ [(name, path, count)] }

/-- The value of a variable. -/
def value? (s : State) (name : Text) : Option Text :=
  (s.var? name).bind fun v => v.value.bind Value.toText?

/-- The name of the variable that a name stands for, which references lead to. -/
def targetOf (s : State) (name : Text) : Nat → Text
  | 0 => name
  | fuel + 1 =>
    match s.var? name with
    | some v =>
      match v.isReference, v.value.bind Value.toText? with
      | true, some t => if t.isEmpty then name else targetOf s t fuel
      | _, _ => name
    | none => name

/-- The name of the variable that a name stands for. -/
def target (s : State) (name : Text) : Text :=
  if s.dialect = .plain then name else s.targetOf name 8

/-- Whether a text names a variable, or an element of one, that has a value. -/
def isAssigned (s : State) (t : Text) : Bool :=
  match cut? ['['] t with
  | none => ((s.var? (s.target t)).bind Var.value).isSome
  | some (name, index) =>
    match (s.var? (s.target name)).bind Var.value with
    | some (.list elements) =>
      match nat? index.dropLast with
      | some i => (elements.lookup i).isSome
      | none => !elements.isEmpty
    | some (.table entries) => (entries.lookup index.dropLast).isSome
    | some (.text _) => index = ['0', ']']
    | none => false

/-- The value of a variable, or nothing. -/
def valueOf (s : State) (name : String) : Text :=
  (s.value? name.toList).getD []

/-- Variables in the order in which the plain shell hands them on.  It keeps them in 39 chains, each
variable in the one that the octets of its name add up to, the first of them counting seventeen
times.  Those that the shell always has come first in a chain. -/
def inPlainOrder (vars : List (Text × Var)) : List (Text × Var) :=
  let always := ["HISTSIZE", "TERM", "LINENO", "OPTIND", "PS4", "PS2", "PS1", "PATH", "MAILPATH",
    "MAIL", "IFS"].map String.toList
  let chain (name : Text) : Nat :=
    name.foldl (fun n c => n + c.toNat) ((name.head?.elim 0 Char.toNat) * 16) % 39
  let first := always.filterMap fun name => (vars.lookup name).map fun v => (name, v)
  let others := vars.filter fun v => !always.any (· == v.1)
  (first ++ others).mergeSort fun v w => chain v.1 ≤ chain w.1

/-- The octets of a name mixed into one number of 32 bits. -/
def mixed (name : Text) : UInt32 :=
  name.foldl (fun n c => (n * 16777619) ^^^ c.toNat.toUInt32) 2166136261

/-- Names, the latest first, in the order of a table of the extended shell: chain by chain. -/
def inChains (chains : Nat) (names : List Text) : List Text :=
  names.mergeSort fun a b => (mixed a).toNat % chains ≤ (mixed b).toNat % chains

/-- Variables in the order in which the extended shell hands them on: those that a command begins
with, those of the functions that are running, and all others.  Tables that are not made for all
variables are small at first. -/
def inExtendedOrder (s : State) (vars : List (Text × Var)) : List (Text × Var) :=
  let scopes := s.passed :: s.frames.map fun frame => frame.map fun v => v.1
  let inner := scopes.flatMap fun names =>
    inChains (if names.length ≤ 8 then 4 else if names.length ≤ 32 then 16 else 64) names
  let others := vars.reverse.filterMap fun v =>
    if inner.any (· == v.1) then none else some v.1
  (inner ++ inChains 1024 others).eraseDups.filterMap fun name =>
    (vars.lookup name).map fun v => (name, v)

/-- The variables that programs get to know. -/
def environment (s : State) : List (Text × Text) :=
  let shared := s.vars.filter fun v => v.2.exported
  let ordered := match s.dialect with
    | .plain => inPlainOrder shared
    | .extended => s.inExtendedOrder shared
  ordered.filterMap fun v => (v.2.value.bind Value.toText?).map fun t => (v.1, t)

/-- The characters at which fields are split. -/
def separators (s : State) : Text :=
  match s.value? "IFS".toList with
  | some t => t
  | none => " \t\n".toList

/-- What a program is started with. -/
def job (s : State) (name : Text) (arguments : List Text) : Job :=
  ⟨name, arguments, s.environment, s.place, s.allStreams s.streams⟩

end State

/-! ### Streams and messages -/

/-- Do something with the world. -/
def act {α : Type} (a : Act α) : Sh α :=
  liftM (m := StateT State Act) (liftM a)

/-- Write to one of the streams; false when it cannot be written to. -/
def writeTo (n : Nat) (t : Text) : Sh Bool := do
  match (← getThe State).streams.lookup n with
  | some i => if t.isEmpty then return true else act (Act.write i t)
  | none => return false

/-- Print. -/
def say (t : Text) : Sh Unit := do
  let _ ← writeTo 1 t

/-- Print a message as it is. -/
def report (t : Text) : Sh Unit := do
  let _ ← writeTo 2 t

/-- What stands in front of a message about a line. -/
def State.prefixOf (s : State) (line : Nat) : Text :=
  match s.dialect with
  | .plain => s.label ++ ": ".toList ++ ofNat line ++ ": ".toList
  | .extended => s.label ++ ": line ".toList ++ ofNat line ++ ": ".toList

/-- Print a message behind the name of the shell and the number of the line. -/
def complain (t : Text) : Sh Unit := do
  let s ← getThe State
  let command := match s.command with
    | some c => c ++ ": ".toList
    | none => []
  report (s.prefixOf s.line ++ command ++ t ++ ['\n'])

/-- Set the status. -/
def setStatus (n : Nat) : Sh Unit :=
  modifyThe State fun s => { s with status := n }

/-- Leave the shell with a status. -/
def exitWith {α : Type} (n : Nat) : Sh α := do
  setStatus n
  throw .exit

/-- Complain and leave the shell. -/
def abortWith {α : Type} (t : Text) (code : Nat) : Sh α := do
  complain t
  exitWith code

/-- Complain and leave the built-in command that is running, the shell, or in the extended language
the line. -/
def abort {α : Type} (t : Text) : Sh α := do
  let s ← getThe State
  complain t
  match s.dialect with
  | .plain =>
    setStatus 2
    throw (if s.command.isSome then .fault else .exit)
  | .extended =>
    setStatus 1
    throw .discard

/-! ### Variables -/

/-- The letters of a text in another case. -/
def Casing.apply (casing : Casing) (c : Char) : Char :=
  match casing with
  | .upper => c.toUpper
  | .lower => c.toLower
  | .swap => if c.isUpper then c.toLower else c.toUpper

/-- Complain that a variable cannot be changed, and leave the shell. -/
def readOnlyFault {α : Type} (name : Text) : Sh α := do
  match (← getThe State).dialect with
  | .plain => abort (name ++ ": is read only".toList)
  | .extended =>
    modifyThe State fun s => { s with command := none }
    abort (name ++ ": readonly variable".toList)

/-- Change a variable unless it is not to be changed. -/
def changeVar (name : Text) (f : Var → Var) : Sh Unit := do
  let s ← getThe State
  let name := s.target name
  let v := (s.var? name).getD { Var.unset with exported := s.has "allexport" }
  if v.readOnly then readOnlyFault name
  else
    let v := f v
    let v := match v.casing, v.value with
      | some casing, some (.text t) => { v with value := some (.text (t.map casing.apply)) }
      | _, _ => v
    set (s.setVar name v)

/-- Put an element into an array. -/
def putElement (i : Nat) (t : Text) : List (Nat × Text) → List (Nat × Text)
  | [] => [(i, t)]
  | (j, u) :: rest =>
    if i < j then (i, t) :: (j, u) :: rest
    else if i = j then (i, t) :: rest
    else (j, u) :: putElement i t rest

/-- Assign a text to a variable. -/
def assignText (name t : Text) : Sh Unit := do
  changeVar name fun v =>
    match v.value with
    | some (.list elements) => { v with value := some (.list (putElement 0 t elements)) }
    | _ => { v with value := some (.text t) }
  if name = "OPTIND".toList then
    modifyThe State fun s => { s with optionIndex := max 1 (leadingNat t), optionOffset := 0 }

/-- Put an entry into a table. -/
def putEntry (key t : Text) (entries : List (Text × Text)) : List (Text × Text) :=
  if entries.any fun e => e.1 == key then
    entries.map fun e => if e.1 == key then (key, t) else e
  else entries ++ [(key, t)]

/-- Assign a text to an element of a variable. -/
def assignElement (name : Text) (i : Nat) (t : Text) : Sh Unit :=
  changeVar name fun v =>
    let elements := match v.value with
      | some (.list elements) => elements
      | some (.text u) => [(0, u)]
      | _ => []
    { v with value := some (.list (putElement i t elements)) }

/-- Assign a text to an entry of a table. -/
def assignEntry (name key t : Text) : Sh Unit :=
  changeVar name fun v =>
    let entries := match v.value with
      | some (.table entries) => entries
      | _ => []
    { v with value := some (.table (putEntry key t entries)) }

/-! ### Control -/

/-- Run something and find out how it was left. -/
def attempt {α : Type} (x : Sh α) : Sh (Except Jump α) :=
  ExceptT.mk do return .ok (← x.run)

/-- Go on with how something was left. -/
def resume {α : Type} (r : Except Jump α) : Sh α :=
  ExceptT.mk (pure r)

/-- Do something and go on with what is done afterwards, however it was left. -/
def finally_ {α : Type} (x : Sh α) (after : Sh Unit) : Sh α := do
  let r ← attempt x
  after
  resume r

/-- Repeat a step while it asks for it. -/
def repeated (step : Sh Bool) : Nat → Sh Unit
  | 0 => pure ()
  | n + 1 => fun s w =>
    match step s w with
    | ((.ok true, s), w) => repeated step n s w
    | ((.ok false, s), w) => ((.ok (), s), w)
    | ((.error jump, s), w) => ((.error jump, s), w)

/-- The most that is ever repeated. -/
def maxRepetitions : Nat := 1000000000

/-- Run something with other streams. -/
def withStreams {α : Type} (streams : List (Nat × Nat)) (x : Sh α) : Sh α := do
  let before := (← getThe State).streams
  modifyThe State fun s => { s with streams := streams }
  finally_ x (modifyThe State fun s => { s with streams := before })

/-- Run the parts of a list one after the other. -/
def eachOf {α : Type} (run : α → Sh Unit) : List α → Sh Unit
  | [] => pure ()
  | a :: rest => fun s w =>
    match run a s w with
    | ((.ok (), s), w) => eachOf run rest s w
    | ((.error jump, s), w) => ((.error jump, s), w)

/-! ### Signals and subshells -/

/-- What the plain language says about a program that a signal has ended. -/
def signalText (n : Nat) : Text :=
  let names : List (Nat × String) := [(1, "Hangup"), (3, "Quit"), (4, "Illegal instruction"),
    (5, "Trace/breakpoint trap"), (6, "Aborted"), (7, "Bus error"), (8, "Floating point exception"),
    (9, "Killed"), (10, "User defined signal 1"), (11, "Segmentation fault"),
    (12, "User defined signal 2"), (14, "Alarm clock"), (15, "Terminated"), (16, "Stack fault"),
    (24, "CPU time limit exceeded"), (25, "File size limit exceeded"),
    (26, "Virtual timer expired"), (27, "Profiling timer expired"), (29, "I/O possible"),
    (30, "Power failure"), (31, "Bad system call")]
  match names.lookup n with
  | some t => t.toList
  | none => "Real-time signal ".toList ++ ofNat (n - 34)

/-- Say which signal has ended a program. -/
def reportSignal (n : Nat) : Sh Unit := do
  if n != 2 && n != 13 then report (signalText n ++ ['\n'])

/-- Whether a signal does nothing to a process that has not asked for it. -/
def isHarmless (n : Nat) : Bool :=
  [0, 17, 18, 19, 20, 21, 22, 23, 28].contains n

/-- What a signal does to the shell, given how a trap is run. -/
def deliver (run : Text → Sh Unit) (n : Nat) : Sh Unit := do
  let traps := (← getThe State).traps
  match if n = 9 then none else traps.lookup n with
  | some [] => pure ()
  | some action => run action
  | none => if isHarmless n then pure () else throw (Jump.killed n)

/-- What is left of traps in a subshell: those that do nothing. -/
def inheritedTraps (traps : List (Nat × Text)) : List (Nat × Text) :=
  traps.filter fun t => t.1 != 0 && t.2.isEmpty

/-- Run something in a subshell and find its status, given how a trap is run.  The state is as
before afterwards; what has been done to the world stays, and so do the signals that have been
sent. -/
def isolated (body : Sh Unit) (onTrap : Text → Sh Unit) : Sh Nat := do
  let before ← getThe State
  set { before with
    subshells := before.subshells + 1, traps := inheritedTraps before.traps, loops := 0,
    background := [],
    pending := [] }
  let r ← attempt body
  let r ← match r, (← getThe State).traps.lookup 0 with
    | .error (.killed n), _ => pure (.error (Jump.killed n))
    | _, some action => attempt (onTrap action)
    | r, none => pure r
  let after ← getThe State
  set before
  if before.isSubshell then
    modifyThe State fun s => { s with pending := s.pending ++ after.pending }
  else eachOf (deliver onTrap) after.pending
  match r with
  | .error (.killed n) =>
    if before.dialect = .plain then reportSignal n
    return 128 + n
  | _ => return after.status % 256

end ComponentFile.Shell
