import ComponentFile.Shell.Script

/-!
# Signals and traps

## Main definitions

* `Shell.signal?` : the signal that a word names.
* `Shell.kill`, `Shell.trap` : the built-in commands for signals.
-/

namespace ComponentFile.Shell

open Text

/-- The number by which a trap for failing commands is known. -/
def failureTrap : Nat := 1001

/-- The number by which a trap before each command is known. -/
def commandTrap : Nat := 1002

/-- The number by which a trap behind functions is known. -/
def returnTrap : Nat := 1003

/-- The traps of the extended language that are for no signals. -/
def namedTraps : List (String × Nat) :=
  [("EXIT", 0), ("ERR", failureTrap), ("DEBUG", commandTrap), ("RETURN", returnTrap)]

/-- The signal that a word names: by a number, or by a name. -/
def signal? (dialect : Dialect) (w : Text) : Option Nat :=
  match nat? w with
  | some n => if n ≤ 64 then some n else none
  | none =>
    let w := w.map Char.toUpper
    let w := if dialect = .extended && Text.startsWith "SIG" w then w.drop 3 else w
    if w = "EXIT".toList then some 0
    else if dialect = .extended && (namedTraps.lookup (String.ofList w)).isSome then
      namedTraps.lookup (String.ofList w)
    else (ExitStatus.signalNames.findIdx? fun name => name.toList == w).map (· + 1)

/-- The name of a signal. -/
def signalName (n : Nat) : Text :=
  match namedTraps.find? fun t => t.2 == n with
  | some (name, _) => name.toList
  | none =>
    match ExitStatus.signalName? n with
    | some name => name.toList
    | none => ofNat n

/-! ### Sending signals -/

/-- Send a signal to a process. -/
def sendTo (m : Machine) (n : Nat) (t : Text) : Sh Nat := do
  let s ← getThe State
  let missing : Sh Nat := do
    match s.dialect with
    | .plain => complain "No such process\n".toList
    | .extended => complain ('(' :: t ++ ") - No such process".toList)
    return 1
  match nat? t with
  | some pid =>
    if pid = s.process then
      if s.isSubshell then
        modifyThe State fun s => { s with pending := s.pending ++ if n = 0 then [] else [n] }
      else deliver (runAction m) n
      return 0
    else if (s.background.lookup pid).isSome then return 0
    else missing
  | none =>
    match s.dialect with
    | .plain =>
      if t.head? = some '%' then failBuiltin ("No such job: ".toList ++ t) 1
      else failBuiltin ("Illegal number: ".toList ++ t) 1
    | .extended =>
      complain (t ++ ": arguments must be process or job IDs".toList)
      return 1

/-- Send a signal to processes. -/
def sendAll (m : Machine) (n : Nat) (code : Nat) : List Text → Sh Nat
  | [] => return code
  | t :: rest => do
    let c ← sendTo m n t
    sendAll m n (max code c) rest

/-- The names of all signals, as the plain language lists them. -/
def allSignalNames : List Text :=
  let named := (List.range 31).map fun (i : Nat) =>
    if i + 1 = 16 then "16".toList else signalName (i + 1)
  let low := (List.range 15).map fun (i : Nat) => "RTMIN+".toList ++ ofNat (i + 1)
  let high := (List.range 14).map fun (i : Nat) => "RTMAX-".toList ++ ofNat (14 - i)
  [['0']] ++ named ++ ["32".toList, "33".toList, "RTMIN".toList] ++ low ++ high ++
    ["RTMAX".toList]

/-- The names of all signals with their numbers, as the extended language lists them. -/
def numberedSignals : Text :=
  let numbers := (List.range 64).map (· + 1) |>.filter fun n => n != 32 && n != 33
  let name (n : Nat) : Text :=
    if n < 32 then "SIG".toList ++ (if n = 16 then "STKFLT".toList else signalName n)
    else if n = 34 then "SIGRTMIN".toList
    else if n = 64 then "SIGRTMAX".toList
    else if n < 50 then "SIGRTMIN+".toList ++ ofNat (n - 34)
    else "SIGRTMAX-".toList ++ ofNat (64 - n)
  numbers.zipIdx.flatMap fun n =>
    padLeft 2 ' ' (ofNat n.1) ++ ") ".toList ++ name n.1 ++
      (if n.2 % 5 = 4 || n.1 = 64 then ['\n'] else ['\t'])

/-- Print the names of signals. -/
def listSignals (ws : List Text) : Sh Nat := do
  let dialect := (← getThe State).dialect
  match dialect, ws with
  | .plain, [] =>
    say (joinLines allSignalNames)
    return 0
  | .plain, w :: _ =>
    let n ← demandNat w
    let n := if n > 128 then n - 128 else n
    if n = 0 || n > 64 then
      failBuiltin ("invalid signal number or exit status: ".toList ++ w) 1
    else
      say (signalName n ++ ['\n'])
      return 0
  | .extended, [] =>
    say numberedSignals
    return 0
  | .extended, _ =>
    eachOf (fun w => do
      match nat? w with
      | some n => say (signalName (if n > 128 then n - 128 else n) ++ ['\n'])
      | none =>
        match signal? .extended w with
        | some n => say (ofNat n ++ ['\n'])
        | none => complain (w ++ ": invalid signal specification".toList)) ws
    return 0

/-- What the plain language says to a wrong use of `kill`. -/
def killUsage : Text :=
  ("Usage: kill [-s sigspec | -signum | -sigspec] [pid | job]... or\n" ++
    "kill -l [exitstatus]").toList

/-- Say how `kill` is used. -/
def refuseKill {α : Type} : Sh α := do
  match (← getThe State).dialect with
  | .plain => failBuiltin killUsage 2
  | .extended =>
    report ("kill: usage: kill [-s sigspec | -n signum | -sigspec] pid | jobspec ... or " ++
      "kill -l [sigspec]\n").toList
    setStatus 2
    throw Jump.fault

/-- Send a signal that a word names. -/
def killBy (m : Machine) (w : Text) (pids : List Text) : Sh Nat := do
  let dialect := (← getThe State).dialect
  match signal? dialect w with
  | none =>
    match dialect with
    | .plain => failBuiltin ("invalid signal number or name: ".toList ++ w) 1
    | .extended =>
      complain (w ++ ": invalid signal specification".toList)
      return 1
  | some n =>
    let pids := if pids.head? = some ['-', '-'] then pids.drop 1 else pids
    if pids.isEmpty then refuseKill else sendAll m n 0 pids

/-- Send signals. -/
def kill : Builtin := fun m ws => do
  let dialect := (← getThe State).dialect
  match ws with
  | [] => refuseKill
  | ['-', 'l'] :: rest => listSignals rest
  | ['-', 's'] :: w :: pids => killBy m w pids
  | ['-', 's'] :: [] => failBuiltin "No arg for -s option".toList 2
  | ['-', '-'] :: pids => killBy m "TERM".toList pids
  | ('-' :: c :: t) :: pids =>
    if dialect = .extended && c = 'n' && t.isEmpty then
      killBy m (pids.head?.getD []) (pids.drop 1)
    else if dialect = .plain && c = 's' then killBy m t pids
    else if dialect = .plain && (signal? .plain (c :: t)).isNone then
      failBuiltin ("Illegal option -".toList ++ [c]) 2
    else killBy m (c :: t) pids
  | pids => killBy m "TERM".toList pids

/-! ### Traps -/

/-- A text between quotation marks, in pieces without and with single ones. -/
def plainQuotedFrom : Nat → Text → Text
  | 0, _ => []
  | fuel + 1, t =>
    let run := t.takeWhile (· != '\'')
    let marks := (t.drop run.length).takeWhile (· == '\'')
    let rest := t.drop (run.length + marks.length)
    '\'' :: run ++ ['\''] ++ (if marks.isEmpty then [] else inDoubleQuotes marks) ++
      if rest.isEmpty then [] else plainQuotedFrom fuel rest

/-- A text between quotation marks, as the plain language prints it. -/
def plainQuoted (t : Text) : Text :=
  plainQuotedFrom (t.length + 1) t

/-- The commands that set the traps. -/
def listTraps : Sh Nat := do
  let s ← getThe State
  let sorted := s.traps.mergeSort fun a b => a.1 ≤ b.1
  say (sorted.flatMap fun t =>
    let name := signalName t.1
    let isReal := namedTraps.all fun n => n.2 != t.1
    let shown := match s.dialect with
      | .plain => plainQuoted t.2 ++ ' ' :: name
      | .extended =>
        quotedForReading t.2 ++ ' ' :: (if isReal then "SIG".toList ++ name else name)
    "trap -- ".toList ++ shown ++ ['\n'])
  return 0

/-- Set, remove or print traps. -/
def trap : Builtin := fun _ ws => do
  let dialect := (← getThe State).dialect
  let ws := if ws.head? = some ['-', '-'] then ws.drop 1 else ws
  let set (action : Option Text) (signals : List Text) : Sh Nat := do
    let known := signals.takeWhile fun w => (signal? dialect w).isSome
    eachOf (fun w => modifyThe State fun s =>
      let n := (signal? dialect w).getD 0
      let others := s.traps.filter fun t => t.1 != n
      { s with traps := match action with
          | some a => (n, a) :: others
          | none => others }) known
    match signals.drop known.length with
    | [] => return 0
    | bad :: _ =>
      match dialect with
      | .plain => report ("trap: ".toList ++ bad ++ ": bad trap\n".toList)
      | .extended => complain (bad ++ ": invalid signal specification".toList)
      return 1
  match ws with
  | [] => listTraps
  | [['-', 'l']] =>
    if dialect = .extended then
      say numberedSignals
      return 0
    else set none ws
  | [['-', 'p']] => if dialect = .extended then listTraps else set none ws
  | [_] => set none ws
  | action :: signals =>
    if action = ['-'] || (nat? action).isSome then
      set none (if action = ['-'] then signals else ws)
    else set (some action) signals

end ComponentFile.Shell
