import ComponentFile.Shell.Directories
import ComponentFile.Shell.Input

/-!
# Built-in commands

## Main definitions

* `Shell.echo`, `Shell.printf`, `Shell.test` : printing, and testing conditions.
* `Shell.umask` : the rights of new files.
* `Shell.eval`, `Shell.source` : scripts inside of scripts.
* `Shell.Kind`, `Shell.kindOf` : what a name stands for.
* `Shell.builtin?` : the built-in command with a name.
-/

namespace ComponentFile.Shell

open Text

/-- Who prints and tests in a language. -/
def Dialect.manner : Dialect → Manner
  | .plain => .posix
  | .extended => .extended

/-! ### Printing and testing -/

/-- Print words. -/
def echo : Builtin := fun _ ws => do
  printOrComplain (Tools.echoText (← getThe State).dialect.manner ws)

/-- Print by a format. -/
def printf : Builtin := fun _ ws => do
  let s ← getThe State
  let (target, ws) := match s.dialect, ws with
    | .extended, ['-', 'v'] :: name :: rest => (some name, rest)
    | _, _ => (none, ws)
  let ws ← match ws with
    | ['-', '-'] :: rest => pure rest
    | ('-' :: c :: _) :: _ =>
      if s.dialect = .plain then failBuiltin ("Illegal option -".toList ++ [c]) 2 else pure ws
    | _ => pure ws
  match ws with
  | [] =>
    match s.dialect with
    | .plain => failBuiltin "usage: printf format [arg ...]".toList 2
    | .extended =>
      report "printf: usage: printf [-v var] format [arguments]\n".toList
      return 2
  | format :: arguments =>
    let m := s.dialect.manner
    let (t, faults) := Format.print m format arguments
    eachOf (fun fault => complain (fault.message m)) faults
    let isInvalid := faults.any fun
      | .invalid _ _ => true
      | _ => false
    let code ← match target with
      | some name => do
        assignText name t
        pure 0
      | none => printOrComplain t
    return if isInvalid && s.dialect = .plain then 2
      else if faults.isEmpty then code else 1

/-- Test a condition. -/
def test (isBracket : Bool) : Builtin := fun _ ws => do
  let s ← getThe State
  let m := s.dialect.manner
  let facts := Condition.Facts.ofTree m (← act get).tree s.place s.isAssigned
  match Condition.ofCall facts isBracket ws with
  | .ok b => return if b then 0 else 1
  | .error fault =>
    complain (fault.message m)
    return 2

/-- Calculate. -/
def let_ : Builtin := fun _ ws => do
  go 1 ws
where
  /-- Calculate one word after the other; the last value decides. -/
  go (code : Nat) : List Text → Sh Nat
    | [] => return code
    | w :: rest => do
      match ← calculate? w with
      | .ok v => go (if v = 0 then 1 else 0) rest
      | .error fault =>
        complain (fault.message .extended w)
        return 1

/-! ### Rights -/

/-- The rights that a mask leaves to someone. -/
def rightsText (n : Nat) : Text :=
  (if n / 4 % 2 = 0 then ['r'] else []) ++ (if n / 2 % 2 = 0 then ['w'] else []) ++
    if n % 2 = 0 then ['x'] else []

/-- The mask after one of the changes that a mode of letters makes. -/
def changedMask (mask : Nat) (t : Text) : Option Nat :=
  let who := t.takeWhile fun c => "ugoa".toList.any (· == c)
  match t.drop who.length with
  | sign :: rights =>
    if !("=+-".toList.any (· == sign) && rights.all fun c => "rwx".toList.any (· == c)) then none
    else
      let bits := rights.foldl (fun n c =>
        Nat.lor n (if c = 'r' then 4 else if c = 'w' then 2 else 1)) 0
      let all := who.isEmpty || who.any (· == 'a')
      let change (c : Char) (shift : Nat) (mask : Nat) : Nat :=
        if !all && !who.any (· == c) then mask
        else
          let digit := mask / shift % 8
          let new := match sign with
            | '=' => 7 - bits
            | '+' => Nat.land digit (7 - bits)
            | _ => Nat.lor digit bits
          mask - digit * shift + new * shift
      some (change 'u' 64 (change 'g' 8 (change 'o' 1 mask)))
  | [] => none

/-- Print or change the mask for new files. -/
def umask : Builtin := fun _ ws => do
  let s ← getThe State
  let (given, ws) ← options "Sp" "umask: usage: umask [-p] [-S] [mode]" ws
  match ws with
  | [] =>
    if given.any fun o => o.1 == 'S' then
      say ("u=".toList ++ rightsText (s.mask / 64) ++ ",g=".toList ++ rightsText (s.mask / 8 % 8) ++
        ",o=".toList ++ rightsText (s.mask % 8) ++ ['\n'])
    else say (padLeft 4 '0' (Nat.toDigits 8 s.mask) ++ ['\n'])
    return 0
  | mode :: _ =>
    if mode.head?.any Char.isDigit then
      match natIn? 8 mode with
      | some n =>
        set { s with mask := n % 512 }
        return 0
      | none =>
        match s.dialect with
        | .plain => failBuiltin ("Illegal number: ".toList ++ mode) 2
        | .extended =>
          complain (mode ++ ": octal number out of range".toList)
          return 1
    else
      match (mode.splitOn ',').foldlM changedMask s.mask with
      | some n =>
        set { s with mask := n }
        return 0
      | none =>
        match s.dialect with
        | .plain => failBuiltin ("Illegal mode: ".toList ++ mode) 2
        | .extended =>
          complain ("\x60".toList ++ mode ++ "': invalid symbolic mode operator".toList)
          return 1

/-! ### Scripts inside of scripts -/

/-- Run words as a script. -/
def eval : Builtin := fun m ws => do
  let t := [' '].intercalate ws
  let s ← getThe State
  setStatus 0
  match s.dialect with
  | .plain => evaluate m false 1 t
  | .extended =>
    modifyThe State fun s => { s with origin := "eval".toList }
    finally_ (evaluate m false s.line t)
      (modifyThe State fun t => { t with origin := s.origin })
  return (← getThe State).status

/-- The path of a script that is given by its name. -/
def findScript (s : State) (tree : FileTree) (name : Text) : Option Text :=
  if name.any (· == '/') then some name
  else
    let searchPath := (s.value? "PATH".toList).getD []
    let paths := (searchPath.splitOn ':').map fun directory =>
      if directory.isEmpty then name else directory ++ '/' :: name
    let paths := if s.dialect = .extended then paths ++ [name] else paths
    paths.find? fun path => tree.isFile s.place (Tools.pathOf path)

/-- Run a file as a part of the script. -/
def source : Builtin := fun m ws => do
  let s ← getThe State
  match if ws.head? = some ['-', '-'] then ws.drop 1 else ws with
  | [] =>
    match s.dialect with
    | .plain => return 0
    | .extended =>
      complain "filename argument required".toList
      report ".: usage: . filename [arguments]\n".toList
      return 2
  | name :: arguments =>
    let missing (fault : Fault) : Sh Nat := do
      match s.dialect with
      | .plain =>
        if name.any (· == '/') then
          failBuiltin ("cannot open ".toList ++ name ++ ": ".toList ++
            (if fault = .notFound || fault = .notADirectory then "No such file".toList
             else fault.description.toList)) 2
        else failBuiltin (name ++ ": not found".toList) 2
      | .extended =>
        modifyThe State fun s => { s with command := none }
        complain (Tool.about name fault)
        return 1
    match findScript s (← act get).tree name with
    | none => missing .notFound
    | some path =>
      match ← act ((s.job [] []).openPath path .reading) with
      | .error fault => missing fault
      | .ok i =>
        let t ← act (Act.read i)
        let replaces := s.dialect = .extended && !arguments.isEmpty
        modifyThe State fun s => { s with
          command := if s.dialect = .plain then some path else none
          label := if s.dialect = .plain then s.label else path
          origin := []
          sources := s.sources + 1
          status := 0
          arguments := if replaces then arguments else s.arguments }
        let r ← attempt (evaluate m false 1 t)
        modifyThe State fun after => { after with
          command := s.command, label := s.label, origin := s.origin, sources := s.sources,
          arguments := if replaces then s.arguments else after.arguments }
        match r with
        | .ok () => return (← getThe State).status
        | .error .back => return (← getThe State).status
        | .error jump => throw jump

/-! ### What names stand for -/

/-- What a name stands for as a command. -/
inductive Kind where
  | keyword
  | alias (t : Text)
  | function
  | special
  | builtin
  | program (path : Text)
  | nothing

/-- The names of the built-in commands of both languages. -/
def commonNames : List String :=
  [":", ".", "[", "alias", "bg", "break", "cd", "command", "continue", "echo", "eval", "exec",
    "exit", "export", "false", "fc", "fg", "getopts", "hash", "jobs", "kill", "local", "printf",
    "pwd", "read", "readonly", "return", "set", "shift", "test", "times", "trap", "true", "type",
    "ulimit", "umask", "unalias", "unset", "wait"]

/-- The names of the built-in commands. -/
def builtinNames : Dialect → List String
  | .plain => "chdir" :: commonNames
  | .extended => commonNames ++ ["builtin", "caller", "compgen", "complete", "declare", "dirs",
      "disown", "enable", "help", "history", "let", "logout", "mapfile", "popd", "pushd",
      "readarray", "shopt", "source", "suspend", "typeset"]

/-- The words that have a meaning of their own. -/
def reservedWords : Dialect → List String
  | .plain => keywords
  | .extended => keywords ++ ["[[", "]]", "function", "select", "time", "coproc"]

/-- Whether a text is one of some names. -/
def isAmong (names : List String) (t : Text) : Bool :=
  names.any fun n => n.toList == t

/-- The path of the program with a name. -/
def programPath? (s : State) (tree : FileTree) (name : Text) : Option Text :=
  if name.any (· == '/') then
    match tree.lookup s.place (Tools.pathOf name) with
    | .ok entry => if Job.isProgram entry then some name else none
    | .error _ => none
  else
    match Job.findAmong tree s.place .notFound
      (Job.candidates ((s.value? "PATH".toList).getD []) name) with
    | .ok path => if name.isEmpty then none else some (octets path.text)
    | .error _ => none

/-- What a name stands for. -/
def kindOf (name : Text) : Sh Kind := do
  let s ← getThe State
  if isAmong (reservedWords s.dialect) name then return .keyword
  match s.usedAliases.lookup name with
  | some t => return .alias t
  | none =>
    if (s.functions.lookup name).isSome then return .function
    else if isAmong (builtinNames s.dialect) name then
      return if s.dialect = .plain && isAmong specialNames name then .special else .builtin
    else
      return match programPath? s (← act get).tree name with
        | some path => .program path
        | none => .nothing

/-- Say what a name stands for, at length or in a word. -/
def describe (short : Bool) (name : Text) : Sh Nat := do
  let s ← getThe State
  let say_ (long : String) : Sh Unit :=
    say (name ++ (if short then [] else long.toList) ++ ['\n'])
  match ← kindOf name with
  | .keyword => say_ " is a shell keyword"
  | .alias t =>
    if short then say ("alias ".toList ++ name ++ '=' :: plainQuoted t ++ ['\n'])
    else say (name ++ " is an alias for ".toList ++ t ++ ['\n'])
  | .function =>
    match s.dialect with
    | .plain => say_ " is a shell function"
    | .extended => say_ " is a function"
  | .special => say_ " is a special shell builtin"
  | .builtin => say_ " is a shell builtin"
  | .program path =>
    let isLocated := (s.located.lookup name).isSome
    let isPath := name.any (· == '/')
    if short then say (path ++ ['\n'])
    else
      match s.dialect with
      | .plain =>
        say (name ++ (if isLocated then " is a tracked alias for " else " is ").toList ++ path ++
          ['\n'])
      | .extended =>
        say (name ++ (if isLocated then " is hashed (".toList ++ path ++ [')']
          else " is ".toList ++ path) ++ ['\n'])
    if s.dialect = .plain && !isPath then set (s.locate name path 0)
  | .nothing =>
    if !short then
      match s.dialect with
      | .plain => say (name ++ ": not found\n".toList)
      | .extended => complain (name ++ ": not found".toList)
    return if s.dialect = .plain then 127 else 1
  return 0

/-- Say in one word what kind of command a name stands for. -/
def describeKind (name : Text) : Sh Nat := do
  let word ← match ← kindOf name with
    | .keyword => pure "keyword"
    | .alias _ => pure "alias"
    | .function => pure "function"
    | .special => pure "builtin"
    | .builtin => pure "builtin"
    | .program _ => pure "file"
    | .nothing => pure ""
  if word.isEmpty then return 1
  else
    say (word.toList ++ ['\n'])
    return 0

/-- Do something for each word; the status is that of the last failure. -/
def forWords (use : Text → Sh Nat) (code : Nat) : List Text → Sh Nat
  | [] => return code
  | w :: rest => do
    let c ← use w
    forWords use (if c = 0 then code else c) rest

/-- Say what names stand for. -/
def type_ : Builtin := fun _ ws => do
  if ← isPlain then forWords (describe false) 0 ws
  else
    let (given, names) ← options "afptP" "type: usage: type [-afptP] name [name ...]" ws
    let has (c : Char) : Bool := given.any fun o => o.1 == c
    let s ← getThe State
    let tree := (← act get).tree
    if has 't' then forWords describeKind 0 names
    else if has 'p' || has 'P' then
      forWords (fun name => do
        match ← kindOf name, programPath? s tree name with
        | .program path, _ =>
          say (path ++ ['\n'])
          return 0
        | _, some path =>
          if has 'P' then say (path ++ ['\n'])
          return 0
        | .nothing, none => return 1
        | _, none => return 0) 0 names
    else if has 'a' then
      forWords (fun name => do
        let isProgram := match ← kindOf name with
          | .program _ => true
          | _ => false
        let code ← if isProgram then pure 0 else describe false name
        let paths := Job.candidates ((s.value? "PATH".toList).getD []) name
        let found := paths.filter fun path =>
          match tree.lookup s.place path with
          | .ok entry => Job.isProgram entry
          | .error _ => false
        if !name.any (· == '/') then
          say (found.flatMap fun path => name ++ " is ".toList ++ octets path.text ++ ['\n'])
        return if found.isEmpty then code else 0) 0 names
    else forWords (describe false) 0 names

/-! ### Others -/

/-- Do nothing. -/
def nothing (code : Nat) : Builtin := fun _ _ => return code

/-- Set or print aliases. -/
def alias_ : Builtin := fun _ ws => do
  let s ← getThe State
  let shown (a : Text × Text) : Text :=
    (if s.dialect = .plain then [] else "alias ".toList) ++ a.1 ++ '=' :: plainQuoted a.2 ++ ['\n']
  let ws := if ws.head? = some ['-', 'p'] then ws.drop 1 else ws
  if ws.isEmpty then
    say (s.aliases.flatMap shown)
    return 0
  else
    forWords (fun w => do
      match cut? ['='] w with
      | some (name, t) =>
        modifyThe State fun s =>
          { s with aliases := (s.aliases.filter fun a => a.1 != name) ++ [(name, t)] }
        return 0
      | none =>
        match s.aliases.lookup w with
        | some t =>
          say (shown (w, t))
          return 0
        | none =>
          match s.dialect with
          | .plain => report ("alias: ".toList ++ w ++ " not found\n".toList)
          | .extended => complain (w ++ ": not found".toList)
          return 1) 0 ws

/-- Forget aliases. -/
def unalias : Builtin := fun _ ws => do
  let s ← getThe State
  if ws.head? = some ['-', 'a'] then
    set { s with aliases := [] }
    return 0
  else
    forWords (fun w => do
      let s ← getThe State
      match s.aliases.lookup w with
      | some _ =>
        set { s with aliases := s.aliases.filter fun a => a.1 != w }
        return 0
      | none =>
        match s.dialect with
        | .plain => report ("unalias: ".toList ++ w ++ " not found\n".toList)
        | .extended => complain (w ++ ": not found".toList)
        return 1) 0 ws

/-- Wait for commands in the background, all of which have ended. -/
def wait : Builtin := fun _ ws => do
  let s ← getThe State
  match ws.find? fun w => w.head? = some '-' with
  | some w =>
    if s.dialect = .plain then failBuiltin ("Illegal option ".toList ++ w.take 2) 2
    else return 0
  | none =>
    forEachJob s 0 ws
where
  /-- The status of the last of the jobs. -/
  forEachJob (s : State) (code : Nat) : List Text → Sh Nat
    | [] => return code
    | w :: rest => do
      match nat? w with
      | some pid =>
        match s.background.lookup pid with
        | some status => forEachJob s status rest
        | none =>
          if s.dialect = .extended then
            complain ("pid ".toList ++ w ++ " is not a child of this shell".toList)
          forEachJob s 127 rest
      | none =>
        if w.head? = some '%' then forEachJob s ((s.background.head?.map Prod.snd).getD 127) rest
        else if s.dialect = .plain then failBuiltin ("Illegal number: ".toList ++ w) 2
        else
          complain ("\x60".toList ++ w ++ "': not a pid or valid job spec".toList)
          return 1

/-- The place of a name in the table of the plain language. -/
def plainSlot (name : Text) : Nat :=
  let first := (name.head?.map Char.toNat).getD 0
  name.foldl (fun n c => n + c.toNat) (first * 16) % 32768 % 31

/-- The place of a name in the table of the extended language. -/
def extendedSlot (name : Text) : Nat :=
  name.foldl (fun n c => Nat.xor (n * 16777619 % 4294967296) c.toNat) 2166136261 % 256

/-- Print which programs have been looked up. -/
def listLocated : Sh Nat := do
  let s ← getThe State
  let slot := match s.dialect with
    | .plain => plainSlot
    | .extended => extendedSlot
  let sorted := s.located.mergeSort fun a b => slot a.1 ≤ slot b.1
  match s.dialect with
  | .plain => say (sorted.flatMap fun l => l.2.1 ++ ['\n'])
  | .extended =>
    if sorted.isEmpty then say "hash: hash table empty\n".toList
    else
      say ("hits\tcommand\n".toList ++ sorted.flatMap fun l =>
        padLeft 4 ' ' (ofNat l.2.2) ++ '\t' :: l.2.1 ++ ['\n'])
  return 0

/-- Look for programs, or forget where they are. -/
def hash : Builtin := fun _ ws => do
  let plain ← isPlain
  let (given, names) ← options (if plain then "rv" else "rdtpl")
    "hash: usage: hash [-lr] [-p pathname] [-dt] [name ...]" ws
  if given.any fun o => o.1 == 'r' then
    modifyThe State fun s => { s with located := [] }
    return 0
  else if names.isEmpty then listLocated
  else
    forWords (fun w => do
      let s ← getThe State
      match programPath? s (← act get).tree w with
      | some path =>
        if !w.any (· == '/') && !isAmong (builtinNames s.dialect) w then set (s.locate w path 0)
        return 0
      | none =>
        if isAmong (builtinNames s.dialect) w then return 0
        else
          complain (w ++ ": not found".toList)
          return 1) 0 names

/-- Print how long programs have worked, which is no time. -/
def times : Builtin := fun _ _ => do
  let line := match (← getThe State).dialect with
    | .plain => "0m0.000000s 0m0.000000s\n".toList
    | .extended => "0m0.000s 0m0.000s\n".toList
  say (line ++ line)
  return 0

/-- Print that nothing is limited. -/
def ulimit : Builtin := fun _ ws => do
  if ws.any fun w => w.head? != some '-' then return 0
  else
    say "unlimited\n".toList
    return 0

/-- Complain that there are no jobs. -/
def noJob : Builtin := fun _ _ => do
  if ← isPlain then failBuiltin "No current job".toList 2
  else
    complain "no job control".toList
    return 1

/-- Leave loops, or go on with their next round. -/
def leaveLoops (jump : Nat → Jump) : Builtin := fun _ ws => do
  let s ← getThe State
  let n ← match ws with
    | [] => pure 1
    | w :: _ => demandNat w
  if n = 0 then
    match s.dialect with
    | .plain => failBuiltin "Illegal number: 0".toList 2
    | .extended =>
      complain "0: loop count out of range".toList
      return 1
  else if s.loops = 0 then
    if s.dialect = .extended then
      complain "only meaningful in a \x60for', \x60while', or \x60until' loop".toList
    return 0
  else
    setStatus 0
    throw (jump (min n s.loops))

/-- Leave a function, a file or the script. -/
def return_ : Builtin := fun _ ws => do
  let s ← getThe State
  if s.dialect = .extended && s.frames.isEmpty && s.sources = 0 then
    complain "can only \x60return' from a function or sourced script".toList
    return 2
  else
    let n ← match ws with
      | [] => pure s.status
      | w :: _ =>
        match s.dialect with
        | .plain => demandNat w
        | .extended =>
          match int? w with
          | some i => pure (i % 256).toNat
          | none => do
            complain (w ++ ": numeric argument required".toList)
            pure 2
    setStatus n
    throw Jump.back

/-- Leave the shell. -/
def exit_ : Builtin := fun _ ws => do
  let s ← getThe State
  let n ← match ws with
    | [] => pure s.status
    | w :: _ =>
      match s.dialect with
      | .plain => demandNat w
      | .extended =>
        match int? w with
        | some i => pure (i % 256).toNat
        | none => do
          complain (w ++ ": numeric argument required".toList)
          pure 2
  exitWith n

/-- The built-in command with a name.  Those that run other commands are not among them. -/
def builtin? (dialect : Dialect) (name : Text) : Option Builtin :=
  let extended (b : Builtin) : Option Builtin := if dialect = .extended then some b else none
  match String.ofList name with
  | ":" => some (nothing 0)
  | "true" => some (nothing 0)
  | "false" => some (nothing 1)
  | "." => some source
  | "source" => extended source
  | "[" => some (test true)
  | "test" => some (test false)
  | "alias" => some alias_
  | "unalias" => some unalias
  | "bg" => some noJob
  | "fg" => some noJob
  | "jobs" => some (nothing 0)
  | "break" => some (leaveLoops .leave)
  | "continue" => some (leaveLoops .next)
  | "cd" => some cd
  | "pushd" => extended pushd
  | "popd" => extended popd
  | "dirs" => extended dirs
  | "chdir" => if dialect = .plain then some cd else none
  | "echo" => some echo
  | "printf" => some printf
  | "eval" => some eval
  | "exit" => some exit_
  | "logout" => extended exit_
  | "return" => some return_
  | "export" => some export_
  | "readonly" => some readonly
  | "local" => some local_
  | "declare" => extended declare
  | "typeset" => extended declare
  | "let" => extended let_
  | "getopts" => some getopts
  | "hash" => some hash
  | "kill" => some kill
  | "trap" => some trap
  | "pwd" => some pwd
  | "read" => some read
  | "mapfile" => extended mapfile
  | "readarray" => extended mapfile
  | "set" => some set_
  | "shopt" => extended shopt
  | "shift" => some shift
  | "times" => some times
  | "type" => some type_
  | "ulimit" => some ulimit
  | "umask" => some umask
  | "unset" => some unset
  | "wait" => some wait
  | "enable" => extended (nothing 0)
  | "help" => extended (nothing 0)
  | "disown" => extended (nothing 1)
  | "history" => extended (nothing 0)
  | "complete" => extended (nothing 0)
  | "compgen" => extended (nothing 0)
  | "caller" => extended (nothing 1)
  | _ => none

end ComponentFile.Shell
