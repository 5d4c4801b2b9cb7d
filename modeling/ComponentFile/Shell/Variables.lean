import ComponentFile.Shell.Signals

/-!
# Built-in commands for variables and options

## Main definitions

* `Shell.declare`, `Shell.local_`, `Shell.export_`, `Shell.readonly`, `Shell.unset` : variables.
* `Shell.set_`, `Shell.shopt`, `Shell.shift` : options and arguments.
-/

namespace ComponentFile.Shell

open Text

/-! ### Declarations -/

/-- The attributes that a declaration gives and takes. -/
structure Attributes where
  given : Text
  taken : Text

/-- A variable with the attributes of a declaration. -/
def Attributes.apply (a : Attributes) (v : Var) : Var :=
  let has (c : Char) : Bool := a.given.any (· == c)
  let lost (c : Char) : Bool := a.taken.any (· == c)
  let value := match v.value with
    | none => if has 'A' then some (Value.table []) else if has 'a' then some (.list []) else none
    | some (.text t) =>
      if has 'a' then some (.list [(0, t)]) else if has 'A' then some (.table [(['0'], t)])
      else some (.text t)
    | other => other
  { value := value
    exported := (v.exported || has 'x') && !lost 'x'
    readOnly := v.readOnly || has 'r'
    integer := (v.integer || has 'i') && !lost 'i'
    casing := if has 'u' then some .upper else if has 'l' then some .lower
      else if lost 'u' || lost 'l' then none else v.casing
    isReference := (v.isReference || has 'n') && !lost 'n' }

/-- The name, the value and the sign of an argument that may assign one. -/
def argumentAssignment (dialect : Dialect) (t : Text) : Text × Bool × Option Text :=
  match cut? ['='] t with
  | some (name, value) =>
    if dialect = .extended && name.getLast? = some '+' then (name.dropLast, true, some value)
    else (name, false, some value)
  | none => (t, false, none)

/-- Keep a variable for when the function that is running ends. -/
def keepVar (name : Text) : Sh Unit :=
  modifyThe State fun s =>
    match s.frames with
    | [] => s
    | frame :: rest =>
      if frame.any fun v => v.1 == name then s
      else { s with frames := ((name, s.var? name) :: frame) :: rest }

/-- Make a variable that belongs to the function which is running. -/
def makeLocal (name : Text) : Sh Unit := do
  let s ← getThe State
  keepVar name
  if s.dialect = .extended && !(s.frames.head?.any fun f => f.any fun v => v.1 == name) then
    modifyThe State fun s => s.eraseVar name

/-- Declare a variable. -/
def declareOne (a : Attributes) (isLocal : Bool) (t : Text) : Sh Nat := do
  let s ← getThe State
  let (name, append, value) := argumentAssignment s.dialect t
  if !isName name then
    match s.dialect with
    | .plain => failBuiltin (name ++ ": bad variable name".toList) 2
    | .extended =>
      complain ("\x60".toList ++ t ++ "': not a valid identifier".toList)
      return 1
  else if ((s.var? name).map Var.readOnly).getD false && (value.isSome || isLocal) then
    match s.dialect with
    | .plain => failBuiltin (name ++ ": is read only".toList) 2
    | .extended =>
      let shown := s.command.filter fun c => c != "export".toList && c != "readonly".toList
      modifyThe State fun s => { s with command := shown }
      complain (name ++ ": readonly variable".toList)
      modifyThe State fun t => { t with command := s.command }
      return 1
  else
    if isLocal then makeLocal name
    let before := (← getThe State).var? name
    let early : Attributes := { a with given := a.given.filter (· != 'r') }
    modifyThe State fun s => s.setVar name (early.apply (before.getD .unset))
    match value with
    | none => pure ()
    | some t =>
      if a.given.any (· == 'n') then
        modifyThe State fun s => s.setVar name
          { (s.var? name).getD .unset with value := some (.text t) }
        return 0
      let isInteger := (((← getThe State).var? name).map Var.integer).getD false
      let t ← if isInteger then do pure (ofInt (← calculate t)) else pure t
      let old := ((← getThe State).value? name).getD []
      assignText name (if append then old ++ t else t)
    if a.given.any (· == 'r') then
      modifyThe State fun s =>
        match s.var? name with
        | some v => s.setVar name { v with readOnly := true }
        | none => s
    return 0

/-- Declare variables. -/
def declareAll (a : Attributes) (isLocal : Bool) (code : Nat) : List Text → Sh Nat
  | [] => return code
  | t :: rest => do
    let c ← declareOne a isLocal t
    declareAll a isLocal (max code c) rest

/-- The variables in the order of their names. -/
def sortedVars (s : State) : List (Text × Var) :=
  s.vars.mergeSort fun a b => Text.le a.1 b.1

/-- Print variables with a word in front in the plain language. -/
def listPlain (word : String) (select : Var → Bool) : Sh Nat := do
  let s ← getThe State
  say ((sortedVars s).flatMap fun v =>
    if !select v.2 then []
    else
      let value := match v.2.value.bind Value.toText? with
        | some t => '=' :: plainQuoted t
        | none => []
      word.toList ++ ' ' :: v.1 ++ value ++ ['\n'])
  return 0

/-- Print variables as declarations. -/
def listDeclared (select : Var → Bool) : Sh Nat := do
  let s ← getThe State
  say ((sortedVars s).flatMap fun v =>
    if select v.2 then declaration v.1 v.2 ++ ['\n'] else [])
  return 0

/-- Mark variables to be known to programs. -/
def export_ : Builtin := fun _ ws => do
  let plain ← isPlain
  let (given, names) ← options (if plain then "p" else "fnp")
    "export: usage: export [-fn] [name[=value] ...] or export -p" ws
  if names.isEmpty then
    if plain then listPlain "export" Var.exported else listDeclared Var.exported
  else if given.any fun o => o.1 == 'n' then declareAll ⟨[], ['x']⟩ false 0 names
  else if given.any fun o => o.1 == 'f' then return 0
  else declareAll ⟨['x'], []⟩ false 0 names

/-- Mark variables as not to be changed. -/
def readonly : Builtin := fun _ ws => do
  let plain ← isPlain
  let (given, names) ← options (if plain then "p" else "aAfp")
    "readonly: usage: readonly [-aAf] [name[=value] ...] or readonly -p" ws
  if names.isEmpty then
    if plain then listPlain "readonly" Var.readOnly else listDeclared Var.readOnly
  else if given.any fun o => o.1 == 'f' then return 0
  else declareAll ⟨'r' :: given.map Prod.fst, []⟩ false 0 names

/-- Make variables of a function. -/
def local_ : Builtin := fun _ ws => do
  let s ← getThe State
  if s.frames.isEmpty then
    match s.dialect with
    | .plain => failBuiltin "not in a function".toList 2
    | .extended =>
      complain "can only be used in a function".toList
      return 1
  else
    match s.dialect with
    | .plain => declareAll ⟨[], []⟩ true 0 (ws.filter (· != ['-']))
    | .extended =>
      let (given, names) ← options "aAilnrux"
        "local: usage: local [option] name[=value] ..." ws
      declareAll ⟨given.map Prod.fst, []⟩ true 0 names

/-- The attributes at the front of arguments, and the other arguments. -/
def attributesOf (a : Attributes) : List Text → Except Text (Attributes × List Text)
  | ['-', '-'] :: rest => .ok (a, rest)
  | (sign :: c :: t) :: rest =>
    if sign = '-' || sign = '+' then
      let letters := c :: t
      match letters.find? fun l => !"aAfFgiIlnrtuxp".toList.any (· == l) with
      | some l => .error (sign :: [l])
      | none =>
        attributesOf (if sign = '-' then { a with given := a.given ++ letters }
          else { a with taken := a.taken ++ letters }) rest
    else .ok (a, (sign :: c :: t) :: rest)
  | ws => .ok (a, ws)

/-- Declare variables with attributes. -/
def declare : Builtin := fun _ ws => do
  let s ← getThe State
  match attributesOf ⟨[], []⟩ ws with
  | .error bad =>
    complain (bad ++ ": invalid option".toList)
    report ("declare: usage: declare [-aAfFgiIlnrtux] [name[=value] ...] or declare -p " ++
      "[-aAfFilnrtux] [name ...]\n").toList
    return 2
  | .ok (a, names) =>
    let has (c : Char) : Bool := a.given.any (· == c)
    if has 'f' || has 'F' then
      eachOf (fun name => if has 'F' && (s.functions.lookup name).isSome then say (name ++ ['\n'])
        else pure ()) names
      return if names.all fun n => (s.functions.lookup n).isSome then 0 else 1
    else if names.isEmpty then listDeclared fun v => (a.given.filter (· != 'p')).all fun c =>
      (c == 'x' && v.exported) || (c == 'r' && v.readOnly) || (c == 'i' && v.integer)
    else if has 'p' then
      eachOf (fun name => do
        match s.var? name with
        | some v => say (declaration name v ++ ['\n'])
        | none => complain (name ++ ": not found".toList)) names
      return if names.all fun n => (s.var? n).isSome then 0 else 1
    else declareAll a (!s.frames.isEmpty && !has 'g') 0 names

/-- Forget a variable, an element or a function. -/
def unsetOne (ofFunctions ofVariables ofReferences : Bool) (t : Text) : Sh Nat := do
  let s ← getThe State
  let removeFunction : Sh Unit :=
    modifyThe State fun s => { s with functions := s.functions.filter fun f => f.1 != t }
  if ofFunctions then
    removeFunction
    return 0
  else
    let (name, index) := match s.dialect, cut? ['['] t with
      | .extended, some (name, rest) => (name, some rest.dropLast)
      | _, _ => (t, none)
    let name := if ofReferences then name else s.target name
    if !isName name then
      match s.dialect with
      | .plain => failBuiltin (t ++ ": bad variable name".toList) 2
      | .extended =>
        complain ("\x60".toList ++ t ++ "': not a valid identifier".toList)
        return 1
    else
      match s.var? name with
      | none =>
        if s.dialect = .extended && !ofVariables then removeFunction
        return 0
      | some v =>
        if v.readOnly then
          match s.dialect with
          | .plain => failBuiltin (t ++ ": is read only".toList) 2
          | .extended =>
            complain (t ++ ": cannot unset: readonly variable".toList)
            return 1
        else
          match index, v.value with
          | some i, some (.table entries) =>
            modifyThe State fun s => s.setVar name
              { v with value := some (.table (entries.filter fun e => e.1 != i)) }
          | some i, some (.list elements) =>
            let n ← calculate i
            let last : Int := (elements.getLast?.map Prod.fst).getD 0
            let n := if n < 0 then n + last + 1 else n
            modifyThe State fun s => s.setVar name
              { v with value := some (.list (elements.filter fun e => (e.1 : Int) != n)) }
          | _, _ => modifyThe State fun s => s.eraseVar name
          return 0

/-- Forget variables or functions. -/
def unset : Builtin := fun _ ws => do
  let (given, names) ← options "fvn" "unset: usage: unset [-f] [-v] [-n] [name ...]" ws
  let ofFunctions := given.any fun o => o.1 == 'f'
  let ofVariables := given.any fun o => o.1 == 'v'
  let ofReferences := given.any fun o => o.1 == 'n'
  go (unsetOne ofFunctions ofVariables ofReferences) 0 names
where
  /-- Forget them one after the other. -/
  go (forget : Text → Sh Nat) (code : Nat) : List Text → Sh Nat
    | [] => return code
    | t :: rest => do
      let c ← forget t
      go forget (max code c) rest

/-! ### Options -/

/-- The options of the plain language with their letters, in the order in which they are listed. -/
def plainOptions : List (String × Char) :=
  [("errexit", 'e'), ("noglob", 'f'), ("ignoreeof", 'I'), ("interactive", 'i'), ("monitor", 'm'),
    ("noexec", 'n'), ("stdin", 's'), ("xtrace", 'x'), ("verbose", 'v'), ("vi", 'V'), ("emacs", 'E'),
    ("noclobber", 'C'), ("allexport", 'a'), ("notify", 'b'), ("nounset", 'u'), ("privileged", 'p'),
    ("nolog", ' '), ("debug", ' ')]

/-- The options of the extended language with their letters. -/
def extendedOptions : List (String × Char) :=
  [("allexport", 'a'), ("braceexpand", 'B'), ("emacs", ' '), ("errexit", 'e'), ("errtrace", 'E'),
    ("functrace", 'T'), ("hashall", 'h'), ("histexpand", 'H'), ("history", ' '),
    ("ignoreeof", ' '), ("interactive-comments", ' '), ("keyword", 'k'), ("monitor", 'm'),
    ("noclobber", 'C'), ("noexec", 'n'), ("noglob", 'f'), ("nolog", ' '), ("notify", 'b'),
    ("nounset", 'u'), ("onecmd", 't'), ("physical", 'P'), ("pipefail", ' '), ("posix", ' '),
    ("privileged", 'p'), ("verbose", 'v'), ("vi", ' '), ("xtrace", 'x')]

/-- The options of a language. -/
def Dialect.options : Dialect → List (String × Char)
  | .plain => plainOptions
  | .extended => extendedOptions

/-- List the options. -/
def listOptions (asCommands : Bool) : Sh Nat := do
  let s ← getThe State
  let always := ["braceexpand", "hashall", "interactive-comments"]
  let isOn (o : String) : Bool := s.has o || (s.dialect = .extended && always.any (· == o))
  let heading :=
    if s.dialect = .plain && !asCommands then "Current option settings\n".toList else []
  let gap : Text := if s.dialect = .plain then [] else ['\t']
  say (heading ++ s.dialect.options.flatMap fun o =>
    if asCommands then
      "set ".toList ++ (if isOn o.1 then ['-'] else ['+']) ++ "o ".toList ++ o.1.toList ++ ['\n']
    else
      let width := if s.dialect = .plain then 16 else 15
      padRight width ' ' o.1.toList ++ gap ++ (if isOn o.1 then "on\n" else "off\n").toList)
  return 0

/-- Give up `set` because of an option. -/
def badOption {α : Type} (sign : Char) (t : Text) : Sh α := do
  if ← isPlain then failBuiltin ("Illegal option ".toList ++ sign :: t) 2
  else
    complain (sign :: t ++ ": invalid option".toList)
    report "set: usage: set [-abefhkmnptuvxBCEHPT] [-o option-name] [--] [-] [arg ...]\n".toList
    setStatus 2
    throw Jump.fault

/-- Turn an option with a name on or off. -/
def setNamed (on : Bool) (name : Text) : Sh Unit := do
  let s ← getThe State
  if s.dialect.options.any fun o => o.1.toList == name then
    modifyThe State fun s => s.setOption (String.ofList name) on
  else
    match s.dialect with
    | .plain => badOption (if on then '-' else '+') ("o ".toList ++ name)
    | .extended => failBuiltin (name ++ ": invalid option name".toList) 2

/-- Turn options on and off, and find the arguments behind them, if there are any. -/
def setOptions : Nat → List Text → Sh (Option (List Text))
  | 0, _ => return none
  | fuel + 1, ws => do
    match ws with
    | [] => return none
    | ['-', '-'] :: rest => return some rest
    | ['-'] :: rest => return if rest.isEmpty then none else some rest
    | (sign :: c :: t) :: rest =>
      if sign != '-' && sign != '+' then return some ws
      else
        let on := sign = '-'
        let again (rest : List Text) : List Text :=
          if t.isEmpty then rest else (sign :: t) :: rest
        if c = 'o' then
          match rest with
          | name :: rest =>
            setNamed on name
            setOptions fuel (again rest)
          | [] =>
            let _ ← listOptions (!on)
            return none
        else
          let dialect := (← getThe State).dialect
          match dialect.options.find? fun o => o.2 == c with
          | some o =>
            modifyThe State fun s => s.setOption o.1 on
            setOptions fuel (again rest)
          | none => badOption sign [c]
    | _ => return some ws

/-- A value as the extended language lists it. -/
def shownValue (t : Text) : Text :=
  if needsMarks t || Format.needsEscapes t then quotedForReading t else t

/-- Set options and arguments, or print the variables. -/
def set_ : Builtin := fun _ ws => do
  let s ← getThe State
  if ws.isEmpty then
    say ((sortedVars s).flatMap fun v =>
      match v.2.value with
      | some (.text t) =>
        let shown := match s.dialect with
          | .plain => plainQuoted t
          | .extended => if t.isEmpty then [] else shownValue t
        v.1 ++ '=' :: shown ++ ['\n']
      | some value => v.1 ++ '=' :: value.spelling ++ ['\n']
      | none => [])
    return 0
  else
    match ← setOptions (ws.foldl (fun n w => n + w.length + 1) 1) ws with
    | none => return 0
    | some rest =>
      modifyThe State fun s => { s with
        arguments := rest
        optionIndex := if s.dialect = .plain then 1 else s.optionIndex
        optionOffset := 0 }
      return 0

/-- Set or print the further options of the extended language. -/
def shopt : Builtin := fun _ ws => do
  let (given, names) ← options "pqsuo" "shopt: usage: shopt [-pqsu] [-o] [optname ...]" ws
  let has (c : Char) : Bool := given.any fun o => o.1 == c
  let s ← getThe State
  let known : List String := if has 'o' then s.dialect.options.map Prod.fst
    else State.furtherOptions.map Prod.fst
  let isOn (o : String) : Bool := if has 'o' then s.has o else s.isOn o
  let isKnown (n : Text) : Bool := known.any fun o => o.toList == n
  let unknown := names.filter fun n => !isKnown n
  let chosen := (names.filter isKnown).map String.ofList
  eachOf (fun n => complain (n ++ (if has 'o' then ": invalid option name"
    else ": invalid shell option name").toList)) unknown
  if has 's' || has 'u' then
    eachOf (fun o => modifyThe State fun s =>
      if has 'o' then s.setOption o (has 's') else s.setFurther o (has 's')) chosen
    return if unknown.isEmpty then 0 else 1
  else
    let shown := if names.isEmpty then known else chosen
    if !has 'q' then
      say (shown.flatMap fun o =>
        if has 'p' then
          (if has 'o' then "set " else "shopt ").toList ++
            (if has 'o' then (if isOn o then "-o " else "+o ")
             else (if isOn o then "-s " else "-u ")).toList ++ o.toList ++ ['\n']
        else padRight 15 ' ' o.toList ++ '\t' :: (if isOn o then "on\n" else "off\n").toList)
    return if names.isEmpty then 0 else if unknown.isEmpty && chosen.all isOn then 0 else 1

/-- Drop arguments. -/
def shift : Builtin := fun _ ws => do
  let s ← getThe State
  let n ← match s.dialect, ws with
    | _, [] => pure 1
    | .plain, w :: _ => demandNat w
    | .extended, w :: _ =>
      match int? w with
      | some i =>
        if i < 0 then failBuiltin (w ++ ": shift count out of range".toList) 1 else pure i.toNat
      | none => failBuiltin (w ++ ": numeric argument required".toList) 1
  if n > s.arguments.length then
    match s.dialect with
    | .plain => failBuiltin "can't shift that many".toList 2
    | .extended => return 1
  else
    set { s with arguments := s.arguments.drop n }
    return 0

end ComponentFile.Shell
