import ComponentFile.Shell.Script

/-!
# Reading input and options in scripts

## Main definitions

* `Shell.read` : reading a line into variables.
* `Shell.mapfile` : reading lines into an array.
* `Shell.getopts` : going through options.
-/

namespace ComponentFile.Shell

open Text

/-! ### Lines -/

/-- Whether a marked character separates fields. -/
def separates (separators : Text) (c : MarkedChar) : Bool :=
  !c.2 && separators.any (· == c.1)

/-- Whether a marked character is white space between fields. -/
def isGapIn (separators : Text) (c : MarkedChar) : Bool :=
  separates separators c && (c.1 == ' ' || c.1 == '\t' || c.1 == '\n')

/-- Marked characters without the white space behind them. -/
def dropGapsBehind (separators : Text) (t : List MarkedChar) : List MarkedChar :=
  (t.reverse.dropWhile (isGapIn separators)).reverse

/-- What is left for the last variable: a separator at the end does not count when there is no
other one. -/
def lastField (separators : Text) (t : List MarkedChar) : List MarkedChar :=
  let t := dropGapsBehind separators t
  match t.getLast? with
  | some c =>
    let inner := dropGapsBehind separators t.dropLast
    if separates separators c && inner.all (fun d => !separates separators d) then inner else t
  | none => t

/-- The values of a number of variables, the last of which takes what is left. -/
def lineFields (separators : Text) : Nat → List MarkedChar → List Text
  | 0, _ => []
  | n + 1, t =>
    let t := t.dropWhile (isGapIn separators)
    if n = 0 then [(lastField separators t).map Prod.fst]
    else
      let field := t.takeWhile fun c => !separates separators c
      let rest := (t.drop field.length).dropWhile (isGapIn separators)
      let rest := match rest with
        | c :: more => if separates separators c then more else rest
        | [] => []
      field.map Prod.fst :: lineFields separators n rest

/-- The characters of a line up to its end, with those behind a backslash marked, and whether the
line goes on. -/
def markLine (raw : Bool) (done : List MarkedChar) : Text → List MarkedChar × Bool
  | [] => (done.reverse, false)
  | '\\' :: t =>
    if raw then markLine raw (('\\', false) :: done) t
    else
      match t with
      | ['\n'] => (done.reverse, true)
      | c :: u => markLine raw ((c, true) :: done) u
      | [] => (done.reverse, false)
  | c :: t => markLine raw ((c, false) :: done) t

/-- Read a line up to a character, and whether the character was there. -/
def readMarked (i : Nat) (raw : Bool) (stop : Char) (done : List MarkedChar) :
    Nat → Act (List MarkedChar × Bool)
  | 0 => return (done, false)
  | fuel + 1 => do
    let line ← Act.readLine i stop
    let line := line.filter (· != '\x00')
    let complete := line.getLast? = some stop
    let (marked, goesOn) := markLine raw [] line
    if goesOn then readMarked i raw stop (done ++ marked) fuel
    else return (done ++ if complete then marked.dropLast else marked, complete)

/-- How a line is read. -/
structure LineOptions where
  raw : Bool
  stop : Char
  count : Option Nat
  stream : Nat
  array : Option Text

/-- Read a line into variables. -/
def readInto (o : LineOptions) (names : List Text) : Sh Nat := do
  let s ← getThe State
  match s.streams.lookup o.stream with
  | none =>
    if s.dialect = .extended then
      complain ("read error: ".toList ++ ofNat o.stream ++ ": Bad file descriptor".toList)
    return 1
  | some i =>
    let (marked, complete) ← match o.count with
      | none => act (readMarked i o.raw o.stop [] 1000000)
      | some n => do
        let block := (Act.rest (← act get) i).take n
        let line := (through o.stop block).1
        let _ ← act (Act.readBlock i line.length)
        let ended := line.getLast? = some o.stop
        let t := if ended then line.dropLast else line
        pure (t.map fun c => (c, false), ended || line.length = n)
    let separators := s.separators
    match o.array with
    | some name =>
      let plain := Part.value (marked.map Prod.fst)
      let fields := (splitParts separators [plain]).map Field.text
      changeVar name fun v =>
        { v with value := some (.list (fields.zipIdx.map fun f => (f.2, f.1))) }
    | none =>
      if names.isEmpty then assignText "REPLY".toList (marked.map Prod.fst)
      else
        let fields := lineFields separators names.length marked
        eachOf (fun (p : Text × Text) => assignText p.1 p.2)
          (names.zip (fields ++ List.replicate names.length []))
    return if complete then 0 else 1

/-- Read a line. -/
def read : Builtin := fun _ ws => do
  let plain ← isPlain
  let letters := if plain then "p:r" else "a:d:ei:n:N:p:rst:u:"
  let (given, names) ← options letters
    ("read: usage: read [-ers] [-a array] [-d delim] [-i text] [-n nchars] [-N nchars] " ++
      "[-p prompt] [-t timeout] [-u fd] [name ...]") ws
  let bad := names.find? fun n => !isName n
  match bad with
  | some n =>
    if plain then failBuiltin (n ++ ": bad variable name".toList) 2
    else
      complain ("\x60".toList ++ n ++ "': not a valid identifier".toList)
      return 1
  | none =>
    if names.isEmpty && plain then failBuiltin "arg count".toList 2
    else
      let value (c : Char) : Option Text := given.reverse.lookup c
      let count := ((value 'n').orElse fun _ => value 'N').bind nat?
      let stop := match value 'd' with
        | some (c :: _) => c
        | some [] => '\x00'
        | none => '\n'
      readInto ⟨given.any fun o => o.1 == 'r', stop, count,
        ((value 'u').bind nat?).getD 0, value 'a'⟩ names

/-- Read lines into an array. -/
def mapfile : Builtin := fun _ ws => do
  let (given, names) ← options "c:C:d:n:O:s:tu:" "mapfile: usage: mapfile [-t] [array]" ws
  let s ← getThe State
  let name := names.head?.getD "MAPFILE".toList
  let stream := ((given.lookup 'u').bind nat?).getD 0
  let t ← match s.streams.lookup stream with
    | some i => act (Act.read i)
    | none => pure []
  let lines := linesEnded t
  let lines := match (given.lookup 's').bind nat? with
    | some n => lines.drop n
    | none => lines
  let lines := match (given.lookup 'n').bind nat? with
    | some (n + 1) => lines.take (n + 1)
    | _ => lines
  let lines := if given.any fun o => o.1 == 't' then lines.map chomp else lines
  changeVar name fun v => { v with value := some (.list (lines.zipIdx.map fun l => (l.2, l.1))) }
  return 0

/-! ### Options -/

/-- Set the variables that say how far the options have been gone through. -/
def setProgress (index offset : Nat) : Sh Unit := do
  changeVar "OPTIND".toList fun v => { v with value := some (.text (ofNat index)) }
  modifyThe State fun s => { s with optionIndex := index, optionOffset := offset }

/-- End going through the options. -/
def endOptions (name : Text) (index : Nat) : Sh Nat := do
  setProgress index 0
  modifyThe State fun s => s.eraseVar "OPTARG".toList
  assignText name ['?']
  return 1

/-- Go on with the option at a letter: `rest` are the letters behind it, `index` is the number of
the argument behind this one, and `offset` how far the letters behind it are in their argument. -/
def takeOption (letters name : Text) (arguments : List Text) (c : Char) (rest : Text)
    (index offset : Nat) : Sh Nat := do
  let dialect := (← getThe State).dialect
  let silent := letters.head? = some ':'
  let known := if silent then letters.drop 1 else letters
  let unset : Sh Unit := modifyThe State fun s => s.eraseVar "OPTARG".toList
  let shown (index : Nat) : Nat :=
    if dialect = .extended && !rest.isEmpty then index - 1 else index
  let goOn : Sh Unit := do
    setProgress (shown index) (if rest.isEmpty then 0 else offset)
    modifyThe State fun s => { s with optionIndex := index }
  match OptionSet.valuedIn c known with
  | none =>
    goOn
    assignText name ['?']
    if silent then assignText "OPTARG".toList [c]
    else
      unset
      match dialect with
      | .plain => report ("Illegal option -".toList ++ [c, '\n'])
      | .extended =>
        report ((← getThe State).name ++ ": illegal option -- ".toList ++ [c, '\n'])
    return 0
  | some .never =>
    goOn
    unset
    assignText name [c]
    return 0
  | some _ =>
    if !rest.isEmpty then
      setProgress index 0
      assignText "OPTARG".toList rest
      assignText name [c]
      return 0
    else
      match arguments[index - 1]? with
      | some value =>
        setProgress (index + 1) 0
        assignText "OPTARG".toList value
        assignText name [c]
        return 0
      | none =>
        setProgress index 0
        if silent then
          assignText "OPTARG".toList [c]
          assignText name [':']
        else
          unset
          assignText name ['?']
          match dialect with
          | .plain => report ("No arg for -".toList ++ c :: " option\n".toList)
          | .extended =>
            report
              ((← getThe State).name ++ ": option requires an argument -- ".toList ++ [c, '\n'])
        return 0

/-- Go on to the next option. -/
def getopts : Builtin := fun _ ws => do
  let s ← getThe State
  match ws with
  | letters :: name :: rest =>
    let arguments := if rest.isEmpty then s.arguments else rest
    let index := max 1 s.optionIndex
    if s.optionOffset > 0 then
      let current := arguments[index - 2]?.getD []
      match current.drop s.optionOffset with
      | c :: more => takeOption letters name arguments c more index (s.optionOffset + 1)
      | [] => next arguments letters name index
    else next arguments letters name index
  | _ =>
    match s.dialect with
    | .plain => failBuiltin "Usage: getopts optstring var [arg...]".toList 2
    | .extended =>
      report "getopts: usage: getopts optstring name [arg ...]\n".toList
      return 2
where
  /-- Go on to the next argument. -/
  next (arguments : List Text) (letters name : Text) (index : Nat) : Sh Nat := do
    match arguments[index - 1]? with
    | some ['-', '-'] => endOptions name (index + 1)
    | some ('-' :: c :: more) => takeOption letters name arguments c more (index + 1) 2
    | _ => endOptions name index

end ComponentFile.Shell
