import ComponentFile.Tools.Files

/-!
# Tools that start programs

## Main definitions

* `Tools.env`, `Tools.printenv` : programs in another environment.
* `Tools.xargs` : programs with arguments from the input.
* `Tools.timeout`, `Tools.nice`, `Tools.nohup`, `Tools.stdbuf` : programs under conditions that make
  no difference here.
* `Tools.sleep`, `Tools.pwd`, `Tools.realpath`, `Tools.readlink` : what else programs are asked for.
-/

namespace ComponentFile

open Text Tool

/-- The environment with a variable. -/
def withVariable (environment : List (Text × Text)) (name value : Text) : List (Text × Text) :=
  if environment.any fun e => e.1 == name then
    environment.map fun e => if e.1 == name then (name, value) else e
  else environment ++ [(name, value)]

/-- The environment without a variable. -/
def withoutVariable (environment : List (Text × Text)) (name : Text) : List (Text × Text) :=
  environment.filter fun e => e.1 != name

/-- The code with which a program ends that cannot start another one. -/
def Fault.startCode : Fault → Nat
  | .notFound => 127
  | _ => 126

/-- The name and the value that a text assigns. -/
def assignment? (t : Text) : Option (Text × Text) :=
  Text.cut? ['='] t

namespace Tools

/-- A code as a way to end. -/
def ending (tool : Tool Nat) : Tool ExitStatus := do
  return .code (← tool)

/-- End with a code if the options make no sense, or as a program does. -/
def launching (s : OptionSet) (code : Nat)
    (run : List GivenOption → List Text → Tool ExitStatus) : Tool ExitStatus := do
  match s.read (← read).arguments with
  | .ok (options, operands) => run options operands
  | .error fault => ending (misuse fault.message code)

/-- Become another program, or say why that is refused. -/
def become (launch : Launcher) (job : Job) (name : Text)
    (refused : Fault → Tool Unit) : Tool ExitStatus := do
  match ← start launch name job with
  | .ended status => return status
  | .refused fault =>
    refused fault
    return .code fault.startCode

/-! ### The environment -/

/-- What a reader of split words has found: the word that is being read in reverse, if one has
begun, and the words before it in reverse. -/
structure SplitWords where
  word : Option Text
  done : List Text

/-- Add a character to the word that is being read. -/
def SplitWords.push (s : SplitWords) (c : Char) : SplitWords :=
  { s with word := some (c :: s.word.getD []) }

/-- End the word that is being read. -/
def SplitWords.close (s : SplitWords) : SplitWords :=
  match s.word with
  | some w => ⟨none, w.reverse :: s.done⟩
  | none => s

/-- The character that an escape stands for in split words. -/
def splitEscape (c : Char) : Char :=
  match c with
  | 'n' => '\n'
  | 't' => '\t'
  | 'r' => '\r'
  | 'f' => '\x0c'
  | 'v' => '\x0b'
  | '_' => ' '
  | c => c

/-- Why split words make no sense. -/
inductive SplitFault where
  | unclosed
  | badExpansion (rest : Text)
  | atEnd

/-- The wording of a fault. -/
def SplitFault.message : SplitFault → Text
  | unclosed => "no terminating quote in -S string".toList
  | badExpansion rest =>
    "only $\x7bVARNAME\x7d expansion is supported, error at: ".toList ++ rest
  | atEnd => "invalid backslash at end of string in -S".toList

/-- The words that a text is split into, given the quotation mark that is open. -/
def splitWords (variableOf : Text → Text) :
    Nat → SplitWords → Option Char → Text → Except SplitFault (List Text)
  | 0, s, _, _ => .ok s.close.done.reverse
  | _ + 1, s, none, [] => .ok s.close.done.reverse
  | _ + 1, _, some _, [] => .error .unclosed
  | fuel + 1, s, quote, c :: t =>
    if quote = some c then splitWords variableOf fuel s none t
    else if quote = none && (c = '\'' || c = '"') then
      splitWords variableOf fuel { s with word := some (s.word.getD []) } (some c) t
    else if quote = none && Text.isWhite c then splitWords variableOf fuel s.close none t
    else if quote = none && c = '#' && s.word.isNone then .ok s.done.reverse
    else if c = '\\' then
      match t with
      | [] => .error .atEnd
      | d :: u =>
        if quote = some '\'' then
          if d = '\\' || d = '\'' then splitWords variableOf fuel (s.push d) quote u
          else splitWords variableOf fuel (s.push '\\') quote t
        else if d = 'c' && quote = none then .ok s.close.done.reverse
        else if d = '_' && quote = none then splitWords variableOf fuel s.close none u
        else splitWords variableOf fuel (s.push (splitEscape d)) quote u
    else if c = '$' && quote != some '\'' then
      match t with
      | '\x7b' :: u =>
        let name := u.takeWhile Text.isNameChar
        match u.drop name.length with
        | '\x7d' :: rest =>
          if Text.isName name then
            splitWords variableOf fuel ((variableOf name).foldl SplitWords.push s) quote rest
          else .error (.badExpansion (c :: t))
        | _ => .error (.badExpansion (c :: t))
      | _ => .error (.badExpansion (c :: t))
    else splitWords variableOf fuel (s.push c) quote t

/-- The arguments with the words of those that are to be split, in the order of the options. -/
def splitArguments (variableOf : Text → Text) : Nat → List Text → Except SplitFault (List Text)
  | 0, ws => .ok ws
  | fuel + 1, ws =>
    let split (t : Text) (rest : List Text) : Except SplitFault (List Text) := do
      let ws ← splitWords variableOf (2 * t.length + 2) ⟨none, []⟩ none t
      splitArguments variableOf fuel (ws ++ rest)
    match ws with
    | [] => .ok []
    | w :: rest =>
      if Text.startsWith "--split-string=" w then split (w.drop 15) rest
      else
        match w, rest with
        | ['-', 'S'], t :: rest => split t rest
        | '-' :: 'S' :: t, _ => split t rest
        | '-' :: 'v' :: 'S' :: t, _ => if t.isEmpty then .ok ws else split t rest
        | ['-', 'u'], v :: rest => return w :: v :: (← splitArguments variableOf fuel rest)
        | ['-', 'C'], v :: rest => return w :: v :: (← splitArguments variableOf fuel rest)
        | '-' :: _, _ => return w :: (← splitArguments variableOf fuel rest)
        | _, _ => .ok ws

/-- The options of `env`. -/
def envOptions : OptionSet :=
  ⟨"C:iS:u:v0", [("ignore-environment", 'i', .never), ("null", '0', .never),
    ("unset", 'u', .always), ("chdir", 'C', .always), ("split-string", 'S', .always),
    ("debug", 'v', .never)], false⟩

/-- Assignments at the front of operands, made in an environment. -/
def assignAll (environment : List (Text × Text)) :
    List Text → List (Text × Text) × List Text
  | [] => (environment, [])
  | w :: rest =>
    match assignment? w with
    | some (name, value) => assignAll (withVariable environment name value) rest
    | none => (environment, w :: rest)

/-- Change the environment and become another program, or print the environment. -/
def envRun (launch : Launcher) (options : List GivenOption) (operands : List Text) :
    Tool ExitStatus := do
  let job ← read
  let dash := operands.head? = some ['-']
  let operands := if dash then operands.drop 1 else operands
  let first := if dash || given options 'i' then [] else job.environment
  let unset := options.filterMap fun o => if o.1 = 'u' then some o.2 else none
  match unset.find? fun name => name.isEmpty || name.any (· == '=') with
  | some name =>
    ending (fail ("cannot unset ".toList ++ quotedPlain name ++
      ": Invalid argument".toList) 125)
  | none =>
    let (environment, command) := assignAll (unset.foldl withoutVariable first) operands
    match command with
    | [] =>
      if (valueOf? options 'C').isSome then
        ending (misuse "must specify command with --chdir (-C)".toList 125)
      else
        let stop := if given options '0' then '\x00' else '\n'
        say (environment.flatMap fun e => e.1 ++ '=' :: e.2 ++ [stop])
        return .code 0
    | name :: arguments =>
      let tree ← tree
      let place : Except Fault Place := match valueOf? options 'C' with
        | none => .ok job.place
        | some directory =>
          if tree.isDirectory job.place (pathOf directory) then
            tree.follow job.place (pathOf directory)
          else
            match tree.lookup job.place (pathOf directory) with
            | .error fault => .error fault
            | .ok _ => .error .notADirectory
      match place with
      | .error fault =>
        ending (fail (cannot "change directory to".toList
          ((valueOf? options 'C').getD []) fault) 125)
      | .ok place =>
        let next := { job with arguments := arguments, environment := environment, place := place }
        become launch next name fun fault => do
          complain (about (quotedPlain name) fault)
          if fault = .notFound && name.any Text.isWhite then
            complain "use -[v]S to pass options in shebang lines".toList

/-- A program in another environment. -/
def env (launch : Launcher) : Tool ExitStatus := do
  let job ← read
  let variableOf (name : Text) : Text := (job.environment.lookup name).getD []
  match splitArguments variableOf (job.arguments.length + 100) job.arguments with
  | .error fault => ending (fail fault.message 125)
  | .ok arguments =>
    match envOptions.read arguments with
    | .ok (options, operands) => envRun launch options operands
    | .error fault => do
      complain fault.message
      match fault with
      | .unknownLetter c =>
        if Text.isWhite c then complain "use -[v]S to pass options in shebang lines".toList
      | _ => pure ()
      suggestHelp
      return .code 125

/-- Print variables of the environment. -/
def printenv : Tool Nat :=
  withOptions ⟨"0", [("null", '0', .never)], false⟩ 2 fun options operands => do
    let environment := (← read).environment
    let stop := if given options '0' then '\x00' else '\n'
    if operands.isEmpty then
      say (environment.flatMap fun e => e.1 ++ '=' :: e.2 ++ [stop])
      return 0
    else
      operands.forM fun name => do
        match environment.lookup name with
        | some value => say (value ++ [stop])
        | none => pure ()
      return if operands.all fun name => (environment.lookup name).isSome then 0 else 1

/-! ### Arguments from the input -/

namespace Xargs

/-- Why the input cannot be read as arguments. -/
inductive Fault where
  | unmatched (kind : String)
  | tooLong

/-- The wording of a fault. -/
def Fault.message : Fault → Text
  | unmatched kind => ("unmatched " ++ kind ++ " quote; by default quotes are special to xargs " ++
      "unless you use the -0 option").toList
  | tooLong => "argument line too long".toList

/-- An argument, and whether its line ends behind it. -/
abbrev Item := Text × Bool

/-- The arguments of an input: `word` is the one that is being read in reverse, if one has begun,
and `quote` the quotation mark that is open.  When `whole`, a line is one argument. -/
def items (whole : Bool) (done : List Item) (word : Option Text) (quote : Option Char) :
    Text → List Item × Option Fault
  | [] =>
    match quote with
    | some q => (done.reverse, some (.unmatched (if q = '"' then "double" else "single")))
    | none =>
      match word with
      | some w => ((if w.isEmpty then done else (w.reverse, true) :: done).reverse, none)
      | none => (done.reverse, none)
  | '\\' :: c :: t =>
    if quote.isNone then items whole done (some (c :: word.getD [])) none t
    else items whole done (some ('\\' :: word.getD [])) quote (c :: t)
  | c :: t =>
    match quote with
    | some q =>
      if c = '\n' then
        (done.reverse, some (.unmatched (if q = '"' then "double" else "single")))
      else if c = q then items whole done word none t
      else items whole done (some (c :: word.getD [])) quote t
    | none =>
      if c = '\n' then
        match word with
        | some w => items whole ((w.reverse, true) :: done) none none t
        | none => items whole done none none t
      else if word.isNone && Text.isWhite c then items whole done none none t
      else if !whole && Text.isGap c then
        items whole (((word.getD []).reverse, false) :: done) none none t
      else if c = '\\' then items whole done word none t
      else if c = '\'' || c = '"' then
        items whole done (some (word.getD [])) (some c) t
      else items whole done (some (c :: word.getD [])) none t
termination_by t => t.length

/-- The arguments of an input that a character separates. -/
def separated (stop : Char) (t : Text) : List Item :=
  let parts := t.splitOn stop
  let parts := if parts.getLast? = some [] then parts.dropLast else parts
  parts.map fun w => (w, true)

/-- How arguments are put together. -/
structure Plan where
  items : Option Nat
  lines : Option Nat
  marker : Option Text
  limit : Nat

/-- A text with another in the place of a marker. -/
def replaced (marker by_ : Text) : Nat → Text → Text
  | 0, t => t
  | fuel + 1, t =>
    if marker.isEmpty then t
    else
      match cut? marker t with
      | some (a, b) => a ++ by_ ++ replaced marker by_ fuel b
      | none => t

/-- Put arguments together for one program after the other: `batch` is what is being put together,
in reverse, with its size and its number of lines. -/
def batches (plan : Plan) (base : Nat) (done : List (List Text)) (batch : List Text)
    (size lines : Nat) : List Item → List (List Text) × Option Fault
  | [] => ((if batch.isEmpty then done else batch.reverse :: done).reverse, none)
  | (w, ends) :: rest =>
    let cost := w.length + 1
    if base + cost > plan.limit then
      ((if batch.isEmpty then done else batch.reverse :: done).reverse, some .tooLong)
    else
      let full := base + size + cost > plan.limit
      let done := if full && !batch.isEmpty then batch.reverse :: done else done
      let (batch, size, lines) := if full then ([], 0, 0) else (batch, size, lines)
      let batch := w :: batch
      let lines := lines + if ends then 1 else 0
      if plan.items.any (batch.length ≥ ·) || plan.lines.any (lines ≥ ·) then
        batches plan base (batch.reverse :: done) [] 0 0 rest
      else batches plan base done batch (size + cost) lines rest

/-- The number that is the value of an option, which has a least value. -/
def numberOf (letter : Char) (value : Text) (least : Nat) : Except Text Nat :=
  match int? value with
  | some n =>
    if n < least then
      .error
        ("value ".toList ++ value ++ " for -".toList ++ letter :: " option should be >= ".toList
        ++ ofNat least)
    else .ok n.toNat
  | none =>
    .error ("invalid number \"".toList ++ value ++ "\" for -".toList ++ letter :: " option".toList)

/-- The plan after an option. -/
def Plan.after (plan : Plan) (o : GivenOption) : Except Text Plan :=
  match o.1 with
  | 'n' => do
    let n ← numberOf 'n' o.2 1
    let keepsMarker := n = 1 && plan.marker.isSome
    return if keepsMarker then plan
      else { plan with items := some n, lines := none, marker := none }
  | 'L' => do
    let n ← numberOf 'L' o.2 1
    return { plan with lines := some n, items := none, marker := none }
  | 'l' => do
    let n ← if o.2.isEmpty then .ok 1 else numberOf 'l' o.2 1
    return { plan with lines := some n, items := none, marker := none }
  | 'I' => return { plan with marker := some o.2, items := none, lines := none }
  | 'i' =>
    return { plan with
      marker := some (if o.2.isEmpty then "\x7b\x7d".toList else o.2), items := none,
      lines := none }
  | 's' => do
    let n ← numberOf 's' o.2 1
    return { plan with limit := min n plan.limit }
  | 'P' => do
    let _ ← numberOf 'P' o.2 0
    return plan
  | _ => return plan

/-- The character that a delimiter stands for. -/
def delimiter? (t : Text) : Option Char :=
  match t with
  | [c] => some c
  | ['\\', c] => ("abfnrtv\\0".toList.zip "\x07\x08\x0c\n\r\t\x0b\\\x00".toList).lookup c
  | _ => none

/-- The options. -/
def options : OptionSet :=
  ⟨"0a:E:e::i::I:l::L:n:prs:txP:d:", [("null", '0', .never), ("arg-file", 'a', .always),
    ("delimiter", 'd', .always), ("eof", 'e', .attached), ("replace", 'i', .attached),
    ("max-lines", 'l', .attached), ("max-args", 'n', .always), ("interactive", 'p', .never),
    ("no-run-if-empty", 'r', .never), ("max-chars", 's', .always), ("verbose", 't', .never),
    ("exit", 'x', .never), ("max-procs", 'P', .always)], false⟩

/-- Run the programs one after the other; what they end with decides the code. -/
def runAll (launch : Launcher) (job : Job) (name : Text) (shown : Bool) (code : Nat) :
    List (List Text) → Tool Nat
  | [] => return code
  | arguments :: rest => do
    if shown then
      report (spacedWords ((name :: arguments).map (Format.reusable .program)) ++ ['\n'])
    match ← start launch name { job with arguments := arguments } with
    | .refused fault =>
      complain (about name fault)
      return fault.startCode
    | .ended (.signal n) =>
      complain (name ++ ": terminated by signal ".toList ++ ofNat n)
      return 125
    | .ended (.code n) =>
      if n = 255 then
        complain (name ++ ": exited with status 255; aborting".toList)
        return 124
      else runAll launch job name shown (if n = 0 then code else 123) rest

end Xargs

/-- Run programs with arguments from the input. -/
def xargs (launch : Launcher) : Tool Nat :=
  withOptions Xargs.options 1 fun options operands => do
    let job ← read
    let plan : Except Text Xargs.Plan := options.foldlM Xargs.Plan.after ⟨none, none, none, 131072⟩
    match plan with
    | .error message => misuse message 1
    | .ok plan =>
      let source ← match valueOf? options 'a' with
        | some file => contents file
        | none => pure (Except.ok (← input))
      match source with
      | .error fault =>
        fail ("Cannot open input file ".toList ++ about (quotedPlain
          ((valueOf? options 'a').getD [])) fault) 1
      | .ok t =>
        let stop : Option Char :=
          if given options '0' then some '\x00' else (valueOf? options 'd').bind Xargs.delimiter?
        let (items, fault) := match stop with
          | some c => (Xargs.separated c t, none)
          | none => Xargs.items plan.marker.isSome [] none none t
        let last := ((valueOf? options 'E').orElse fun _ => valueOf? options 'e').filter (· != [])
        let items := if stop.isSome then items else
          match last with
          | some mark => items.takeWhile fun i => i.1 != mark
          | none => items
        let command := if operands.isEmpty then ["echo".toList] else operands
        let name := command.head?.getD []
        let initial := command.drop 1
        let base := command.foldl (fun n w => n + w.length + 1) 0
        let (runs, tooLong) := match plan.marker with
          | some marker =>
            (items.map fun i => initial.map fun w =>
              Xargs.replaced marker i.1 (w.length + 1) w, none)
          | none =>
            let (batches, tooLong) := Xargs.batches plan base [] [] 0 0 items
            let batches := if batches.isEmpty && tooLong.isNone && !given options 'r' then [[]]
              else batches
            (batches.map fun b => initial ++ b, tooLong)
        let runs := if items.isEmpty && fault.isSome then [] else runs
        let quiet ← Act.newStream .nothing
        let child := if (valueOf? options 'a').isSome then job
          else { job with streams := redirect job.streams 0 quiet }
        let code ← Xargs.runAll launch child name (given options 't') 0 runs
        match fault.orElse fun _ => tooLong with
        | none => return code
        | some fault => if code < 124 then fail fault.message 1 else return code

/-! ### Conditions that make no difference -/

/-- The number of seconds of an interval, in nanoseconds. -/
def interval? (t : Text) : Option Nat :=
  let (digits, unit) := match t.getLast? with
    | some 's' => (t.dropLast, 1)
    | some 'm' => (t.dropLast, 60)
    | some 'h' => (t.dropLast, 3600)
    | some 'd' => (t.dropLast, 86400)
    | _ => (t, 1)
  if digits = "infinity".toList || digits = "inf".toList then some 0
  else (DecimalFraction.ofText? digits).bind fun d =>
    if d.digits < 0 then none
    else some (d.digits.toNat * unit * 1000000000 / Nat.pow 10 d.places)

/-- Complain that a command cannot be run. -/
def cannotRun (name : Text) (fault : Fault) : Tool Unit :=
  complain ("failed to run command ".toList ++ about (quotedPlain name) fault)

/-- Become the program that the operands are. -/
def becomeOperands (launch : Launcher) (operands : List Text)
    (refused : Text → Fault → Tool Unit) : Tool ExitStatus := do
  match operands with
  | [] => ending (misuse "missing operand".toList 125)
  | name :: arguments =>
    become launch { ← read with arguments := arguments } name (refused name)

/-- The signal that a word names, by its number or its name. -/
def signalNamed? (w : Text) : Option Nat :=
  match nat? w with
  | some n => if n ≤ 64 then some n else none
  | none =>
    let w := w.map Char.toUpper
    let w := if Text.startsWith "SIG" w then w.drop 3 else w
    if w = "EXIT".toList then some 0
    else (ExitStatus.signalNames.findIdx? fun name => name.toList == w).map (· + 1)

/-- A program with a time limit. -/
def timeout (launch : Launcher) : Tool ExitStatus :=
  launching ⟨"fk:ps:v", [("foreground", 'f', .never), ("kill-after", 'k', .always),
    ("preserve-status", 'p', .never), ("signal", 's', .always), ("verbose", 'v', .never)], false⟩
    125 fun options operands => do
    let badSignal := (valueOf? options 's').filter fun s => (signalNamed? s).isNone
    let badKill := (valueOf? options 'k').filter fun s => (interval? s).isNone
    match badKill, badSignal with
    | some t, _ => ending (misuse ("invalid time interval ".toList ++ quotedPlain t) 125)
    | _, some s => ending (misuse (quotedPlain s ++ ": invalid signal".toList) 125)
    | none, none =>
      match operands with
      | duration :: name :: rest =>
        if (interval? duration).isNone then
          ending (misuse ("invalid time interval ".toList ++ quotedPlain duration) 125)
        else becomeOperands launch (name :: rest) cannotRun
      | _ => do
        suggestHelp
        return .code 125

/-- A program of another importance. -/
def nice (launch : Launcher) : Tool ExitStatus := do
  let job ← read
  let arguments := match job.arguments with
    | first :: rest =>
      match int? (first.drop 1) with
      | some _ => if first.head? = some '-' then "-n".toList :: first.drop 1 :: rest
        else job.arguments
      | none => job.arguments
    | [] => []
  (launching ⟨"n:", [("adjustment", 'n', .always)], false⟩ 125 fun options operands => do
    match (valueOf? options 'n').filter fun n => (int? n).isNone with
    | some n => ending (fail ("invalid adjustment ".toList ++ quotedPlain n) 125)
    | none =>
      if operands.isEmpty then
        if options.isEmpty then
          say ['0', '\n']
          return .code 0
        else ending (misuse "a command must be given with an adjustment".toList 125)
      else
        becomeOperands launch operands fun name fault => complain (about (quotedPlain name) fault))
    { job with arguments := arguments }

/-- A program that goes on when others leave. -/
def nohup (launch : Launcher) : Tool ExitStatus :=
  launching ⟨"", [], false⟩ 125 fun _ operands => becomeOperands launch operands cannotRun

/-- A program with other buffers. -/
def stdbuf (launch : Launcher) : Tool ExitStatus :=
  launching ⟨"i:o:e:", [("input", 'i', .always), ("output", 'o', .always),
    ("error", 'e', .always)], false⟩ 125 fun options operands => do
    let isMode (m : Text) : Bool :=
      m == ['L'] || ((nat? (m.filter Char.isDigit)).isSome && m.head?.any Char.isDigit)
    match options.find? fun o => !isMode o.2 with
    | some o => ending (fail ("invalid mode ".toList ++ quotedPlain o.2) 125)
    | none =>
      if operands.isEmpty then ending (misuse "missing operand".toList 125)
      else if options.isEmpty then
        ending (misuse "you must specify a buffering mode option".toList 125)
      else becomeOperands launch operands cannotRun

/-- Wait, which takes no time here. -/
def sleep : Tool Nat :=
  withOptions ⟨"", [], true⟩ 1 fun _ operands => do
    if operands.isEmpty then missingOperand
    else
      let bad := operands.filter fun t => (interval? t).isNone
      bad.forM fun t => complain ("invalid time interval ".toList ++ quotedPlain t)
      if bad.isEmpty then return 0
      else
        suggestHelp
        return 1

/-! ### Places -/

/-- The path of a place. -/
def textOfPlace (place : Place) : Text :=
  if place.isEmpty then ['/'] else place.flatMap fun name => '/' :: octets name.text

/-- Print the directory that the program works in. -/
def pwd : Tool Nat :=
  withOptions ⟨"LP", [("logical", 'L', .never), ("physical", 'P', .never)], true⟩ 1
    fun _ operands => do
    if !operands.isEmpty then complain "ignoring non-option arguments".toList
    say (textOfPlace (← read).place ++ ['\n'])
    return 0

/-- Print the paths that operands lead to, without steps back. -/
def realpath : Tool Nat :=
  withOptions ⟨"eLmPqsz", [("canonicalize-existing", 'e', .never),
    ("canonicalize-missing", 'm', .never), ("quiet", 'q', .never), ("zero", 'z', .never)], true⟩ 1
    fun options operands => do
    let job ← read
    let tree ← tree
    if operands.isEmpty then missingOperand
    else
      forOperands operands (fun name => do
        match tree.follow job.place (pathOf name) with
        | .ok place =>
          if given options 'e' && (tree.entry? place).isNone then
            return some (about name .notFound)
          else
            say (textOfPlace place ++ [if given options 'z' then '\x00' else '\n'])
            return none
        | .error fault => return some (about name fault)) 1

/-- Print what links lead to.  There are none, so that only whole paths are printed. -/
def readlink : Tool Nat :=
  withOptions ⟨"efmnqsvz", [("canonicalize", 'f', .never), ("no-newline", 'n', .never)], true⟩ 1
    fun options operands => do
    let job ← read
    let tree ← tree
    let whole := given options 'f' || given options 'e' || given options 'm'
    if operands.isEmpty then missingOperand
    else
      operands.foldlM (fun code name => do
        match if whole then tree.follow job.place (pathOf name) else .error .notFound with
        | .ok place =>
          say (textOfPlace place ++ if given options 'n' then [] else ['\n'])
          return code
        | .error _ => return 1) 0

end Tools

end ComponentFile
