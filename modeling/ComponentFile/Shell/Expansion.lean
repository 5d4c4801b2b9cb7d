import ComponentFile.Shell.Fields
import ComponentFile.Tools.Format

/-!
# Expansion

## Main definitions

* `Shell.Machine` : the functions that run what is nested in commands and words.
* `Shell.calculate` : the value of a text as a calculation.
* `Shell.expandPiece` : the parts of a piece.
* `Shell.expandFields`, `Shell.expandText`, `Shell.expandPattern` : the fields, the text and the
  pattern of a word.
-/

namespace ComponentFile.Shell

open Text

/-- How a command is run: whether its failure is looked at, and whether it is the last one. -/
structure Mode where
  tested : Bool
  last : Bool

/-- The functions that run what is nested: a command, the pieces of a word, and a program. -/
structure Machine where
  launch : Launcher
  run : Mode → Command → Sh Unit
  parts : Bool → List Piece → Sh (List Part)

/-! ### Parameters -/

/-- The letters of the options that are on. -/
def optionLetters (s : State) : Text :=
  let letters : List (String × Char) := [("verbose", 'v'), ("xtrace", 'x'), ("nounset", 'u'),
    ("noexec", 'n'), ("noglob", 'f'), ("errexit", 'e'), ("noclobber", 'C'), ("allexport", 'a'),
    ("stdin", 's')]
  match s.dialect with
  | .plain => (letters.reverse.filter fun l => s.has l.1).map Prod.snd |> orderPlain
  | .extended =>
    let first := (["allexport", "errexit", "noglob"].filter s.has).map fun o =>
      (letters.lookup o).getD ' '
    let second := (["noexec", "nounset", "verbose", "xtrace"].filter s.has).map fun o =>
      (letters.lookup o).getD ' '
    first ++ ['h'] ++ second ++ ['B'] ++ (if s.has "noclobber" then ['C'] else []) ++
      (if s.has "stdin" then ['s'] else []) ++
      (if s.origin = "-c".toList then ['c'] else [])
where
  /-- The letters in the order of the plain language. -/
  orderPlain (t : Text) : Text :=
    "plubaCEVvxsnmiIfe".toList.filter fun c => t.any (· == c)

/-- Positional parameters that a name stands for, if it stands for all of them. -/
def allArguments? (s : State) (name : Text) : Option (List Text) :=
  if name = ['@'] || name = ['*'] then some s.arguments else none

/-- The value of a parameter that is no list. -/
def scalar? (s : State) (name : Text) : Option Text :=
  match name with
  | ['#'] => some (ofNat s.arguments.length)
  | ['?'] => some (ofNat s.status)
  | ['-'] => some (optionLetters s)
  | ['$'] => some (ofNat s.process)
  | ['!'] => s.background.head?.map fun b => ofNat b.1
  | ['0'] => some s.name
  | _ =>
    match nat? name with
    | some 0 => some s.name
    | some n => s.arguments[n - 1]?
    | none =>
      match s.value? name with
      | some t => some t
      | none =>
        if s.dialect = .plain then none
        else
          match String.ofList name with
          | "LINENO" => some (ofNat s.line)
          | "RANDOM" => some "4242".toList
          | "SECONDS" => some ['0']
          | "BASHPID" => some (ofNat s.process)
          | "BASH_SUBSHELL" => some (ofNat s.subshells)
          | "DIRSTACK" => some (s.valueOf "PWD")
          | _ => none

/-- A text between single quotation marks from which it is read again. -/
def singlyQuoted (t : Text) : Text :=
  if t = ['\''] then ['\\', '\'']
  else '\'' :: (t.flatMap fun c => if c = '\'' then "'\\''".toList else [c]) ++ ['\'']

/-- A text between single quotation marks from which it is read again, or with escapes if it needs
them. -/
def quotedForReading (t : Text) : Text :=
  if Format.needsEscapes t then Format.escaped t else singlyQuoted t

/-- Whether a text has to be quoted to be read again as it is. -/
def needsMarks (t : Text) : Bool :=
  t.head? = some '#' || t.head? = some '~' ||
    t.any fun c =>
      " \t\n'\"\\|&;()<>!\x7b\x7d*[]?^$".toList.any (· == c) || c.toNat = 0x60

/-! ### Calculations -/

/-- The number that the value of a name is in the plain language. -/
def plainNumber? (t : Text) : Option Int :=
  let t := ((t.dropWhile isWhite).reverse.dropWhile isWhite).reverse
  if t.isEmpty then some 0
  else
    let negative := t.head? = some '-'
    let digits := if negative || t.head? = some '+' then t.drop 1 else t
    let number := match digits with
      | '0' :: 'x' :: rest => natIn? 16 rest
      | '0' :: 'X' :: rest => natIn? 16 rest
      | '0' :: d :: rest => natIn? 8 (d :: rest)
      | _ => natIn? 10 digits
    number.map fun n => clamp64 (if negative then -(n : Int) else n)

/-- The value of an element of a variable. -/
def elementOf (s : State) (name : Text) (i : Int) : Option Text :=
  match (s.var? name).bind Var.value with
  | some (.list elements) =>
    let last := (elements.getLast?.map Prod.fst).getD 0
    let i := if i < 0 then i + last + 1 else i
    if i < 0 then none else elements.lookup i.toNat
  | some (.table entries) => entries.lookup (ofInt i)
  | some (.text t) => if i = 0 || i = -1 then some t else none
  | none => none

/-- The value of an entry of a table. -/
def entryOf (s : State) (name key : Text) : Option Text :=
  match (s.var? name).bind Var.value with
  | some (.table entries) => entries.lookup key
  | _ => none

/-- The value of a text as a calculation; the values of names in it are calculated to a depth. -/
def calculateTo : Nat → Text → ExceptT ArithFault Sh Int
  | 0, t => throw (.recursion t)
  | depth + 1, t => do
    let dialect := (← getThe State).dialect
    let memory : Arith.Memory (ExceptT ArithFault Sh) :=
      { key := fun name index => do
          let s ← getThe State
          match (s.var? (s.target name)).bind Var.value with
          | some (.table _) => return .text index
          | _ => return .number (← calculateTo depth index)
        read := fun name key => do
          let s ← getThe State
          let name := s.target name
          let value := match key with
            | some (.number i) => elementOf s name i
            | some (.text t) => entryOf s name t
            | none => scalar? s name
          match value with
          | none => return 0
          | some t =>
            match dialect with
            | .plain =>
              match plainNumber? t with
              | some n => return n
              | none => throw (.illegalNumber t)
            | .extended =>
              match int? t with
              | some n => if t.head? = some '0' then calculateTo depth t else return wrap64 n
              | none => calculateTo depth t
        write := fun name key v =>
          match key with
          | some (.number i) => liftM (assignElement name i.toNat (ofInt v))
          | some (.text t) => liftM (assignEntry name t (ofInt v))
          | none => liftM (assignText name (ofInt v))
        fail := fun fault => throw fault }
    match Arith.read dialect t with
    | .error fault => throw fault
    | .ok a => a.eval memory

/-- The value of a text as a calculation, or why it has none. -/
def calculate? (t : Text) : Sh (Except ArithFault Int) :=
  (calculateTo 64 t).run

/-- The value of a text as a calculation. -/
def calculate (t : Text) : Sh Int := do
  match ← calculate? t with
  | .ok v => return v
  | .error fault => abort (fault.message (← getThe State).dialect t)

/-! ### Texts and patterns -/

/-- The text of a word that is not split. -/
def expandText (m : Machine) (quoted : Bool) (w : Word) : Sh Text := do
  return joinParts (← m.parts quoted w)

/-- The characters of parts as a pattern. -/
def markParts (parts : List Part) : List MarkedChar :=
  parts.flatMap fun
    | .fixed quoted t => t.map fun c => (c, quoted)
    | .value t => t.map fun c => (c, false)
    | .cut => [(' ', false)]

/-- The pattern of a word. -/
def expandPattern (m : Machine) (w : Word) : Sh Glob := do
  return Glob.ofMarked (← getThe State).globRules (markParts (← m.parts false w))

/-! ### Home directories -/

/-- The text with the path of a home directory in the place of the sign at its front. -/
def withHome (s : State) (isWhole : Bool) (t : Text) : Text :=
  match t with
  | '~' :: rest =>
    let user := rest.takeWhile (· != '/')
    let behind := rest.drop user.length
    if behind.isEmpty && !isWhole then t
    else if user.isEmpty then
      match s.value? "HOME".toList with
      | some home => home ++ behind
      | none => t
    else if user = "root".toList then "/root".toList ++ behind
    else if s.dialect = .extended && user = ['+'] then s.valueOf "PWD" ++ behind
    else if s.dialect = .extended && user = ['-'] then
      (s.value? "OLDPWD".toList).elim t fun old => old ++ behind
    else t
  | _ => t

/-- The pieces of a word with home directories at its front, and, when it is a value that is
assigned, behind its colons. -/
def withHomes (s : State) (assigned : Bool) (w : Word) : Word :=
  match w with
  | .plain t :: rest =>
    if t.head? = some '~' || (assigned && t.any (· == '~')) then
      let parts := if assigned then t.splitOn ':' else [t]
      let count := parts.length
      let parts := parts.zipIdx.map fun p =>
        let isWhole := rest.isEmpty || p.2 + 1 < count
        let new := withHome s isWhole p.1
        if new = p.1 then Piece.plain p.1 else Piece.quoted new
      match parts.reverse with
      | last :: before =>
        (before.reverse.flatMap fun p => [p, .plain [':']]) ++ last :: rest
      | [] => rest
    else w
  | _ => w

/-! ### Modifiers -/

/-- The value of a parameter before it is modified: nothing, a text, or a list of texts. -/
inductive Found where
  | nothing
  | text (t : Text)
  | list (joined : Bool) (ts : List Text)

/-- The parts of a value. -/
def Found.parts (s : State) (quoted : Bool) : Found → List Part
  | nothing => [if quoted then .fixed true [] else .value []]
  | text t => [if quoted then .fixed true t else .value t]
  | list joined ts =>
    if quoted && joined then [.fixed true ((s.separators.take 1).intercalate ts)]
    else
      let part (t : Text) : Part := if quoted then .fixed true t else .value t
      [Part.cut].intercalate (ts.map fun t => [part t])

/-- Whether a parameter is set. -/
def Found.isSet : Found → Bool
  | nothing => false
  | text _ => true
  | list _ ts => !ts.isEmpty

/-- Whether a parameter has a value that is not empty. -/
def Found.isFilled : Found → Bool
  | nothing => false
  | text t => !t.isEmpty
  | list _ ts => ts.length > 1 || ts.any fun t => !t.isEmpty

/-- A value with each of its texts changed. -/
def Found.map (f : Text → Text) : Found → Found
  | nothing => .nothing
  | text t => .text (f t)
  | list joined ts => .list joined (ts.map f)

/-- A text without what a pattern matches at one of its ends. -/
def trimMatch (fromEnd longest : Bool) (p : Glob) (t : Text) : Text :=
  if fromEnd then
    match p.suffixLength? longest t with
    | some n => t.take (t.length - n)
    | none => t
  else
    match p.prefixLength? longest t with
    | some n => t.drop n
    | none => t

/-- What takes the place of a match: an ampersand that is not quoted stands for the match. -/
def replacementFor (marked : List MarkedChar) (found : Text) : Text :=
  match marked with
  | ('\\', false) :: (c, _) :: rest =>
    if c = '&' || c = '\\' then c :: replacementFor rest found
    else '\\' :: c :: replacementFor rest found
  | ('&', false) :: rest => found ++ replacementFor rest found
  | (c, _) :: rest => c :: replacementFor rest found
  | [] => []

/-- A text with others in the place of what a pattern matches. -/
def replaceMatches (all : Bool) (p : Glob) (by_ : Text → Text) (done : Text) : Nat → Text → Text
  | 0, t => done.reverse ++ t
  | fuel + 1, t =>
    match t with
    | [] => done.reverse
    | c :: rest =>
      match p.prefixLength? true t with
      | some (n + 1) =>
        let new := by_ (t.take (n + 1))
        if all then replaceMatches all p by_ (new.reverse ++ done) fuel (t.drop (n + 1))
        else done.reverse ++ new ++ t.drop (n + 1)
      | _ => replaceMatches all p by_ (c :: done) fuel rest

/-- A text with others in the place of what a pattern matches, wherever that counts. -/
def replaceIn (occurrence : Occurrence) (p : Glob) (by_ : Text → Text) (t : Text) : Text :=
  match occurrence with
  | .first => replaceMatches false p by_ [] (t.length + 1) t
  | .all => replaceMatches true p by_ [] (t.length + 1) t
  | .start =>
    match p.prefixLength? true t with
    | some n => by_ (t.take n) ++ t.drop n
    | none => t
  | .stop =>
    match p.suffixLength? true t with
    | some n => t.take (t.length - n) ++ by_ (t.drop (t.length - n))
    | none => t

/-- A text with the case of its letters changed where a pattern matches them. -/
def recase (casing : Casing) (all : Bool) (p : Glob) (t : Text) : Text :=
  let change (c : Char) : Char :=
    if p.isEmpty || p.isMatch [c] then casing.apply c else c
  match t with
  | [] => []
  | c :: rest => change c :: if all then rest.map change else rest

/-- The part of a list from a place on, which counts from the end if it is negative. -/
def sliceFrom {α : Type} (start : Int) (length : Option Int) (l : List α) : List α :=
  let n : Int := l.length
  let start := if start < 0 then n + start else start
  if start < 0 || start > n then []
  else
    let rest := l.drop start.toNat
    match length with
    | none => rest
    | some k => if k < 0 then rest.take ((n + k - start).toNat) else rest.take k.toNat

/-- Literal text of a word that takes the place of a value is split like one. -/
def splitLiterals (quoted : Bool) (parts : List Part) : List Part :=
  if quoted then parts
  else parts.map fun
    | .fixed false t => .value t
    | p => p

/-- Complain that a parameter is not set, and leave the shell. -/
def unsetFault {α : Type} (t : Text) : Sh α := do
  let s ← getThe State
  match s.dialect with
  | .plain => abort t
  | .extended =>
    abortWith t (if s.origin = "-c".toList && !s.has "errexit" then 127 else 1)

/-- Complain about a parameter that is not set if that is asked for. -/
def demandSet (name : Text) (found : Found) : Sh Unit := do
  let s ← getThe State
  match found with
  | .nothing =>
    if s.has "nounset" then
      match s.dialect with
      | .plain => unsetFault (name ++ ": parameter not set".toList)
      | .extended =>
        let sign := if name.all Char.isDigit then ['$'] else []
        unsetFault (sign ++ name ++ ": unbound variable".toList)
  | _ => pure ()

/-- A text between double quotation marks from which it is read again, or with escapes if it needs
them. -/
def doublyQuoted (t : Text) : Text :=
  if Format.needsEscapes t then Format.escaped t
  else '"' :: (t.flatMap fun c =>
    if c = '"' || c = '\\' || c = '$' || c.toNat = 0x60 then ['\\', c] else [c]) ++ ['"']

/-- A value as it stands in an assignment from which it can be read again. -/
def Value.spelling : Value → Text
  | .text t => doublyQuoted t
  | .list elements =>
    '(' :: [' '].intercalate (elements.map fun e =>
      '[' :: ofNat e.1 ++ "]=".toList ++ doublyQuoted e.2) ++ [')']
  | .table entries =>
    '(' :: entries.flatMap (fun e =>
      let isFree := !Format.needsEscapes e.1 && !needsMarks e.1 && e.1 != ['@']
      let key := if isFree then e.1 else doublyQuoted e.1
      '[' :: key ++ "]=".toList ++ doublyQuoted e.2 ++ [' ']) ++ [')']

/-- The declaration from which a variable can be read again. -/
def declaration (name : Text) (v : Var) : Text :=
  let letters := (match v.value with
      | some (.list _) => ['a']
      | some (.table _) => ['A']
      | _ => []) ++ (if v.integer then ['i'] else []) ++ (if v.isReference then ['n'] else []) ++
      (if v.readOnly then ['r'] else []) ++ (if v.exported then ['x'] else []) ++
      (match v.casing with
      | some .lower => ['l']
      | some .upper => ['u']
      | _ => [])
  let value := match v.value with
    | none => []
    | some value => '=' :: value.spelling
  "declare -".toList ++ (if letters.isEmpty then ['-'] else letters) ++ ' ' :: name ++ value

/-- The declaration of a variable, which is an assignment if it has no attributes. -/
def shortDeclaration (name : Text) (v : Var) : Text :=
  match v.value with
  | some (.text t) =>
    let whole := declaration name v
    if Text.startsWith "declare -- " whole then name ++ '=' :: quotedForReading t
    else whole.takeWhile (· != '=') ++ '=' :: quotedForReading t
  | _ => declaration name v

/-- The parts of the value of a parameter after a modifier. -/
def modify_ (m : Machine) (quoted : Bool) (name : Text) (assign : Text → Sh Unit) (found : Found)
    (modifier : Modifier) : Sh (List Part) := do
  let s ← getThe State
  let word (w : Word) : Sh (List Part) := do
    if w.isEmpty && quoted then return [.fixed true []]
    return splitLiterals quoted (← m.parts quoted (if quoted then w else withHomes s false w))
  let counts (whenEmpty : Bool) : Bool := if whenEmpty then found.isFilled else found.isSet
  match modifier with
  | .value =>
    demandSet name found
    return found.parts s quoted
  | .length =>
    demandSet name found
    let n := match found with
      | .nothing => 0
      | .text t => t.length
      | .list _ ts =>
        if s.dialect = .plain then ([' '].intercalate ts).length else ts.length
    return Found.parts s quoted (.text (ofNat n))
  | .default whenEmpty w => if counts whenEmpty then return found.parts s quoted else word w
  | .alternative whenEmpty w =>
    if counts whenEmpty then word w else return Found.parts s quoted .nothing
  | .assign whenEmpty w =>
    if counts whenEmpty then return found.parts s quoted
    else
      if !isName name then
        match s.dialect with
        | .plain => abort (name ++ ": bad variable name".toList)
        | .extended => abort ('$' :: name ++ ": cannot assign in this way".toList)
      let t := joinParts (← m.parts quoted (withHomes s false w))
      assign t
      return Found.parts s quoted (.text t)
  | .demand whenEmpty w =>
    if counts whenEmpty then return found.parts s quoted
    else
      let message ← if w.isEmpty then
          pure (match s.dialect, whenEmpty with
            | .plain, true => "parameter not set or null"
            | .plain, false => "parameter not set"
            | .extended, true => "parameter null or not set"
            | .extended, false => "parameter not set").toList
        else expandText m quoted w
      unsetFault (name ++ ": ".toList ++ message)
  | .trim fromEnd longest w =>
    demandSet name found
    let p ← expandPattern m w
    return (found.map (trimMatch fromEnd longest p)).parts s quoted
  | .replace occurrence pattern replacement =>
    demandSet name found
    let p ← expandPattern m pattern
    let marked := markParts (← m.parts false replacement)
    let by_ : Text → Text :=
      if s.isOn "patsub_replacement" then replacementFor marked else fun _ => marked.map Prod.fst
    return (found.map (replaceIn occurrence p by_)).parts s quoted
  | .casing casing all pattern =>
    demandSet name found
    let p ← expandPattern m pattern
    return (found.map (recase casing all p)).parts s quoted
  | .part start length =>
    demandSet name found
    let first ← calculate (← expandText m true start)
    let count ← match length with
      | some l => some <$> calculate (← expandText m true l)
      | none => pure none
    match found with
    | .list joined ts =>
      let ts := if name = ['@'] || name = ['*'] then s.name :: ts else ts
      let sliced := sliceFrom first count ts
      return Found.parts s quoted (.list joined sliced)
    | .text t => return Found.parts s quoted (.text (sliceFrom first count t))
    | .nothing => return Found.parts s quoted .nothing
  | .keys => return found.parts s quoted
  | .names _ => return found.parts s quoted
  | .transform letter =>
    let isSet := found.isSet
    let change (t : Text) : Text :=
      match letter with
      | 'Q' => quotedForReading t
      | 'U' => t.map Char.toUpper
      | 'u' => recase .upper false [] t
      | 'L' => t.map Char.toLower
      | 'E' => ((escapedText [] (t.length + 2) (t ++ ['\''])).map Prod.fst).getD t
      | 'A' => ((s.var? name).map (shortDeclaration name)).getD []
      | _ => t
    return if letter = 'A' && isSet then Found.parts s quoted (.text (change []))
      else if isSet then (found.map change).parts s quoted else Found.parts s quoted .nothing

/-! ### Pieces -/

/-- The value of a parameter. -/
def findParameter (m : Machine) (name : Text) (selection : Option (Selection Word)) : Sh Found := do
  let s ← getThe State
  let name := s.target name
  let value := (s.var? name).bind Var.value
  match selection with
  | some .each => return .list false ((value.map Value.elements).getD [])
  | some .joined => return .list true ((value.map Value.elements).getD [])
  | some (.element index) =>
    match value with
    | some (.table entries) =>
      let key ← expandText m true index
      return match entries.lookup key with
        | some t => .text t
        | none => .nothing
    | _ =>
      let i ← calculate (← expandText m true index)
      return match elementOf s name i with
        | some t => .text t
        | none => .nothing
  | none =>
    match allArguments? s name with
    | some ts => return .list (name = ['*']) ts
    | none =>
      return match scalar? s name with
        | some t => .text t
        | none => .nothing

/-- Assign to what a parameter stands for. -/
def assignParameter (m : Machine) (name : Text) (selection : Option (Selection Word)) (t : Text) :
    Sh Unit := do
  let name := (← getThe State).target name
  match selection with
  | some (.element index) =>
    match ((← getThe State).var? name).bind Var.value with
    | some (.table _) => assignEntry name (← expandText m true index) t
    | _ => assignElement name (← calculate (← expandText m true index)).toNat t
  | _ => assignText name t

/-- What a text names that another parameter is: a variable, and one of its elements. -/
def parameterIn (t : Text) : Text × Option (Selection Word) :=
  match cut? ['['] t with
  | some (name, index) =>
    let index := index.dropLast
    if index = ['@'] then (name, some .each)
    else if index = ['*'] then (name, some .joined)
    else (name, some (.element [.quoted index]))
  | none => (t, none)

/-- The names of the variables that have a value and whose names begin with a text. -/
def namesFrom (s : State) (t : Text) : List Text :=
  let set := s.vars.filter fun v => v.2.value.isSome && t.isPrefixOf v.1
  (set.map Prod.fst).mergeSort Text.le

/-! ### Commands inside words -/

/-- Open the stream that commands write to, or that they read, and find its path. -/
def openProcess (m : Machine) (inward : Bool) (commands : List Command) (onTrap : Text → Sh Unit) :
    Sh Text := do
  let s ← getThe State
  let number := 63 - s.processes.length
  let pipe ← act Act.pipe
  if inward then
    let streams := Tool.redirect s.streams 1 pipe
    let _ ← isolated (do
      modifyThe State fun s => { s with streams := streams }
      eachOf (m.run ⟨false, false⟩) commands) onTrap
    act (Act.turn pipe)
  let opened : OpenProcess := ⟨number, pipe, if inward then none else some commands⟩
  modifyThe State fun s => { s with processes := opened :: s.processes }
  return "/dev/fd/".toList ++ ofNat number

/-- Forget the streams that words name but for the first ones.  Commands that read such a stream run
when it has been written to. -/
def closeProcesses (m : Machine) (count : Nat) (onTrap : Text → Sh Unit) : Sh Unit := do
  let s ← getThe State
  if s.processes.length > count then
    let opened := s.processes.take (s.processes.length - count)
    set { s with processes := s.processes.drop opened.length }
    eachOf (fun (p : OpenProcess) => do
      match p.readers with
      | none => pure ()
      | some commands =>
        act (Act.turn p.stream)
        let streams := Tool.redirect s.streams 0 p.stream
        let _ ← isolated (do
          modifyThe State fun s => { s with streams := streams }
          eachOf (m.run ⟨false, false⟩) commands) onTrap) opened.reverse

/-- The output of commands, without the line ends behind it.  In the extended language a redirection
alone stands for what the file holds. -/
def outputOf (m : Machine) (commands : List Command) (onTrap : Text → Sh Unit) : Sh Text := do
  let pipe ← act Act.pipe
  let dialect := (← getThe State).dialect
  let streams := Tool.redirect (← getThe State).streams 1 pipe
  let status ← isolated (do
    modifyThe State fun s =>
      let keeps := dialect = .plain || s.has "inherit_errexit"
      { if keeps then s else s.setOption "errexit" false with streams := streams }
    match dialect, commands with
    | .extended, [.simple _ [] [] [.path _ none .input w]] =>
      let path ← expandText m false w
      let job := (← getThe State).job [] []
      match ← act (job.openPath path .reading) with
      | .ok i => say (← act (Act.read i))
      | .error fault =>
        complain (Tool.about path fault)
        setStatus 1
    | _, _ =>
      eachOf (m.run ⟨false, false⟩) commands.dropLast
      eachOf (m.run ⟨false, true⟩) (commands.drop (commands.length - 1))) onTrap
  let t ← act (Act.written pipe)
  act (modify fun w => w.setStream pipe .nothing)
  modifyThe State fun s =>
    { s with substituted := some status,
             status := if s.dialect = .extended then status else s.status }
  return trimLineEnds (t.filter (· != '\x00'))

/-- The parts of a piece. -/
def expandPiece (m : Machine) (onTrap : Text → Sh Unit) (quoted : Bool) (p : Piece) :
    Sh (List Part) := do
  match p with
  | .plain t => return [.fixed quoted t]
  | .quoted t => return [.fixed true t]
  | .double [] => return [.fixed true []]
  | .double pieces => m.parts true pieces
  | .parameter name selection indirect modifier =>
    match modifier with
    | .keys =>
      let s ← getThe State
      let keys := (((s.var? name).bind Var.value).map Value.keys).getD []
      let joined := match selection with
        | some .joined => true
        | _ => false
      return Found.parts s quoted (.list joined keys)
    | .names joined =>
      let s ← getThe State
      return Found.parts s quoted (.list joined (namesFrom s name))
    | _ =>
      let s ← getThe State
      let found ← findParameter m name selection
      if indirect then
        let isReference := ((s.var? name).map Var.isReference).getD false
        if isReference then
          let t := s.target name
          modify_ m quoted t (assignText t) (.text t) modifier
        else
          let (target, part) := parameterIn (match found with
            | .text t => t
            | _ => [])
          let found ← findParameter m target part
          modify_ m quoted target (assignParameter m target part) found modifier
      else modify_ m quoted name (assignParameter m name selection) found modifier
  | .badParameter source =>
    match (← getThe State).dialect with
    | .plain => abort "Bad substitution".toList
    | .extended => abort (source ++ ": bad substitution".toList)
  | .substitution commands =>
    let t ← outputOf m commands onTrap
    return [if quoted then .fixed true t else .value t]
  | .process inward commands => return [.fixed true (← openProcess m inward commands onTrap)]
  | .arithmetic pieces =>
    let t ← expandText m true pieces
    let v ← calculate t
    return [if quoted then .fixed true (ofInt v) else .value (ofInt v)]

/-- The parts of pieces, behind those that are known in reverse. -/
def expandPieces (m : Machine) (onTrap : Text → Sh Unit) (quoted : Bool) (done : List Part) :
    List Piece → Sh (List Part)
  | [] => return done.reverse
  | p :: rest => do
    let parts ← expandPiece m onTrap quoted p
    expandPieces m onTrap quoted (parts.reverse ++ done) rest

/-! ### Words -/

/-- The fields of a word. -/
def expandFields (m : Machine) (w : Word) : Sh (List Text) := do
  let s ← getThe State
  let words := if s.dialect = .extended then bracedWords w else [w]
  let fields ← words.mapM fun w => do
    let parts ← m.parts false (withHomes (← getThe State) false w)
    let s ← getThe State
    let tree := (← act get).tree
    let found ← (splitParts s.separators parts).mapM fun f => do
      match f.texts? s tree with
      | some texts => return texts
      | none => abort ("no match: ".toList ++ f.text)
    return found.flatten
  return fields.flatten

/-- The text of a word that is assigned. -/
def expandAssigned (m : Machine) (w : Word) : Sh Text := do
  expandText m false (withHomes (← getThe State) true w)

/-- The fields of words. -/
def expandWords (m : Machine) (ws : List Word) : Sh (List Text) := do
  let fields ← ws.mapM (expandFields m)
  return fields.flatten

/-- Make an assignment. -/
def assign (m : Machine) (a : Assignment) : Sh Unit := do
  match a with
  | .value name index append w =>
    let t ← expandAssigned m w
    let s ← getThe State
    let name := s.target name
    let v := s.var? name
    let isInteger := (v.map Var.integer).getD false
    let t ← if isInteger then do pure (ofInt (← calculate t)) else pure t
    let joined (old : Text) : Sh Text := do
      if !append then return t
      else if isInteger then
        return ofInt (wrap64 ((int? old).getD 0 + (int? t).getD 0))
      else return old ++ t
    match index with
    | none => assignText name (← joined ((s.value? name).getD []))
    | some index =>
      match v.bind Var.value with
      | some (.table entries) =>
        let key ← expandText m true index
        assignEntry name key (← joined ((entries.lookup key).getD []))
      | _ =>
        let i ← calculate (← expandText m true index)
        let s ← getThe State
        let count : Int := match (s.var? name).bind Var.value with
          | some (.list elements) => ((elements.getLast?.map Prod.fst).getD 0) + 1
          | _ => 0
        let i := if i < 0 then i + count else i
        assignElement name i.toNat (← joined ((elementOf s name i).getD []))
  | .elements name append words =>
    let name := (← getThe State).target name
    let isTable := match ((← getThe State).var? name).bind Var.value with
      | some (.table _) => true
      | _ => false
    let items ← words.mapM fun w => do
      match w.1 with
      | none => return (← expandFields m w.2).map fun t => ((none : Option Text), t)
      | some index => return [(some (← expandText m true index), ← expandAssigned m w.2)]
    if isTable then
      if !append then changeVar name fun v => { v with value := some (.table []) }
      eachOf (fun (i : Option Text × Text) => assignEntry name (i.1.getD []) i.2) items.flatten
    else
      let start := match ((← getThe State).var? name).bind Var.value with
        | some (.list elements) =>
          if append then ((elements.getLast?.map Prod.fst).map (· + 1)).getD 0 else 0
        | some (.text _) => if append then 1 else 0
        | _ => 0
      if !append then changeVar name fun v => { v with value := some (.list []) }
      fill name start items.flatten
where
  /-- Put elements into an array one after the other. -/
  fill (name : Text) (i : Nat) : List (Option Text × Text) → Sh Unit
    | [] => pure ()
    | (index, t) :: rest => do
      let i ← match index with
        | some index => do pure (← calculate index).toNat
        | none => pure i
      assignElement name i t
      fill name (i + 1) rest

end ComponentFile.Shell
