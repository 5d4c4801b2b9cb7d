import ComponentFile.Shell.Glob
import ComponentFile.Tools.Launching

/-!
# Walking through directories

A walk visits a file and, if that is a directory, everything below it.  A question is asked about
everything that is visited, and some questions do something when they are asked.

## Main definitions

* `Walk.Question` : what is asked about a file.
* `Walk.question?` : the question that words ask.
* `Walk.ask`, `Walk.visit` : asking it about a file, and about everything below one.
* `Tools.find` : the tool that walks.
-/

namespace ComponentFile

open Text Tool Tools

namespace Walk

/-- A number to compare with: less, equal or greater. -/
structure Bound where
  order : Ordering
  number : Nat

/-- Whether a number compares with the number of a bound as it asks for. -/
def Bound.holds (b : Bound) (n : Nat) : Bool :=
  compare n b.number == b.order

/-- Which of the bits of a mode are asked for: they are all there are, they are all there, or one of
them is. -/
inductive BitTest where
  | exactly
  | all
  | any

/-- What is asked about a file. -/
inductive Question where
  | constant (b : Bool)
  | name (folded : Bool) (pattern : Shell.Glob)
  | path (folded : Bool) (pattern : Shell.Glob)
  | kind (letters : Text)
  | empty
  | size (bound : Bound) (unit : Nat)
  | age (bound : Bound)
  | mode (test : BitTest) (bits : Nat)
  | program
  | print (stop : Char)
  | format (t : Text)
  | start (inside : Bool) (command : List Text)
  | gather (number : Nat) (command : List Text)
  | delete
  | prune
  | quit
  | not (q : Question)
  | both (a b : Question)
  | either (a b : Question)
  | second (a b : Question)

namespace Question

/-- Whether a question does something when it is asked, so that the path need not be printed. -/
def acts : Question → Bool
  | print _ => true
  | format _ => true
  | start _ _ => true
  | gather _ _ => true
  | delete => true
  | not q => q.acts
  | both a b => a.acts || b.acts
  | either a b => a.acts || b.acts
  | second a b => a.acts || b.acts
  | _ => false

/-- Whether files are taken away, so that what is in a directory comes before it. -/
def deletes : Question → Bool
  | delete => true
  | not q => q.deletes
  | both a b => a.deletes || b.deletes
  | either a b => a.deletes || b.deletes
  | second a b => a.deletes || b.deletes
  | _ => false

/-- The commands for which files are gathered, with their numbers. -/
def gathers : Question → List (Nat × List Text)
  | gather n command => [(n, command)]
  | not q => q.gathers
  | both a b => a.gathers ++ b.gathers
  | either a b => a.gathers ++ b.gathers
  | second a b => a.gathers ++ b.gathers
  | _ => []

end Question

/-! ### Reading questions -/

/-- The characters of a pattern.  A character behind a backslash stands for itself. -/
def markedChars : Text → List Shell.MarkedChar
  | '\\' :: c :: t => (c, true) :: markedChars t
  | c :: t => (c, false) :: markedChars t
  | [] => []

/-- The pattern that a text is. -/
def glob (t : Text) : Shell.Glob :=
  Shell.Glob.ofMarked { dialect := .plain } (markedChars t)

/-- The bound that a text is: a number, with a sign for more or for less. -/
def bound? (t : Text) : Option Bound :=
  match t with
  | '+' :: u => (nat? u).map fun n => ⟨.gt, n⟩
  | '-' :: u => (nat? u).map fun n => ⟨.lt, n⟩
  | u => (nat? u).map fun n => ⟨.eq, n⟩

/-- The size that a text is: a bound in some unit, which is a block unless a letter says so. -/
def size? (t : Text) : Option Question :=
  let unit : Option Nat := match t.getLast? with
    | some 'c' => some 1
    | some 'w' => some 2
    | some 'b' => some 512
    | some 'k' => some 1024
    | some 'M' => some 1048576
    | some 'G' => some 1073741824
    | _ => none
  let digits := if unit.isSome then t.dropLast else t
  (bound? digits).map fun b => .size b (unit.getD 512)

/-- The mode that a text asks for. -/
def mode? (t : Text) : Option Question :=
  match t with
  | '-' :: u => (natIn? 8 u).map (.mode .all)
  | '/' :: u => (natIn? 8 u).map (.mode .any)
  | u => (natIn? 8 u).map (.mode .exactly)

/-- A text between the marks for words. -/
def wordQuoted (t : Text) : Text :=
  '\x60' :: t ++ ['\'']

/-- The words of a command up to the one that ends it, whether files are gathered for it, and the
words behind it. -/
def command? (done : List Text) : List Text → Option (List Text × Bool × List Text)
  | [] => none
  | w :: rest =>
    if w = [';'] then some (done.reverse, false, rest)
    else if w = ['+'] && done.head? = some "\x7b\x7d".toList then
      some ((done.drop 1).reverse, true, rest)
    else command? (w :: done) rest

/-- The questions of one word. -/
def plainQuestion? (w : String) : Option Question :=
  match w with
  | "-true" => some (.constant true)
  | "-false" => some (.constant false)
  | "-print" => some (.print '\n')
  | "-print0" => some (.print '\x00')
  | "-empty" => some .empty
  | "-executable" => some .program
  | "-readable" => some (.constant true)
  | "-writable" => some (.constant true)
  | "-delete" => some .delete
  | "-prune" => some .prune
  | "-quit" => some .quit
  | "-depth" => some (.constant true)
  | "-xdev" => some (.constant true)
  | "-mount" => some (.constant true)
  | "-noleaf" => some (.constant true)
  | "-daystart" => some (.constant true)
  | "-follow" => some (.constant true)
  | _ => none

/-- What a word asks with the word behind it, or why that makes no sense; nothing if the word does
not take another one. -/
def valuedQuestion? (w : String) (value : Text) : Option (Except Text Question) :=
  let invalid (q : Option Question) : Except Text Question :=
    match q with
    | some q => .ok q
    | none => .error ("invalid argument ".toList ++ wordQuoted value ++ " to ".toList ++
        wordQuoted w.toList)
  match w with
  | "-name" => some (.ok (.name false (glob value)))
  | "-iname" => some (.ok (.name true (glob (lower value))))
  | "-path" => some (.ok (.path false (glob value)))
  | "-wholename" => some (.ok (.path false (glob value)))
  | "-ipath" => some (.ok (.path true (glob (lower value))))
  | "-type" =>
    let letters := value.filter (· != ',')
    match letters.find? fun c => !"bcdpflsD".toList.any (· == c) with
    | none => some (.ok (.kind letters))
    | some c => some (.error ("Unknown argument to -type: ".toList ++ [c]))
  | "-size" =>
    match size? value with
    | some q => some (.ok q)
    | none => some (.error ("invalid -size type ".toList ++ wordQuoted (value.reverse.take 1)))
  | "-perm" =>
    match mode? value with
    | some q => some (.ok q)
    | none => some (.error ("invalid mode ".toList ++ quotedPlain value))
  | "-mtime" => some (invalid ((bound? value).map .age))
  | "-mmin" => some (invalid ((bound? value).map .age))
  | "-atime" => some (invalid ((bound? value).map .age))
  | "-amin" => some (invalid ((bound? value).map .age))
  | "-ctime" => some (invalid ((bound? value).map .age))
  | "-cmin" => some (invalid ((bound? value).map .age))
  | "-user" => some (.ok (.constant (value = "root".toList || value = ['0'])))
  | "-group" => some (.ok (.constant (value = "root".toList || value = ['0'])))
  | "-newer" => some (.ok (.constant false))
  | "-printf" => some (.ok (.format value))
  | "-maxdepth" => some (depth value)
  | "-mindepth" => some (depth value)
  | _ => none
where
  /-- The question that a depth is, which is asked by the walk and not here. -/
  depth (value : Text) : Except Text Question :=
    match nat? value with
    | some _ => .ok (.constant true)
    | none => .error ("Expected a positive decimal integer argument to ".toList ++ w.toList ++
        ", but got ".toList ++ quotedPlain value)

/-- What the word at the front of some words asks, and the words behind it. -/
def primary (w : Text) (rest : List Text) : Except Text (Question × List Text) :=
  let missing := "missing argument to ".toList ++ wordQuoted w
  if w = "-exec".toList || w = "-execdir".toList then
    match command? [] rest with
    | none => .error missing
    | some ([], _, _) => .error missing
    | some (command, true, behind) => .ok (.gather rest.length command, behind)
    | some (command, false, behind) => .ok (.start (w.length > 5) command, behind)
  else
    match plainQuestion? (String.ofList w) with
    | some q => .ok (q, rest)
    | none =>
      match valuedQuestion? (String.ofList w) (rest.head?.getD []) with
      | some q =>
        if rest.isEmpty then .error missing else q.map fun q => (q, rest.drop 1)
      | none =>
        if w.head? = some '-' then .error ("unknown predicate ".toList ++ wordQuoted w)
        else .error ("paths must precede expression: ".toList ++ wordQuoted w)

/-- The operators between questions, those that bind least first. -/
def operators : List (List String × (Question → Question → Question)) :=
  [([","], .second), (["-o", "-or"], .either), (["-a", "-and"], .both)]

/-- Whether a word stands between questions. -/
def isOperator (w : Text) : Bool :=
  operators.any fun o => o.1.any fun name => name.toList == w

/-- The message that something has to follow a word. -/
def expected (w : Text) : Text :=
  "expected an expression after ".toList ++ quotedPlain w

/-- Whether a question may follow without an operator. -/
def beginsQuestion (w : Text) : Bool :=
  !([")", ",", "-o", "-or"].any fun o => o.toList == w)

mutual

/-- The question of a level at the front of words, and the words behind it. -/
def expression : Nat → Nat → List Text → Except Text (Question × List Text)
  | 0, _, _ => .error "invalid expression".toList
  | fuel + 1, level, ws =>
    match operators[level]? with
    | some _ => do
      let (a, rest) ← expression fuel (level + 1) ws
      chain fuel level a rest
    | none =>
      match ws with
      | [] => .error "invalid expression".toList
      | w :: rest =>
        if isOperator w then
          .error ("invalid expression; you have used a binary operator ".toList ++ quotedPlain w ++
            " with nothing before it.".toList)
        else if w = ['!'] || w = "-not".toList then do
          if rest.isEmpty then throw (expected w)
          let (q, rest) ← expression fuel level rest
          return (.not q, rest)
        else if w = ['('] then do
          if rest.head? = some [')'] then
            throw "invalid expression; empty parentheses are not allowed.".toList
          let (q, rest) ← expression fuel 0 rest
          match rest with
          | [')'] :: rest => return (q, rest)
          | _ =>
            throw ("invalid expression; I was expecting to find a ')' somewhere but did not " ++
              "see one.").toList
        else if w = [')'] then
          .error "invalid expression; you have too many ')'".toList
        else primary w rest

/-- Questions of one level behind a first one, and the words behind them. -/
def chain : Nat → Nat → Question → List Text → Except Text (Question × List Text)
  | 0, _, a, ws => .ok (a, ws)
  | fuel + 1, level, a, ws =>
    match operators[level]?, ws with
    | some (names, join), w :: rest =>
      let next (ws : List Text) : Except Text (Question × List Text) := do
        let (b, rest) ← expression fuel (level + 1) ws
        chain fuel level (join a b) rest
      if names.any fun o => o.toList == w then
        if rest.isEmpty then .error (expected w) else next rest
      else if level = 2 && beginsQuestion w then next ws
      else .ok (a, ws)
    | _, _ => .ok (a, ws)

end

/-- The question that words ask, or why they make no sense. -/
def question? (ws : List Text) : Except Text Question := do
  if ws.isEmpty then return .print '\n'
  let (q, rest) ← expression (8 * ws.length + 8) 0 ws
  if !rest.isEmpty then throw "you have too many ')'".toList
  return if q.acts then q else .both q (.print '\n')

/-! ### Asking -/

/-- What is known about a walk: the code to end with, whether what is below must not be visited,
whether the walk is over, and the files that were gathered in reverse. -/
structure Progress where
  code : Nat := 0
  pruned : Bool := false
  stopped : Bool := false
  gathered : List (Nat × Text) := []

/-- What is done during a walk. -/
abbrev Walker := StateT Progress Tool

/-- What is visited: how it is written, the path the walk began with, its place, what it is, and how
deep below the beginning. -/
structure Visit where
  shown : Text
  base : Text
  place : Place
  entry : Entry
  depth : Nat

/-- The bits of the mode of a file. -/
def modeBits : Entry → Nat
  | .file _ false => 420
  | _ => 493

/-- The number of octets in a file. -/
def sizeOf : Entry → Nat
  | .file bytes _ => bytes.length
  | .directory => 4096

/-- The character for what a file is. -/
def kindOf : Entry → Char
  | .file _ _ => 'f'
  | .directory => 'd'

/-- The part of a path below the one that a walk began with. -/
def Visit.below (v : Visit) : Text :=
  (v.shown.drop v.base.length).dropWhile (· == '/')

/-- A text with what directives in a format stand for. -/
def formatted (v : Visit) : Text → Text
  | '%' :: c :: t =>
    (match c with
      | 'p' => v.shown
      | 'f' => lastPart v.shown
      | 'h' => if v.shown.any (· == '/') then outerPart v.shown else ['.']
      | 'P' => v.below
      | 'H' => v.base
      | 's' => ofNat (sizeOf v.entry)
      | 'y' => [kindOf v.entry]
      | 'Y' => [kindOf v.entry]
      | 'd' => ofNat v.depth
      | 'm' => Nat.toDigits 8 (modeBits v.entry)
      | 'u' => "root".toList
      | 'g' => "root".toList
      | '%' => ['%']
      | c => ['%', c]) ++ formatted v t
  | '\\' :: c :: t =>
    (match c with
      | 'n' => ['\n']
      | 't' => ['\t']
      | '0' => ['\x00']
      | 'r' => ['\r']
      | '\\' => ['\\']
      | c => ['\\', c]) ++ formatted v t
  | c :: t => c :: formatted v t
  | [] => []

/-- Run a command for files, and say whether it succeeds. -/
def succeeds (launch : Launcher) (place : Option Place) (command : List Text) : Tool Bool := do
  let job ← read
  match command with
  | [] => return false
  | name :: arguments =>
    let inner := { job with arguments := arguments, place := place.getD job.place }
    match ← start launch name inner with
    | .ended status => return status = .code 0
    | .refused fault =>
      complain (about (quotedPlain name) fault)
      return false

/-- Take a file away, or a directory in which there is nothing. -/
def remove (v : Visit) : Walker Bool := do
  let tree ← (Tool.tree : Tool FileTree)
  if v.entry = .directory && !(tree.namesIn v.place).isEmpty then
    complain ("cannot delete ".toList ++ about (quotedPlain v.shown) .notEmpty)
    modify fun p => { p with code := 1 }
    return false
  else
    modifyThe World fun w => { w with tree := w.tree.erase v.place }
    return true

/-- Ask a question about a file. -/
def ask (launch : Launcher) (v : Visit) : Question → Walker Bool
  | .constant b => return b
  | .name folded pattern =>
    let name := lastPart (withoutSlashes v.shown)
    return pattern.isMatch (if folded then lower name else name)
  | .path folded pattern => return pattern.isMatch (if folded then lower v.shown else v.shown)
  | .kind letters => return letters.any (· == kindOf v.entry)
  | .empty => do
    match v.entry with
    | .file bytes _ => return bytes.isEmpty
    | .directory => return ((← (Tool.tree : Tool FileTree)).namesIn v.place).isEmpty
  | .size bound unit => return bound.holds ((sizeOf v.entry + unit - 1) / unit)
  | .age bound => return bound.holds 0
  | .mode test bits =>
    let mode := modeBits v.entry
    return match test with
      | .exactly => mode = bits
      | .all => mode &&& bits = bits
      | .any => bits = 0 || mode &&& bits != 0
  | .program => return modeBits v.entry = 493
  | .print stop => do
    say (v.shown ++ [stop])
    return true
  | .format t => do
    say (formatted v t)
    return true
  | .start inside command => do
    let shown := if inside then '.' :: '/' :: lastPart v.shown else v.shown
    let place := if inside then some v.place.dropLast else none
    let marker := "\x7b\x7d".toList
    succeeds launch place (command.map fun w => Xargs.replaced marker shown (w.length + 1) w)
  | .gather number _ => do
    modify fun p => { p with gathered := (number, v.shown) :: p.gathered }
    return true
  | .delete => if v.shown = ['.'] then return true else remove v
  | .prune => do
    modify fun p => { p with pruned := true }
    return true
  | .quit => do
    modify fun p => { p with stopped := true }
    return true
  | .not q => do
    let b ← ask launch v q
    return !b
  | .both a b => do
    let x ← ask launch v a
    if x && !(← get).stopped then ask launch v b else return false
  | .either a b => do
    let x ← ask launch v a
    if x || (← get).stopped then return true else ask launch v b
  | .second a b => do
    let _ ← ask launch v a
    if (← get).stopped then return false else ask launch v b

/-! ### Walking -/

/-- How a walk goes: the depths of what is asked about, and whether what is in a directory comes
before it. -/
structure Route where
  minDepth : Nat
  maxDepth : Nat
  depthFirst : Bool

/-- The greatest depth of any file. -/
def greatestDepth : Nat := 2048

/-- The route that words ask for. -/
def routeOf (ws : List Text) (q : Question) : Route :=
  let depthBehind (name : String) : Option Nat :=
    ((ws.zip (ws.drop 1)).reverse.find? fun p => p.1 == name.toList).bind fun p => nat? p.2
  ⟨(depthBehind "-mindepth").getD 0, (depthBehind "-maxdepth").getD greatestDepth,
    q.deletes || ws.any fun w => w = "-depth".toList || w = "-d".toList⟩

/-- Visit a file and everything below it. -/
def visit (launch : Launcher) (route : Route) (q : Question) (base : Text) :
    Nat → Nat → Text → Place → Walker Unit
  | 0, _, _, _ => return
  | fuel + 1, depth, shown, place => do
    let tree ← (Tool.tree : Tool FileTree)
    match tree.entry? place with
    | none => return
    | some entry =>
      let asking : Walker Unit := do
        if route.minDepth ≤ depth && !(← get).stopped then
          let _ ← ask launch ⟨shown, base, place, entry, depth⟩ q
      modify fun p => { p with pruned := false }
      if !route.depthFirst then asking
      let pruned := (← get).pruned
      if entry = .directory && depth < route.maxDepth && !pruned then
        let names := (tree.namesIn place).mergeSort fun a b => Text.le a.text b.text
        names.forM fun name => do
          if !(← get).stopped then
            let front := if shown.getLast? = some '/' then shown else shown ++ ['/']
            visit launch route q base fuel (depth + 1) (front ++ octets name.text)
              (place ++ [name])
      if route.depthFirst then asking

/-- Visit files and everything below them, and run the commands for what was gathered. -/
def walk (launch : Launcher) (route : Route) (q : Question) (bases : List Text) :
    Walker Unit := do
  bases.forM fun base => do
    if !(← get).stopped then
      let job ← (read : Tool Job)
      let tree ← (Tool.tree : Tool FileTree)
      match tree.lookup job.place (pathOf base), tree.follow job.place (pathOf base) with
      | .ok _, .ok place => visit launch route q base greatestDepth 0 base place
      | .error fault, _ =>
        complain (about (quotedPlain base) fault)
        modify fun p => { p with code := 1 }
      | _, .error _ => pure ()
  let gathered := (← get).gathered.reverse
  q.gathers.forM fun (number, command) => do
    let files := gathered.filterMap fun g => if g.1 = number then some g.2 else none
    if !files.isEmpty then
      let isGood ← (succeeds launch none (command ++ files) : Tool Bool)
      if !isGood then modify fun p => { p with code := 1 }

/-- Whether a word begins what is asked, behind the paths. -/
def beginsExpression (w : Text) : Bool :=
  w = ['('] || w = ['!'] || (w.head? = some '-' && w.length > 1)

end Walk

/-- Walk through directories. -/
def Tools.find (launch : Launcher) : Tool Nat := do
  let arguments := (← read).arguments.dropWhile fun w =>
    ["-H", "-L", "-P"].any fun o => o.toList == w
  let bases := arguments.takeWhile fun w => !Walk.beginsExpression w
  let ws := arguments.drop bases.length
  match Walk.question? ws with
  | .error message => fail message 1
  | .ok q =>
    let bases := if bases.isEmpty then [['.']] else bases
    let (_, progress) ← (Walk.walk launch (Walk.routeOf ws q) q bases).run {}
    return progress.code

end ComponentFile
