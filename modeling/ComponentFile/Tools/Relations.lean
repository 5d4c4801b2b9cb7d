import ComponentFile.Tools.Copy

/-!
# Tools for relations

## Main definitions

* `Join.merged` : the lines of two sorted lists whose keys agree.
* `Precedence.sorted` : names in an order in which none comes before what it follows.
* `Tools.join`, `Tools.tsort` : the tools that do this.
-/

namespace ComponentFile

open Text Tool Tools

/-! ### Lines with the same key -/

namespace Join

/-- A line as fields, with its key. -/
structure Record where
  key : Text
  fields : List Text

/-- Where the fields of a line that is written come from: the key, or a field of one of the
files. -/
inductive Source where
  | key
  | field (file number : Nat)

/-- How lines are joined. -/
structure Plan where
  separator : Option Char
  ignoresCase : Bool
  places : Nat × Nat
  alone : List Nat
  pairs : Bool
  sources : Option (List Source)
  filler : Text

/-- The fields of a line. -/
def Plan.fieldsOf (p : Plan) (line : Text) : List Text :=
  match p.separator with
  | some c => line.splitOn c
  | none => (line.splitOnP isGap).filter fun w => !w.isEmpty

/-- A line as a record whose key is one of its fields. -/
def Plan.record (p : Plan) (place : Nat) (line : Text) : Record :=
  let fields := p.fieldsOf line
  ⟨(fields[place - 1]?).getD [], fields⟩

/-- The order of keys. -/
def Plan.le (p : Plan) (a b : Text) : Bool :=
  if p.ignoresCase then Text.le (a.map Char.toUpper) (b.map Char.toUpper) else Text.le a b

/-- The character between fields that are written. -/
def Plan.mark (p : Plan) : Char :=
  p.separator.getD ' '

/-- A field that is written. -/
def Plan.filled (p : Plan) (t : Option Text) : Text :=
  match t with
  | some t => if t.isEmpty then p.filler else t
  | none => p.filler

/-- The fields of a record besides its key. -/
def others (place : Nat) (r : Record) : List Text :=
  r.fields.take (place - 1) ++ r.fields.drop place

/-- A line for two records, of which one may be missing. -/
def Plan.line (p : Plan) (left right : Option Record) : Text :=
  let key := ((left.orElse fun _ => right).map Record.key).getD []
  let fields := match p.sources with
    | some sources => sources.map fun
      | .key => p.filled (some key)
      | .field 1 n => p.filled (left.bind fun r => r.fields[n - 1]?)
      | .field _ n => p.filled (right.bind fun r => r.fields[n - 1]?)
    | none =>
      (p.filled (some key) :: ((left.map (others p.places.1)).getD [] ++
        (right.map (others p.places.2)).getD []).map fun t => p.filled (some t))
  [p.mark].intercalate fields ++ ['\n']

/-- The lines for two sorted lists of records. -/
def merged (p : Plan) : Nat → List Record → List Record → Text
  | 0, _, _ => []
  | _ + 1, [], rights =>
    if p.alone.any (· == 2) then rights.flatMap fun r => p.line none (some r) else []
  | _ + 1, lefts, [] =>
    if p.alone.any (· == 1) then lefts.flatMap fun r => p.line (some r) none else []
  | fuel + 1, l :: lefts, r :: rights =>
    if !p.le l.key r.key then
      (if p.alone.any (· == 2) then p.line none (some r) else []) ++
        merged p fuel (l :: lefts) rights
    else if !p.le r.key l.key then
      (if p.alone.any (· == 1) then p.line (some l) none else []) ++
        merged p fuel lefts (r :: rights)
    else
      let agrees (other : Record) : Bool := p.le other.key l.key && p.le l.key other.key
      let ls := l :: lefts.takeWhile agrees
      let rs := r :: rights.takeWhile agrees
      (if p.pairs then ls.flatMap fun a => rs.flatMap fun b => p.line (some a) (some b) else []) ++
        merged p fuel (lefts.dropWhile agrees) (rights.dropWhile agrees)

/-- The sources of fields that a list names. -/
def sources? (t : Text) : Option (List Source) :=
  ((t.splitOnP fun c => c == ',' || isGap c).filter fun w => !w.isEmpty).mapM fun w =>
    match w with
    | ['0'] => some .key
    | '1' :: '.' :: digits => (nat? digits).map (.field 1)
    | '2' :: '.' :: digits => (nat? digits).map (.field 2)
    | _ => none

/-- The sources of all fields that first lines have. -/
def allSources (p : Plan) (left right : List Record) : List Source :=
  let numbers (place : Nat) (rs : List Record) : List Nat :=
    ((List.range ((rs.head?.map fun r => r.fields.length).getD 0)).map (· + 1)).filter (· != place)
  .key :: (numbers p.places.1 left).map (.field 1) ++ (numbers p.places.2 right).map (.field 2)

end Join

/-- Join the lines of two sorted files whose keys agree. -/
def Tools.join : Tool Nat :=
  withOptions ⟨"a:e:ij:o:t:v:1:2:z", [("ignore-case", 'i', .never), ("check-order", 'c', .never),
    ("nocheck-order", 'n', .never), ("header", 'H', .never)], true⟩ 1 fun options operands => do
    match operands with
    | [] => missingOperand
    | [one] => misuse ("missing operand after ".toList ++ quotedPlain one) 1
    | _ :: _ :: extra :: _ => extraOperand extra
    | [a, b] =>
      let number (letter : Char) : Option Nat := (valueOf? options letter).bind nat?
      let place (letter : Char) : Nat := ((number letter).orElse fun _ => number 'j').getD 1
      let files (letter : Char) : List Nat :=
        options.filterMap fun o => if o.1 = letter then nat? o.2 else none
      let separator : Option Char := (valueOf? options 't').map fun t =>
        if t = "\\0".toList then '\x00' else t.head?.getD '\n'
      let isAutomatic := valueOf? options 'o' = some "auto".toList
      let wanted := if isAutomatic then none else valueOf? options 'o'
      let first : Join.Plan :=
        { separator, ignoresCase := given options 'i', places := (place '1', place '2'),
          alone := files 'a' ++ files 'v', pairs := (files 'v').isEmpty,
          sources := wanted.bind Join.sources?, filler := (valueOf? options 'e').getD [] }
      match wanted.filter fun t => (Join.sources? t).isNone with
      | some t => fail ("invalid file number in field spec: ".toList ++ quotedPlain t) 1
      | none =>
        match ← operand a, ← operand b with
        | .error fault, _ => fail (about a fault) 1
        | _, .error fault => fail (about b fault) 1
        | .ok s, .ok t =>
          let left := (splitLines s).map (first.record first.places.1)
          let right := (splitLines t).map (first.record first.places.2)
          let plan := if isAutomatic then
              { first with sources := some (Join.allSources first left right) } else first
          say (Join.merged plan (left.length + right.length + 1) left right)
          return 0

/-! ### Names that follow one another -/

namespace Precedence

/-- A name, how many of the names before it are still to come, and the names that follow it, the
last one first. -/
structure Node where
  name : Text
  before : Nat
  behind : List Text

/-- Change the node of a name, which is made if it is not there. -/
def change (f : Node → Node) (name : Text) (nodes : List Node) : List Node :=
  if nodes.any fun n => n.name == name then
    nodes.map fun n => if n.name == name then f n else n
  else nodes ++ [f ⟨name, 0, []⟩]

/-- The nodes of pairs, in each of which the second name follows the first one; a pair of one name
says that there is such a name. -/
def nodesOf : List Node → List Text → Option (List Node)
  | nodes, [] => some nodes
  | _, [_] => none
  | nodes, a :: b :: rest =>
    if a = b then nodesOf (change id a nodes) rest
    else
      let nodes := change (fun n => { n with behind := b :: n.behind }) a nodes
      nodesOf (change (fun n => { n with before := n.before + 1 }) b nodes) rest

/-- Take the names of a row one after the other, each followed at the end of the row by those that
only waited for it; and the nodes that are left. -/
def sorted : Nat → List Node → List Text → List Text → List Text × List Node
  | 0, nodes, done, _ => (done.reverse, nodes)
  | _ + 1, nodes, done, [] => (done.reverse, nodes)
  | fuel + 1, nodes, done, name :: row =>
    let behind := ((nodes.find? fun n => n.name == name).map Node.behind).getD []
    let (nodes, ready) := behind.foldl (fun (found : List Node × List Text) b =>
      let nodes := change (fun n => { n with before := n.before - 1 }) b found.1
      let isReady := nodes.any fun n => n.name == b && n.before = 0
      (nodes, if isReady then found.2 ++ [b] else found.2)) (nodes, [])
    sorted fuel (nodes.filter fun n => n.name != name) (name :: done) (row ++ ready)

/-- The names that wait for one another in a circle, each behind the one that it follows, found by
going back from a name. -/
def circle (nodes : List Node) : Nat → List Text → Text → List Text
  | 0, done, _ => done
  | fuel + 1, done, name =>
    if done.any (· == name) then name :: done.takeWhile (· != name)
    else
      match nodes.find? fun n => n.behind.any (· == name) with
      | some n => circle nodes fuel (name :: done) n.name
      | none => name :: done

/-- Let the first name of a circle not wait for the last one. -/
def cut (names : List Text) (nodes : List Node) : List Node :=
  match names.head?, names.getLast? with
  | some first, some last =>
    let nodes := change (fun n => { n with behind := n.behind.erase first }) last nodes
    change (fun n => { n with before := n.before - 1 }) first nodes
  | _, _ => nodes

/-- Print names in an order in which none comes before what it follows, but for circles that are cut
when nothing else is left. -/
def tell (file : Text) : Nat → Nat → List Node → Tool Nat
  | 0, code, _ => return code
  | fuel + 1, code, nodes => do
    let first := (nodes.filter fun n => n.before = 0).map (·.name)
    let (names, left) := sorted (nodes.length + 1) nodes [] first
    say (joinLines names)
    match left.head? with
    | none => return code
    | some n =>
      let names := circle left (left.length + 1) [] n.name
      complain (file ++ ": input contains a loop:".toList)
      names.forM complain
      tell file fuel 1 (cut names left)

end Precedence

/-- Print names in an order in which none comes before what it follows. -/
def Tools.tsort : Tool Nat :=
  withOptions ⟨"", [], true⟩ 1 fun _ operands => do
    match operands with
    | _ :: extra :: _ => extraOperand extra
    | operands =>
      let file := operands.head?.getD ['-']
      match ← operand file with
      | .error fault => fail (about file fault) 1
      | .ok t =>
        match Precedence.nodesOf [] (words t) with
        | none => fail (file ++ ": input contains an odd number of tokens".toList) 1
        | some nodes =>
          let nodes := nodes.mergeSort fun a b => Text.le a.name b.name
          Precedence.tell file (nodes.length + 1) 0 nodes

end ComponentFile
