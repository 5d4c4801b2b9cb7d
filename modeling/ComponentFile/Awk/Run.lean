import ComponentFile.Awk.Reader
import ComponentFile.Awk.Value
import ComponentFile.Process.Options
import ComponentFile.Regex.Reader
import ComponentFile.Regex.Search

/-!
# Running programs of patterns and actions

## Main definitions

* `Awk.State`, `Awk.Run` : the state of a run, and what changes it.
* `Awk.evaluate`, `Awk.execute` : one level of expressions and of statements.
* `Awk.machine` : all levels.
* `Tools.awk` : the tool that runs programs.

What is nested is run by functions that are passed along, and a bound on their number ends a
function that calls itself too often.
-/

namespace ComponentFile

namespace Awk

open Text

/-! ### State -/

/-- What a name stands for: a value, an array, or nothing yet, which may become the array with a
number. -/
inductive Binding where
  | value (v : Value)
  | table (id : Nat)
  | open (id : Option Nat)

/-- A command or a file that lines are read from, with what is left of it. -/
structure Source where
  name : Text
  rest : Text

/-- A file or a command that output goes to: the stream of a file, or what has been written. -/
structure Sink where
  name : Text
  isCommand : Bool
  stream : Nat

/-- The state of a run. -/
structure State where
  program : Program
  globals : Std.HashMap Text Binding
  frames : List (List (Text × Binding))
  tables : Std.HashMap Nat Table
  nextTable : Nat
  record : Text
  fields : Option (Array Text)
  arguments : List Text
  current : Option Text
  readAny : Bool
  sources : List Source
  sinks : List Sink
  /-- What has been printed and not yet been written, in pieces with the last one first. -/
  unwritten : List Text
  ranges : List Nat
  code : Nat

/-- Why something stops. -/
inductive Stopped where
  | next
  | leave
  | goOn
  | return (v : Value)
  | exit
  | fault (message : Text)

/-- Something that a run does. -/
abbrev Run := ExceptT Stopped (StateT State (ReaderT Job Act))

namespace Run

/-- Do what a program does. -/
def tool {α : Type} (t : Tool α) : Run α :=
  liftM (m := StateT State (ReaderT Job Act)) (liftM t)

/-- Write what has been printed. -/
def flush : Run Unit := do
  let pieces := (← getThe State).unwritten
  modifyThe State fun s => { s with unwritten := [] }
  tool (Tool.say pieces.reverse.flatten)

/-- Print a text. -/
def print (t : Text) : Run Unit :=
  modifyThe State fun s => { s with unwritten := t :: s.unwritten }

/-- Stop with a message. -/
def fault {α : Type} (message : Text) : Run α :=
  throw (.fault message)

/-! ### Variables -/

/-- What a name stands for. -/
def binding (name : Text) : Run Binding := do
  let s ← getThe State
  match s.frames with
  | frame :: _ =>
    match frame.lookup name with
    | some b => return b
    | none => return (s.globals[name]?).getD (.open none)
  | [] => return (s.globals[name]?).getD (.open none)

/-- Let a name stand for something. -/
def bind (name : Text) (b : Binding) : Run Unit :=
  modifyThe State fun s =>
    match s.frames with
    | frame :: rest =>
      if (frame.lookup name).isSome then
        { s with frames := (frame.map fun e => if e.1 = name then (name, b) else e) :: rest }
      else { s with globals := s.globals.insert name b }
    | [] => { s with globals := s.globals.insert name b }

/-- A new array. -/
def newTable : Run Nat :=
  modifyGetThe State fun s =>
    (s.nextTable, { s with
      tables := s.tables.insert s.nextTable .empty, nextTable := s.nextTable + 1 })

/-- The number of the array that a name stands for. -/
def tableId (name : Text) : Run Nat := do
  match ← binding name with
  | .table id => return id
  | .open (some id) =>
    bind name (.table id)
    return id
  | _ =>
    let id ← newTable
    bind name (.table id)
    return id

/-- The array with a number. -/
def table (id : Nat) : Run Table := do
  return ((← getThe State).tables[id]?).getD .empty

/-- Put an array in the place of the one with a number. -/
def setTable (id : Nat) (a : Table) : Run Unit :=
  modifyThe State fun s => { s with tables := s.tables.insert id a }

/-- The value of a global variable. -/
def global (name : String) : Run Value := do
  match (← getThe State).globals[name.toList]? with
  | some (.value v) => return v
  | _ => return .unset

/-- Give a global variable a value. -/
def setGlobal (name : String) (v : Value) : Run Unit :=
  modifyThe State fun s => { s with globals := s.globals.insert name.toList (.value v) }

/-- The text of a value. -/
def text (v : Value) : Run Text := do
  match v with
  | .number _ => return v.toText ((← global "CONVFMT").toText [])
  | _ => return v.toText []

/-! ### Records -/

/-- The pattern that a text is. -/
def pattern (t : Text) : Run Pattern := do
  match regexOf t with
  | .ok r => return ⟨r, false, false⟩
  | .error message => Run.fault message

/-- The parts of a text between matches of a pattern that are not empty, put in front of those that
are known in reverse. -/
def splitBy (f : Pattern) (done : List Text) (start : Cursor) : Nat → Cursor → List Text
  | 0, _ => (start.rest :: done).reverse
  | fuel + 1, p =>
    match f.find? p false with
    | none => (start.rest :: done).reverse
    | some found =>
      if found.stop.index = found.start then
        match found.stop.rest with
        | [] => (start.rest :: done).reverse
        | _ => splitBy f done start fuel found.stop.next
      else splitBy f (start.upTo found.start :: done) found.stop fuel found.stop

/-- The fields of a text by a separator. -/
def fieldsBy (separator t : Text) : Run (List Text) := do
  if t.isEmpty then return []
  else
    match separator with
    | [' '] => return words t
    | [] => return t.map fun c => [c]
    | [c] =>
      if "|.*+?^$()[]\\\x7b\x7d".toList.any (· == c) && c != '|' && c != '.' && c != '$' then
        let f ← pattern (if c = '\\' then ['\\', '\\'] else [c])
        return splitBy f [] (.start t) (t.length + 2) (.start t)
      else return t.splitOn c
    | _ =>
      let f ← pattern separator
      return splitBy f [] (.start t) (t.length + 2) (.start t)

/-- The fields of the record. -/
def fields : Run (Array Text) := do
  match (← getThe State).fields with
  | some fs => return fs
  | none =>
    let separator ← text (← global "FS")
    let paragraphs := (← text (← global "RS")).isEmpty
    let record := (← getThe State).record
    let fs ← if paragraphs && separator ≠ [' '] then do
        let parts ← (lines record).mapM (fieldsBy separator)
        pure parts.flatten
      else fieldsBy separator record
    let fs := fs.toArray
    modifyThe State fun s => { s with fields := some fs }
    return fs

/-- Make a text the record. -/
def setRecord (t : Text) : Run Unit :=
  modifyThe State fun s => { s with record := t, fields := none }

/-- Make texts the fields of the record. -/
def setFields (fs : Array Text) : Run Unit := do
  let between ← text (← global "OFS")
  modifyThe State fun s =>
    { s with record := between.intercalate fs.toList, fields := some fs }

/-- The value of a field. -/
def field (n : Int) : Run Value := do
  if n < 0 then fault ("negative field index $".toList ++ ofInt n)
  else if n = 0 then return .input (← getThe State).record
  else
    match (← fields)[n.toNat - 1]? with
    | some t => return .input t
    | none => return .unset

/-- Give a field a value. -/
def setField (n : Int) (t : Text) : Run Unit := do
  if n < 0 then fault ("negative field index $".toList ++ ofInt n)
  else if n = 0 then setRecord t
  else
    let fs ← fields
    let fs := fs ++ Array.replicate (n.toNat - fs.size) []
    setFields (fs.setIfInBounds (n.toNat - 1) t)

/-- The value of a variable. -/
def get (name : Text) : Run Value := do
  if name = ['N', 'F'] then return .ofNat (← fields).size
  else
    match ← binding name with
    | .value v => return v
    | _ => return .unset

/-- Give a variable a value. -/
def set (name : Text) (v : Value) : Run Unit := do
  if name = ['N', 'F'] then
    if v.toNumber < 0.0 then fault "negative value assigned to NF".toList
    let n := (truncated v.toNumber).toNat
    let fs ← fields
    setFields ((fs ++ Array.replicate (n - fs.size) []).extract 0 n)
  else bind name (.value v)

/-! ### Input -/

/-- A record at the front of a text and the text behind it, by the separator of records. -/
def takeRecord (separator t : Text) : Run (Option (Text × Text)) := do
  match separator with
  | ['\n'] =>
    if t.isEmpty then return none
    else
      let line := t.takeWhile (· != '\n')
      return some (line, t.drop (line.length + 1))
  | [] =>
    let t := t.dropWhile (· == '\n')
    if t.isEmpty then return none
    else
      match cut? "\n\n".toList t with
      | some (record, rest) => return some (record, rest.dropWhile (· == '\n'))
      | none => return some (trimLineEnds t, [])
  | [c] =>
    if t.isEmpty then return none
    else
      let record := t.takeWhile (· != c)
      return some (record, t.drop (record.length + 1))
  | _ =>
    if t.isEmpty then return none
    else
      let f ← pattern separator
      match f.find? (.start t) false with
      | some found =>
        if found.stop.index > found.start then return some (t.take found.start, found.stop.rest)
        else return some (t, [])
      | none => return some (t, [])

/-- Make the next operand the current input; operands that are assignments are done on the way. -/
def openNext : Nat → Run Bool
  | 0 => return false
  | fuel + 1 => do
    let s ← getThe State
    match s.arguments with
    | [] =>
      if s.readAny then return false
      else
        let t ← tool Tool.input
        setGlobal "FILENAME" (.text [])
        modifyThe State fun s => { s with current := some t, readAny := true }
        return true
    | a :: rest =>
      modifyThe State fun s => { s with arguments := rest }
      match cut? ['='] a with
      | some (name, value) =>
        if isName name then
          let v := (quoted? [] (value.length + 3) (value ++ ['"'])).elim value Prod.fst
          setGlobal (String.ofList name) (.input v)
          openNext fuel
        else file a fuel
      | none => if a.isEmpty then openNext fuel else file a fuel
where
  /-- Make a file the current input. -/
  file (name : Text) (_ : Nat) : Run Bool := do
    match ← tool (Tool.operand name) with
    | .ok t =>
      setGlobal "FILENAME" (.text name)
      setGlobal "FNR" (.number 0.0)
      modifyThe State fun s => { s with current := some t, readAny := true }
      return true
    | .error fault =>
      throw (.fault ("cannot open \"".toList ++ name ++ "\" (".toList ++
        fault.description.toList ++ [')']))

/-- Take the next record of the input. -/
def nextRecord : Nat → Run (Option Text)
  | 0 => return none
  | fuel + 1 => do
    match (← getThe State).current with
    | none =>
      if ← openNext 1000 then nextRecord fuel else return none
    | some t =>
      match ← takeRecord (← text (← global "RS")) t with
      | some (record, rest) =>
        modifyThe State fun s => { s with current := some rest }
        return some record
      | none =>
        modifyThe State fun s => { s with current := none }
        nextRecord fuel

/-- Count a record. -/
def count (name : String) : Run Unit := do
  setGlobal name (.number ((← global name).toNumber + 1.0))

end Run

open Run

/-! ### Expressions -/

/-- The functions that run what is nested. -/
structure Machine where
  launch : Launcher
  expr : Expr → Run Value
  statement : Statement → Run Unit

/-- The key of an index. -/
def key (m : Machine) (index : List Expr) : Run Text := do
  let parts ← index.mapM fun e => do
    let v ← m.expr e
    match v with
    | .number x =>
      match Value.plainInteger? x with
      | some i => return ofInt i
      | none => return v.toText ((← global "CONVFMT").toText [])
    | _ => text v
  let between ← if parts.length > 1 then do text (← global "SUBSEP") else pure []
  return between.intercalate parts

/-- A place for a value: a variable, a field, or an element of the array with a number. -/
inductive Place where
  | name (n : Text)
  | field (n : Int)
  | element (id : Nat) (key : Text)
  | nowhere

/-- The place that an expression stands for. -/
def place (m : Machine) (target : Expr) : Run Place := do
  match target with
  | .name n => return .name n
  | .field e => return .field (truncated (← m.expr e).toNumber)
  | .element a index =>
    let k ← key m index
    return .element (← tableId a) k
  | .tuple [.name n] => return .name n
  | .tuple [.field e] => return .field (truncated (← m.expr e).toNumber)
  | _ => return .nowhere

/-- Put a value into a place. -/
def put (p : Place) (v : Value) : Run Unit := do
  match p with
  | .name n => Run.set n v
  | .field n => setField n (← text v)
  | .element id k => setTable id ((← table id).set k v)
  | .nowhere => return

/-- The value in a place. -/
def held (p : Place) : Run Value := do
  match p with
  | .name n => Run.get n
  | .field n => field n
  | .element id k =>
    let (v, b) := (← table id).get k
    setTable id b
    return v
  | .nowhere => return .unset

/-- Assign a value. -/
def assign (m : Machine) (target : Expr) (v : Value) : Run Unit := do
  put (← place m target) v

/-- The remainder of a division, with the sign of the dividend. -/
def remainder (x y : Float) : Float :=
  let q := x / y
  let whole := if q < 0.0 then q.ceil else q.floor
  match integer? x, integer? y with
  | some a, some b => if b = 0 then 0.0 / 0.0 else
      let r := a.tmod b
      if r < 0 then -(Float.ofNat r.natAbs) else Float.ofNat r.natAbs
  | _, _ => x - whole * y

/-- The value of an operator between two values. -/
def operate (op : Binary) (a b : Value) : Run Value := do
  let x := a.toNumber
  let y := b.toNumber
  let ordered (test : Ordering → Bool) : Run Value := do
    return .ofBool ((Value.compare ((← global "CONVFMT").toText []) a b).any test)
  match op with
  | .add => return .number (x + y)
  | .subtract => return .number (x - y)
  | .multiply => return .number (x * y)
  | .divide => return .number (x / y)
  | .remainder => return .number (remainder x y)
  | .power => return .number (x.pow y)
  | .less => ordered (· == .lt)
  | .lessEqual => ordered (· != .gt)
  | .equal => ordered (· == .eq)
  | .notEqual =>
    return .ofBool ((Value.compare ((← global "CONVFMT").toText []) a b).all (· != .eq))
  | .greater => ordered (· == .gt)
  | .greaterEqual => ordered (· != .lt)
  | .concat => return .text ((← text a) ++ (← text b))

/-- The pattern that an expression stands for. -/
def patternOf (m : Machine) (e : Expr) : Run Pattern := do
  match e with
  | .regex t => pattern t
  | .tuple [.regex t] => pattern t
  | _ => pattern (← text (← m.expr e))

/-- A replacement for a match. -/
def replacement (whole : Text) (done : Text) : Text → Text
  | [] => done.reverse
  | '\\' :: '&' :: t => replacement whole ('&' :: done) t
  | '\\' :: '\\' :: t => replacement whole ('\\' :: done) t
  | '&' :: t => replacement whole (whole.reverse ++ done) t
  | c :: t => replacement whole (c :: done) t

/-- A text with matches replaced, put behind what is known in reverse, and their number. -/
def substituteFrom (f : Pattern) (new : Text) (all : Bool) (done : List Text) (count : Nat)
    (lastStop : Option Nat) : Nat → Cursor → List Text × Nat
  | 0, p => (p.rest :: done, count)
  | fuel + 1, p =>
    match f.find? p false with
    | none => (p.rest :: done, count)
    | some found =>
      let before := p.upTo found.start
      let start := p.skip (found.start - p.index)
      let isEmpty := found.stop.index = found.start
      if isEmpty && lastStop = some found.start then
        match start.rest with
        | [] => (before :: done, count)
        | c :: _ => substituteFrom f new all ([c] :: before :: done) count none fuel start.next
      else
        let done := replacement (start.upTo found.stop.index) [] new :: before :: done
        if !all then (found.stop.rest :: done, count + 1)
        else if isEmpty then
          match found.stop.rest with
          | [] => (done, count + 1)
          | c :: _ => substituteFrom f new all ([c] :: done) (count + 1) none fuel found.stop.next
        else
          substituteFrom f new all done (count + 1) (some found.stop.index) fuel found.stop

/-- Replace matches in what an expression stands for. -/
def substitute (m : Machine) (all : Bool) (arguments : List Expr) : Run Value := do
  match arguments with
  | e :: r :: more =>
    let f ← patternOf m e
    let new ← text (← m.expr r)
    let target := more.head?.getD (.field (.number 0.0))
    let old ← text (← m.expr target)
    let (pieces, n) := substituteFrom f new all [] 0 none (old.length + 2) (.start old)
    if n > 0 then assign m target (.text pieces.reverse.flatten)
    return .ofNat n
  | _ => Run.fault "not enough arguments in call to sub".toList

/-- The place of a text in another one, counted from one. -/
def indexOf (t key : Text) : Nat :=
  match cut? key t with
  | some (before, _) => before.length + 1
  | none => 0

/-- A part of a text, from a place that is counted from one. -/
def substring (t : Text) (start : Float) (length : Option Float) : Text :=
  let first := truncated start
  let behind := t.drop (first - 1).toNat
  match length with
  | none => behind
  | some n => behind.take (truncated n + max (-first) 0).toNat

/-- The stream that output goes to; a file is opened when it is used first. -/
def outlet (kind : Outlet) (name : Text) : Run Nat := do
  let s ← getThe State
  match s.sinks.find? fun k => k.name == name && k.isCommand == (kind == .command) with
  | some k => return k.stream
  | none =>
    let job ← readThe Job
    let stream : Except Fault Nat ← match kind with
      | .command => do
        flush
        pure (.ok (← tool (liftM Act.pipe)))
      | .file => do tool (liftM (job.openPath name .writing))
      | .append => do tool (liftM (job.openPath name .appending))
    match stream with
    | .ok i =>
      modifyThe State fun s => { s with sinks := ⟨name, kind == .command, i⟩ :: s.sinks }
      return i
    | .error problem =>
      Run.fault ("cannot open \"".toList ++ name ++ "\" for output (".toList ++
        problem.description.toList ++ [')'])

/-- Close an outlet: a command is run on what has been written for it. -/
def closeSink (launch : Launcher) (k : Sink) : Run Nat := do
  if k.isCommand then
    tool (liftM (Act.turn k.stream))
    return (← tool (Tool.shell launch k.name (some k.stream) none)).number
  else return 0

/-- Close what has a name. -/
def close (launch : Launcher) (name : Text) : Run Value := do
  let s ← getThe State
  let (closing, left) := s.sinks.partition fun k => k.name == name
  let known := !closing.isEmpty || s.sources.any fun r => r.name == name
  modifyThe State fun s =>
    { s with sinks := left, sources := s.sources.filter fun r => r.name != name }
  let codes ← closing.mapM (closeSink launch)
  return .number (if known then Float.ofNat (codes.foldl max 0) else -1.0)

/-- The output of a command or the contents of a file, as far as they have not been read. -/
def source (launch : Launcher) (origin : Origin) (name : Text) : Run (Option Text) := do
  match (← getThe State).sources.find? fun r => r.name == name with
  | some r => return some r.rest
  | none =>
    match origin with
    | .command =>
      flush
      let i ← tool (liftM Act.pipe)
      let _ ← tool (Tool.shell launch name none (some i))
      return some (← tool (liftM (Act.written i)))
    | _ => return (← tool (Tool.operand name)).toOption

/-- Take a record from somewhere. -/
def getline (m : Machine) (origin : Origin) (from? : Option Expr) (target : Option Expr) :
    Run Value := do
  let put (t : Text) : Run Unit := do
    match target with
    | some e => assign m e (.input t)
    | none => setRecord t
  match from? with
  | none =>
    match ← nextRecord 1000 with
    | none => return .number 0.0
    | some t =>
      count "NR"
      count "FNR"
      put t
      return .number 1.0
  | some e =>
    let name ← text (← m.expr e)
    match ← source m.launch origin name with
    | none => return .number (-1.0)
    | some t =>
      let found ← takeRecord (← text (← global "RS")) t
      let rest := (found.map Prod.snd).getD []
      modifyThe State fun s =>
        { s with sources := ⟨name, rest⟩ :: s.sources.filter fun r => r.name != name }
      match found with
      | none => return .number 0.0
      | some (record, _) =>
        if origin == .command then count "NR"
        put record
        return .number 1.0

/-- The value of a function that every program has. -/
def builtin (m : Machine) (name : Text) (arguments : List Expr) : Run Value := do
  let value (n : Nat) : Run Value :=
    match arguments[n]? with
    | some e => m.expr e
    | none => return .unset
  let word (n : Nat) : Run Text := do text (← value n)
  let real (n : Nat) : Run Float := do return (← value n).toNumber
  match String.ofList name with
  | "length" =>
    match arguments with
    | [] => return .ofNat (← getThe State).record.length
    | [.name n] =>
      match ← binding n with
      | .table id => return .ofNat (← table id).cells.size
      | _ => return .ofNat (← word 0).length
    | _ => return .ofNat (← word 0).length
  | "substr" =>
    let t ← word 0
    let start ← real 1
    let length ← if arguments.length > 2 then do pure (some (← real 2)) else pure none
    return .text (substring t start length)
  | "index" => return .ofNat (indexOf (← word 0) (← word 1))
  | "split" =>
    let t ← word 0
    match (arguments[1]? : Option Expr) with
    | some (Expr.name a) =>
      let parts ← match (arguments[2]? : Option Expr) with
        | none => do fieldsBy (← text (← global "FS")) t
        | some (Expr.regex r) =>
          if t.isEmpty then pure [] else do
            let f ← pattern r
            pure (splitBy f [] (.start t) (t.length + 2) (.start t))
        | some e => do fieldsBy (← text (← m.expr e)) t
      let id ← tableId a
      let filled := parts.zipIdx.foldl (fun (b : Table) p =>
        b.set (ofNat (p.2 + 1)) (.input p.1)) .empty
      setTable id filled
      return .ofNat parts.length
    | _ => return .number 0.0
  | "sub" => substitute m false arguments
  | "gsub" => substitute m true arguments
  | "match" =>
    let t ← word 0
    let f ← patternOf m (arguments[1]?.getD (.text []))
    let (start, length) : Float × Float := match f.find? (.start t) false with
      | some found =>
        (Float.ofNat (found.start + 1), Float.ofNat (found.stop.index - found.start))
      | none => (0.0, -1.0)
    setGlobal "RSTART" (.number start)
    setGlobal "RLENGTH" (.number length)
    return .number start
  | "sprintf" =>
    let format ← word 0
    let vs ← (arguments.drop 1).mapM m.expr
    let conv := (← global "CONVFMT").toText []
    let (t, good) := formatted (Value.toText conv) format vs
    if good then return .text t
    else Run.fault ("not enough arguments passed to sprintf(\"".toList ++ format ++ "\")".toList)
  | "sin" => return .number (← real 0).sin
  | "cos" => return .number (← real 0).cos
  | "atan2" => return .number ((← real 0).atan2 (← real 1))
  | "exp" => return .number (← real 0).exp
  | "log" => return .number (← real 0).log
  | "sqrt" => return .number (← real 0).sqrt
  | "int" =>
    let x ← real 0
    return .number (if x < 0.0 then x.ceil + 0.0 else x.floor)
  | "rand" => return .number 0.5
  | "srand" => return .number 0.0
  | "tolower" => return .text ((← word 0).map Char.toLower)
  | "toupper" => return .text ((← word 0).map Char.toUpper)
  | "fflush" =>
    flush
    return .number 0.0
  | "system" =>
    flush
    return .ofNat (← tool (Tool.shell m.launch (← word 0) none none)).number
  | "close" => close m.launch (← word 0)
  | _ => return .number 0.0

/-- Call a function of the program. -/
def call (m : Machine) (name : Text) (arguments : List Expr) : Run Value := do
  match (← getThe State).program.procedures.find? fun p => p.name == name with
  | none => Run.fault ("function ".toList ++ name ++ " never defined".toList)
  | some p =>
    let given ← arguments.mapM fun e => do
      match e with
      | .name n =>
        if n = ['N', 'F'] then return Binding.value (← m.expr e)
        else
          match ← binding n with
          | .open none =>
            let id ← newTable
            Run.bind n (.open (some id))
            return Binding.open (some id)
          | b => return b
      | _ => return Binding.value (← m.expr e)
    let frame := p.parameters.zipIdx.map fun q => (q.1, given[q.2]?.getD (.open none))
    modifyThe State fun s => { s with frames := frame :: s.frames }
    let v ← tryCatch (do
        m.statement p.body
        return Value.unset) fun
      | .return v => return v
      | stopped => do
        modifyThe State fun s => { s with frames := s.frames.drop 1 }
        throw stopped
    modifyThe State fun s => { s with frames := s.frames.drop 1 }
    return v

/-- The value of an expression. -/
def evaluate (m : Machine) (e : Expr) : Run Value := do
  match e with
  | .number x => return .number x
  | .text t => return .text t
  | .regex t => return .ofBool ((← pattern t).isIn (← getThe State).record)
  | .name n => Run.get n
  | .field e => field (truncated (← m.expr e).toNumber)
  | .element a index =>
    let k ← key m index
    let id ← tableId a
    let (v, b) := (← table id).get k
    setTable id b
    return v
  | .tuple es => m.expr (es.getLast?.getD (.text []))
  | .assign none target value =>
    let p ← place m target
    let v ← m.expr value
    put p v
    match p with
    | .field _ => held p
    | _ => return v
  | .assign (some op) target value =>
    let p ← place m target
    let b ← m.expr value
    let v ← operate op (← held p) b
    put p v
    return v
  | .choose c a b => if (← m.expr c).isTrue then m.expr a else m.expr b
  | .both a b =>
    if (← m.expr a).isTrue then return .ofBool (← m.expr b).isTrue else return .ofBool false
  | .either a b =>
    if (← m.expr a).isTrue then return .ofBool true else return .ofBool (← m.expr b).isTrue
  | .not e => return .ofBool !(← m.expr e).isTrue
  | .negate e =>
    let x := (← m.expr e).toNumber
    return .number (if x == 0.0 then 0.0 else -x)
  | .plus e => return .number (← m.expr e).toNumber
  | .matching negated e p =>
    let t ← text (← m.expr e)
    return .ofBool ((← patternOf m p).isIn t != negated)
  | .member index a =>
    let k ← key m index
    return .ofBool ((← table (← tableId a)).contains k)
  | .binary op a b =>
    let x ← m.expr a
    operate op x (← m.expr b)
  | .step before amount target =>
    let p ← place m target
    let old := (← held p).toNumber
    put p (.number (old + amount))
    return .number (if before then old + amount else old)
  | .call f arguments => call m f arguments
  | .builtin f arguments => builtin m f arguments
  | .getline origin source target => getline m origin source target

/-! ### Statements -/

/-- The greatest number of rounds of a loop. -/
def maxRounds : Nat := 100000000

/-- Run the body of a loop; whether the loop goes on. -/
def runBody (m : Machine) (body : Statement) : Run Bool :=
  tryCatch (do
    m.statement body
    return true) fun
  | .leave => return false
  | .goOn => return true
  | stopped => throw stopped

/-- Run a loop as long as its condition holds. -/
def loop (condition : Run Bool) (round : Run Bool) : Nat → Run Unit
  | 0 => return
  | fuel + 1 => do
    if ← condition then
      if ← round then loop condition round fuel else return
    else return

/-- Print a text. -/
def output (m : Machine) (where? : Option (Outlet × Expr)) (t : Text) : Run Unit := do
  match where? with
  | none => Run.print t
  | some (kind, e) =>
    let name ← text (← m.expr e)
    if kind != .command && (name = "/dev/stdout".toList || name = ['-']) then Run.print t
    else
      let i ← outlet kind name
      let _ ← tool (liftM (Act.write i t))

/-- The text that a value is printed as. -/
def printedText (v : Value) : Run Text := do
  match v with
  | .number _ => return v.toText ((← global "OFMT").toText [])
  | _ => return v.toText []

/-- Run a statement. -/
def execute (m : Machine) (s : Statement) : Run Unit := do
  match s with
  | .expr e =>
    let _ ← m.expr e
  | .print es where? =>
    let parts ← if es.isEmpty then do pure [(← getThe State).record]
      else es.mapM fun e => do printedText (← m.expr e)
    let between ← if parts.length > 1 then do text (← global "OFS") else pure []
    output m where? (between.intercalate parts ++ (← text (← global "ORS")))
  | .printf es where? =>
    let vs ← es.mapM m.expr
    let format ← text (vs.head?.getD .unset)
    let conv := (← global "CONVFMT").toText []
    let (t, good) := formatted (Value.toText conv) format (vs.drop 1)
    output m where? t
    if !good then
      Run.fault ("not enough arguments passed to printf(\"".toList ++ format ++ "\")".toList)
  | .block body => body.forM m.statement
  | .branch condition yes no =>
    if (← m.expr condition).isTrue then m.statement yes
    else
      match no with
      | some s => m.statement s
      | none => return
  | .whileLoop condition body =>
    loop (do return (← m.expr condition).isTrue) (runBody m body) maxRounds
  | .doLoop body condition =>
    if ← runBody m body then
      loop (do return (← m.expr condition).isTrue) (runBody m body) maxRounds
  | .forLoop first condition next body =>
    match first with
    | some s => m.statement s
    | none => pure ()
    let holds : Run Bool := match condition with
      | some e => do return (← m.expr e).isTrue
      | none => return true
    let round : Run Bool := do
      if ← runBody m body then
        match next with
        | some s => m.statement s
        | none => pure ()
        return true
      else return false
    loop holds round maxRounds
  | .forIn name array body =>
    let keys := (← table (← tableId array)).keys
    let _ ← keys.foldlM (fun goesOn k => do
      if goesOn then
        Run.set name (.input k)
        runBody m body
      else return false) true
  | .next => throw .next
  | .exit code =>
    match code with
    | some e =>
      let n := truncated (← m.expr e).toNumber
      modifyThe State fun s => { s with code := (n % 256).toNat }
    | none => pure ()
    throw .exit
  | .return value =>
    match value with
    | some e => throw (.return (← m.expr e))
    | none => throw (.return .unset)
  | .leave => throw .leave
  | .goOn => throw .goOn
  | .delete array index =>
    let id ← tableId array
    if index.isEmpty then setTable id .empty
    else
      let k ← key m index
      setTable id ((← table id).erase k)

/-- The functions that run up to a number of levels. -/
def machine (launch : Launcher) : Nat → Machine
  | 0 =>
    ⟨launch, fun _ => Run.fault "function call nesting too deep".toList,
      fun _ => Run.fault "function call nesting too deep".toList⟩
  | depth + 1 =>
    let m := machine launch depth
    ⟨launch, evaluate m, execute m⟩

/-! ### Programs -/

/-- Whether a rule selects the record, given its number. -/
def selects (m : Machine) (n : Nat) (s : Selector) : Run Bool := do
  match s with
  | .every => return true
  | .one e => return (← m.expr e).isTrue
  | .range first last =>
    let inside := (← getThe State).ranges.contains n
    if inside || (← m.expr first).isTrue then
      let ends := (← m.expr last).isTrue
      modifyThe State fun s =>
        { s with ranges := if ends then s.ranges.filter (· != n) else n :: s.ranges }
      return true
    else return false
  | _ => return false

/-- Run the action of a rule. -/
def runAction (m : Machine) (r : Rule) : Run Unit :=
  m.statement (r.action.getD (.print [] none))

/-- Run the rules for a record. -/
def runRules (m : Machine) : Run Unit := do
  let rules := (← getThe State).program.rules
  tryCatch (rules.zipIdx.forM fun r => do
    if ← selects m r.2 r.1.selector then runAction m r.1) fun
  | .next => return
  | stopped => throw stopped

/-- Run the rules for all records. -/
def runRecords (m : Machine) : Nat → Run Unit
  | 0 => return
  | fuel + 1 => do
    match ← nextRecord 1000 with
    | none => return
    | some t =>
      count "NR"
      count "FNR"
      setRecord t
      runRules m
      runRecords m fuel

/-- Whether a rule is for the start. -/
def Rule.isStart (r : Rule) : Bool :=
  match r.selector with
  | .start => true
  | _ => false

/-- Whether a rule is for the end. -/
def Rule.isFinish (r : Rule) : Bool :=
  match r.selector with
  | .finish => true
  | _ => false

/-- Run a part of a program; whether it was not left by force. -/
def phase (run : Run Unit) : Run Bool :=
  tryCatch (do
    run
    return true) fun
  | .fault message => throw (.fault message)
  | _ => return false

/-- Close all outlets, and write what has been printed. -/
def closeAll (launch : Launcher) : Run Unit := do
  (← getThe State).sinks.forM fun k => do
    let _ ← closeSink launch k
  flush

/-- Run a program. -/
def runProgram (m : Machine) : Run Unit := do
  let rules := (← getThe State).program.rules
  let started ← phase ((rules.filter Rule.isStart).forM (runAction m))
  let needsInput := rules.any fun r => !r.isStart
  let read ← if started && needsInput then phase (runRecords m maxRounds) else pure started
  let startOnly := !started
  if !startOnly || rules.any Rule.isFinish then
    let _ ← phase ((rules.filter Rule.isFinish).forM (runAction m))
  let _ := read

/-- The variables at the start. -/
def startGlobals : List (String × Value) :=
  [("FS", .text [' ']), ("OFS", .text [' ']), ("ORS", .text ['\n']), ("RS", .text ['\n']),
    ("SUBSEP", .text ['\x1c']), ("CONVFMT", .text "%.6g".toList), ("OFMT", .text "%.6g".toList),
    ("NR", .number 0.0), ("FNR", .number 0.0), 
    ("FILENAME", .text [])]

/-- The state at the start. -/
def start (program : Program) (name : Text) (arguments : List Text)
    (environment : List (Text × Text)) : State :=
  let inherited := environment.foldl (fun (a : Table) e => a.set e.1 (.input e.2)) .empty
  let words := (name :: arguments).zipIdx.foldl (fun (a : Table) w =>
    a.set (ofNat w.2) (.input w.1)) .empty
  let globals := startGlobals.foldl (fun (g : Std.HashMap Text Binding) v =>
    g.insert v.1.toList (.value v.2)) ∅
  let globals :=
    ((globals.insert "ENVIRON".toList (.table 0)).insert "ARGV".toList (.table 1)).insert
    "ARGC".toList (.value (.ofNat (arguments.length + 1)))
  { program := program, globals := globals, frames := [],
    tables := (∅ : Std.HashMap Nat Table).insertMany
      [(0, inherited), (1, words)],
    nextTable := 2, record := [], fields := none, arguments := arguments, current := none,
    readAny := false, sources := [], sinks := [], unwritten := [], ranges := [], code := 0 }

/-- The greatest depth of what is nested while a program runs. -/
def maxCallDepth : Nat := 3000

end Awk

namespace Tools

open Tool Text Awk

/-- A value that is given on the command line. -/
def awkArgument (t : Text) : Value :=
  .input ((quoted? [] (t.length + 3) (t ++ ['"'])).elim t Prod.fst)

/-- Run the program, and then the commands that its output is for. -/
def awkRun (launch : Launcher) (program : Program) (settings : List (Text × Text))
    (operands : List Text) : Tool Nat := do
  let job ← read
  let first := start program job.name operands job.environment
  let globals := settings.foldl (fun (g : Std.HashMap Text Binding) v =>
    g.insert v.1 (.value (awkArgument v.2))) first.globals
  let m := machine launch maxCallDepth
  let work : Run Unit := do
    runProgram m
    closeAll launch
  let (result, s) ← work.run.run { first with globals := globals }
  match result with
  | .error (.fault message) =>
    if Text.startsWith "cannot open" message || Text.startsWith "function" message then
      complain message
    else
      let number (name : String) : Text := match s.globals[name.toList]? with
        | some (.value v) => v.toText "%.6g".toList
        | _ => []
      report (job.name ++ ": run time error: ".toList ++ message ++ "\n\tFILENAME=\"".toList ++
        number "FILENAME" ++ "\" FNR=".toList ++ number "FNR" ++ " NR=".toList ++ number "NR" ++
        ['\n'])
    let _ ← ((closeAll launch).run).run s
    return 2
  | _ => return s.code

/-- What is said about options that make no sense. -/
def awkMisuse : OptionFault → Text
  | .letterNeedsValue c => "option -".toList ++ c :: " lacks argument".toList
  | .unknownLetter c => "not an option: -".toList ++ [c]
  | .unknownWord w => "not an option: --".toList ++ w
  | fault => fault.message

/-- Run a program of patterns and actions. -/
def awk (launch : Launcher) : Tool Nat := do
  match (⟨"F:v:f:W:", [("version", 'V', .never), ("help", 'h', .never)], false⟩ : OptionSet).read
      (← read).arguments with
  | .error fault => fail (awkMisuse fault) 2
  | .ok (options, operands) =>
    let files ← (options.filter fun o => o.1 == 'f').mapM fun o => do
      match ← operand o.2 with
      | .ok t => return Except.ok t
      | .error fault =>
        return Except.error ("cannot open \"".toList ++ o.2 ++ "\" (".toList ++
          fault.description.toList ++ [')'])
    let improper := (options.filter fun o => o.1 == 'v').find? fun o =>
      !((cut? ['='] o.2).any fun v => isName v.1)
    match files.mapM id, improper with
    | .error message, _ => fail message 2
    | _, some o => fail ("improper assignment: -v ".toList ++ o.2) 2
    | .ok texts, none =>
      match if texts.isEmpty then operands.head? else some (unlines texts) with
      | none =>
        report "Usage: mawk [Options] [Program] [file ...]\n".toList
        return 2
      | some source =>
        match Awk.read source with
        | .error messages =>
          messages.forM complain
          return 2
        | .ok program =>
          let separator := (valueOf? options 'F').map fun t =>
            ("FS".toList, t)
          let named := (options.filter fun o => o.1 == 'v').filterMap fun o =>
            (cut? ['='] o.2).filter fun v => isName v.1
          awkRun launch program (separator.toList ++ named)
            (if texts.isEmpty then operands.drop 1 else operands)

end Tools

end ComponentFile
