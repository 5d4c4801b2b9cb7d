import ComponentFile.Awk.Token

/-!
# Reading programs of patterns and actions

## Main definitions

* `Awk.Reading` : reading from a list of tokens.
* `Awk.readExpr`, `Awk.readStatement` : one level of expressions and of statements.
* `Awk.read` : the program that a text is.

Expressions and statements nest.  Each level of nesting is read by functions that are given the
functions for the level below, and the number of tokens bounds the number of levels.
-/

namespace ComponentFile.Awk

open Text

/-- Where a statement stands: in a function, in an action for the start or the end, or in another
action. -/
inductive Setting where
  | function
  | edge
  | rule
  deriving DecidableEq, Repr

/-- How far reading has come: the tokens that are left, what has been found to be wrong without
stopping, in reverse, the number of loops around, where the statement stands, and the functions that
are called, with the numbers of their arguments and their lines, in reverse. -/
structure Progress where
  tokens : List Token
  flaws : List Text
  loops : Nat
  setting : Setting
  calls : List (Text × Nat × Nat)

/-- Something that reads from tokens.  Messages tell why it cannot. -/
abbrev Reading := StateT Progress (Except (List Text))

namespace Reading

/-- The tokens that are left. -/
def left : Reading (List Token) := do
  return (← get).tokens

/-- The number of tokens that are left. -/
def size : Reading Nat := do
  return (← left).length

/-- Change the tokens that are left. -/
def change (f : List Token → List Token) : Reading Unit :=
  modify fun p => { p with tokens := f p.tokens }

/-- The next token, which stays. -/
def peek : Reading Token := do
  return (← left).head?.getD ⟨.stop, 1, [], 0, 0⟩

/-- Take the next token. -/
def take : Reading Token := do
  let t ← peek
  change fun ts => ts.drop 1
  return t

/-- What is said about a line. -/
def aboutLine (line : Nat) (t : Text) : Text :=
  "line ".toList ++ ofNat line ++ ": ".toList ++ t

/-- Remember that something is wrong and go on. -/
def note (line : Nat) (t : Text) : Reading Unit :=
  modify fun p => { p with flaws := aboutLine line t :: p.flaws }

/-- Stop with a message. -/
def stop {α : Type} (t : Text) : Reading α := do
  throw ((← get).flaws.reverse ++ [t])

/-- Fail at the next token.  A parenthesis that is missing is noticed at the end of a statement. -/
def fail {α : Type} : Reading α := do
  let t ← peek
  let name := match t.kind with
    | .stop => "end of line".toList
    | .lineEnd => "end of line".toList
    | _ => t.spelling
  let endsStatement := match t.kind with
    | .stop => true
    | .lineEnd => true
    | .sign s => s == ";" || s == "\x7d"
    | _ => false
  match t.kind with
  | .flaw message => stop message
  | _ =>
    if endsStatement && t.parentheses > 0 then
      stop (aboutLine t.line ("missing ) near ".toList ++ name))
    else if t.kind matches .stop && t.blocks > 0 then
      stop (aboutLine (t.line + 1) "missing \x7d near end of file".toList)
    else stop (aboutLine t.line ("syntax error at or near ".toList ++ name))

/-- Whether a token is a sign. -/
def isSign (s : String) (t : Token) : Bool :=
  match t.kind with
  | .sign u => u == s
  | _ => false

/-- Whether a token is a keyword. -/
def isKeyword (s : String) (t : Token) : Bool :=
  match t.kind with
  | .keyword u => u == s
  | _ => false

/-- Take a sign if it comes next. -/
def sign? (s : String) : Reading Bool := do
  if isSign s (← peek) then
    let _ ← take
    return true
  else return false

/-- Take a keyword if it comes next. -/
def keyword? (s : String) : Reading Bool := do
  if isKeyword s (← peek) then
    let _ ← take
    return true
  else return false

/-- Take a sign that has to come next. -/
def sign (s : String) : Reading Unit := do
  if ← sign? s then return else fail

/-- Pass over line ends. -/
def skipLineEnds : Reading Unit :=
  change fun ts => ts.dropWhile fun t =>
    match t.kind with
    | .lineEnd => true
    | _ => false

/-- Pass over line ends and semicolons. -/
def skipSeparators : Reading Unit :=
  change fun ts => ts.dropWhile fun t =>
    match t.kind with
    | .lineEnd => true
    | .sign ";" => true
    | _ => false

/-- Repeat something as long as it changes a value. -/
def many {α : Type} (step : α → Reading (Option α)) : Nat → α → Reading α
  | 0, a => pure a
  | fuel + 1, a => do
    match ← step a with
    | some b => many step fuel b
    | none => return a

end Reading

open Reading

/-- What may not stand in an expression outside parentheses: a sign for output, and the word that
asks for members. -/
structure Context where
  noGreater : Bool
  noIn : Bool

/-- The functions that read what is nested. -/
structure Nested where
  expr : Context → Reading Expr
  statement : Reading Statement

/-- Whether something can be assigned to. -/
def Expr.isTarget : Expr → Bool
  | .name _ => true
  | .field _ => true
  | .element _ _ => true
  | _ => false

/-! ### Expressions -/

/-- The context without limits. -/
def anywhere : Context := ⟨false, false⟩

/-- Expressions with commas between them. -/
def readList (n : Nested) (c : Context) : Reading (List Expr) := do
  let first ← n.expr c
  let found ← many (fun (done : List Expr) => do
    if ← sign? "," then
      skipLineEnds
      return some ((← n.expr c) :: done)
    else return none) (← size) [first]
  return found.reverse

/-- The arguments of a function, at least so many as are needed. -/
def readArguments (n : Nested) (needed : Nat) : Reading (List Expr) := do
  sign "("
  let es ← if isSign ")" (← peek) then pure [] else readList n anywhere
  if es.length < needed then fail
  else
    sign ")"
    return es

/-- The least and the greatest number of arguments of the functions that every program has. -/
def argumentCounts : List (String × Nat × Nat) :=
  [("length", 0, 1), ("index", 2, 2), ("substr", 2, 3), ("sprintf", 1, 255), ("sin", 1, 1),
    ("cos", 1, 1), ("atan2", 2, 2), ("exp", 1, 1), ("log", 1, 1), ("int", 1, 1), ("sqrt", 1, 1),
    ("rand", 0, 0), ("srand", 0, 1), ("close", 1, 1), ("system", 1, 1), ("toupper", 1, 1),
    ("tolower", 1, 1), ("fflush", 0, 1)]

/-- Look whether a text that is used as a regular expression is one. -/
def checkPattern (line : Nat) (e : Option Expr) : Reading Unit := do
  match e with
  | some (.text t) =>
    match regexOf t with
    | .ok _ => return
    | .error message => stop (aboutLine line message)
  | _ => return

/-- A call of a function that every program has. -/
def readBuiltin (n : Nested) (f : Text) : Reading Expr := do
  let isBare := !isSign "(" (← peek)
  let line := (← peek).line
  let needed := if ["split", "sub", "gsub", "match"].any fun b => b.toList == f then 2 else 0
  let es ← if isBare && f = "length".toList then pure [] else readArguments n needed
  match argumentCounts.lookup (String.ofList f) with
  | some (low, high) =>
    if es.length < low || es.length > high then
      note line ("wrong number of arguments in call to ".toList ++ f)
  | none => pure ()
  checkPattern line (match String.ofList f with
    | "sub" => es[0]?
    | "gsub" => es[0]?
    | "match" => es[1]?
    | "split" => es[2]?.filter fun e => !(e matches .text [_])
    | _ => none)
  return .builtin f es

/-- An expression for a single value, without operators. -/
def readPrimary (n : Nested) (self : Reading Expr) : Reading Expr := do
  let t ← peek
  match t.kind with
  | .number x =>
    let _ ← take
    return .number x
  | .text u =>
    let _ ← take
    return .text u
  | .regex u =>
    let _ ← take
    return .regex u
  | .sign "$" =>
    let _ ← take
    return .field (← self)
  | .sign "++" =>
    let _ ← take
    let e ← self
    if e.isTarget then return .step true 1.0 e else fail
  | .sign "--" =>
    let _ ← take
    let e ← self
    if e.isTarget then return .step true (-1.0) e else fail
  | .sign "-" =>
    let _ ← take
    return .negate (← self)
  | .sign "+" =>
    let _ ← take
    return .plus (← self)
  | .sign "!" =>
    let _ ← take
    return .not (← self)
  | .sign "(" =>
    let _ ← take
    let es ← readList n anywhere
    sign ")"
    match es with
    | [e] => return .tuple [e]
    | _ =>
      if isKeyword "in" (← peek) then
        let _ ← take
        let t ← take
        match t.kind with
        | .name a => return .member es a
        | _ => fail
      else return .tuple es
  | .name a =>
    let _ ← take
    if ← sign? "[" then
      let index ← readList n anywhere
      sign "]"
      return .element a index
    else return .name a
  | .function f =>
    let _ ← take
    let es ← readArguments n 0
    modify fun p => { p with calls := (f, es.length, t.line) :: p.calls }
    return .call f es
  | .builtin f =>
    let _ ← take
    readBuiltin n f
  | .keyword "getline" =>
    let _ ← take
    let next ← peek
    let hasTarget := match next.kind with
      | .name _ => true
      | .sign "$" => true
      | _ => false
    let target ← if hasTarget then do pure (some (← self)) else pure none
    if ← sign? "<" then return .getline .file (some (← self)) target
    else return .getline .input none target
  | _ => fail

/-- A single value with signs before it that bind most, so that `$` has an operand. -/
def readTight (n : Nested) : Nat → Reading Expr
  | 0 => fail
  | fuel + 1 => readPrimary n (readTight n fuel)

/-- A single value, and steps behind it. -/
def readPostfix (n : Nested) : Reading Expr := do
  let e ← readTight n (← size)
  if e.isTarget then
    if ← sign? "++" then return .step false 1.0 e
    else if ← sign? "--" then return .step false (-1.0) e
    else return e
  else return e

/-- Signs and powers. -/
def readUnary (n : Nested) : Nat → Reading Expr
  | 0 => fail
  | fuel + 1 => do
    if ← sign? "!" then return .not (← readUnary n fuel)
    else if ← sign? "-" then return .negate (← readUnary n fuel)
    else if ← sign? "+" then return .plus (← readUnary n fuel)
    else
      let e ← readPostfix n
      if ← sign? "^" then return .binary .power e (← readUnary n fuel)
      else return e

/-- The operator that a token is, from a list. -/
def operator? (ops : List (String × Binary)) (t : Token) : Option Binary :=
  match t.kind with
  | .sign s => ops.lookup s
  | _ => none

/-- Operators of one level, from the left. -/
def readChain (ops : List (String × Binary)) (next : Reading Expr) : Reading Expr := do
  many (fun (a : Expr) => do
    match operator? ops (← peek) with
    | some op =>
      let _ ← take
      return some (.binary op a (← next))
    | none => return none) (← size) (← next)

/-- Products. -/
def readProduct (n : Nested) : Reading Expr := do
  readChain [("*", .multiply), ("/", .divide), ("%", .remainder)]
    (readUnary n (← size))

/-- Sums. -/
def readSum (n : Nested) : Reading Expr :=
  readChain [("+", .add), ("-", .subtract)] (readProduct n)

/-- Whether a token begins a value that is joined to the one before. -/
def beginsValue (t : Token) : Bool :=
  match t.kind with
  | .number _ => true
  | .text _ => true
  | .regex _ => true
  | .name _ => true
  | .function _ => true
  | .builtin _ => true
  | .sign s => ["$", "(", "++", "--", "!"].contains s
  | _ => false

/-- Values side by side, and lines taken from commands. -/
def readConcat (n : Nested) : Reading Expr := do
  let joined ← many (fun (a : Expr) => do
    if beginsValue (← peek) then return some (.binary .concat a (← readSum n)) else return none)
    (← size) (← readSum n)
  many (fun (a : Expr) => do
    match ← left with
    | t :: u :: _ =>
      if isSign "|" t && isKeyword "getline" u then
        let _ ← take
        let _ ← take
        let next ← peek
        let hasTarget := match next.kind with
          | .name _ => true
          | .sign "$" => true
          | _ => false
        let target ← if hasTarget then do pure (some (← readTight n (← size))) else pure none
        return some (.getline .command (some a) target)
      else return none
    | _ => return none) (← size) joined

/-- Comparisons. -/
def readComparison (n : Nested) (c : Context) : Reading Expr := do
  let a ← readConcat n
  let ops : List (String × Binary) := [("<", .less), ("<=", .lessEqual), ("==", .equal),
    ("!=", .notEqual), (">=", .greaterEqual)] ++ if c.noGreater then [] else [(">", .greater)]
  match operator? ops (← peek) with
  | some op =>
    let _ ← take
    return .binary op a (← readConcat n)
  | none => return a

/-- Matches. -/
def readMatch (n : Nested) (c : Context) : Reading Expr := do
  many (fun (a : Expr) => do
    let t ← peek
    if isSign "~" t || isSign "!~" t then
      let _ ← take
      let e ← readComparison n c
      checkPattern t.line (some e)
      return some (.matching (isSign "!~" t) a e)
    else return none) (← size) (← readComparison n c)

/-- Questions for members. -/
def readMember (n : Nested) (c : Context) : Reading Expr := do
  many (fun (a : Expr) => do
    if !c.noIn && isKeyword "in" (← peek) then
      let _ ← take
      let t ← take
      match t.kind with
      | .name array => return some (.member [a] array)
      | _ => fail
    else return none) (← size) (← readMatch n c)

/-- Conjunctions. -/
def readBoth (n : Nested) (c : Context) : Reading Expr := do
  many (fun (a : Expr) => do
    if ← sign? "&&" then
      skipLineEnds
      return some (.both a (← readMember n c))
    else return none) (← size) (← readMember n c)

/-- Disjunctions. -/
def readEither (n : Nested) (c : Context) : Reading Expr := do
  many (fun (a : Expr) => do
    if ← sign? "||" then
      skipLineEnds
      return some (.either a (← readBoth n c))
    else return none) (← size) (← readBoth n c)

/-- The operator of an assignment. -/
def assignment? (t : Token) : Option (Option Binary) :=
  match t.kind with
  | .sign "=" => some none
  | .sign "+=" => some (some .add)
  | .sign "-=" => some (some .subtract)
  | .sign "*=" => some (some .multiply)
  | .sign "/=" => some (some .divide)
  | .sign "%=" => some (some .remainder)
  | .sign "^=" => some (some .power)
  | _ => none

/-- Expressions of all kinds. -/
def readExpr (n : Nested) (c : Context) : Reading Expr := do
  let e ← readEither n c
  if ← sign? "?" then
    skipLineEnds
    let a ← n.expr c
    skipLineEnds
    sign ":"
    skipLineEnds
    return .choose e a (← n.expr c)
  else if e.isTarget then
    match assignment? (← peek) with
    | some op =>
      let _ ← take
      skipLineEnds
      return .assign op e (← n.expr c)
    | none => return e
  else
    match e, assignment? (← peek) with
    | .not target, some op =>
      if target.isTarget then
        let _ ← take
        return .not (.assign op target (← n.expr c))
      else return e
    | _, _ => return e

/-! ### Statements -/

/-- The end of a statement: a semicolon, a line end, or a brace that stays. -/
def readEnd : Reading Unit := do
  let t ← peek
  match t.kind with
  | .sign ";" =>
    let _ ← take
    skipLineEnds
  | .lineEnd => skipLineEnds
  | .sign "\x7d" => return
  | .stop => return
  | _ => fail

/-- Whether a statement has no expression behind its first word. -/
def endsHere (t : Token) : Bool :=
  match t.kind with
  | .sign s => [";", "\x7d", ">", ">>", "|"].contains s
  | .lineEnd => true
  | .stop => true
  | _ => false

/-- Where the output of a statement goes. -/
def readOutlet (n : Nested) : Reading (Option (Outlet × Expr)) := do
  if ← sign? ">" then return some (.file, ← readConcat n)
  else if ← sign? ">>" then return some (.append, ← readConcat n)
  else if ← sign? "|" then return some (.command, ← readConcat n)
  else return none

/-- What is printed, and where it goes. -/
def readPrinted (n : Nested) : Reading (List Expr × Option (Outlet × Expr)) := do
  let es ← if endsHere (← peek) then pure [] else readList n ⟨true, false⟩
  let es := match es with
    | [.tuple (a :: b :: more)] => a :: b :: more
    | es => es
  return (es, ← readOutlet n)

/-- A statement without parts that are statements. -/
def readSimple (n : Nested) : Reading Statement := do
  let t ← peek
  match t.kind with
  | .keyword "print" =>
    let _ ← take
    let (es, outlet) ← readPrinted n
    return .print es outlet
  | .keyword "printf" =>
    let _ ← take
    let isEmpty := match ← left with
      | a :: b :: _ => isSign "(" a && isSign ")" b
      | _ => false
    if isEmpty then change fun ts => ts.drop 2
    let (es, outlet) ← readPrinted n
    if es.isEmpty then note t.line "no arguments in call to printf".toList
    return .printf es outlet
  | .keyword "next" =>
    let _ ← take
    if (← get).setting = .edge then note t.line "improper use of next".toList
    return .next
  | .keyword "exit" =>
    let _ ← take
    return .exit (← if endsHere (← peek) then pure none else do pure (some (← n.expr anywhere)))
  | .keyword "return" =>
    let _ ← take
    if (← get).setting != .function then note t.line "return outside function body".toList
    return .return (← if endsHere (← peek) then pure none else do pure (some (← n.expr anywhere)))
  | .keyword "break" =>
    let _ ← take
    if (← get).loops = 0 then note t.line "break statement outside of loop".toList
    return .leave
  | .keyword "continue" =>
    let _ ← take
    if (← get).loops = 0 then note t.line "continue statement outside of loop".toList
    return .goOn
  | .keyword "delete" =>
    let _ ← take
    match (← peek).kind with
    | .name a =>
      let _ ← take
      if ← sign? "[" then
        let index ← readList n anywhere
        sign "]"
        return .delete a index
      else return .delete a []
    | _ => fail
  | _ => return .expr (← n.expr anywhere)

/-- Statements between braces. -/
def readBlock (n : Nested) : Reading Statement := do
  sign "\x7b"
  skipSeparators
  let body ← many (fun (done : List Statement) => do
    skipSeparators
    if isSign "\x7d" (← peek) then return none
    else return some ((← n.statement) :: done)) (← size) []
  sign "\x7d"
  return .block body.reverse

/-- A condition in parentheses. -/
def readCondition (n : Nested) : Reading Expr := do
  sign "("
  let e ← n.expr anywhere
  sign ")"
  return e

/-- A statement that depends on another part, which may stand on a line of its own. -/
def readBody (n : Nested) : Reading Statement := do
  skipLineEnds
  if ← sign? ";" then
    skipLineEnds
    return .block []
  else if isSign "\x7d" (← peek) then return .block []
  else n.statement

/-- The body of a loop. -/
def readLoopBody (n : Nested) : Reading Statement := do
  modify fun p => { p with loops := p.loops + 1 }
  let body ← readBody n
  modify fun p => { p with loops := p.loops - 1 }
  return body

/-- A loop behind `for`. -/
def readFor (n : Nested) : Reading Statement := do
  sign "("
  let isIn := match ← left with
    | a :: b :: c :: d :: _ =>
      match a.kind, c.kind with
      | .name x, .name y => if isKeyword "in" b && isSign ")" d then some (x, y) else none
      | _, _ => none
    | _ => none
  match isIn with
  | some (x, y) =>
    change fun ts => ts.drop 4
    return .forIn x y (← readLoopBody n)
  | none =>
    let part (stop : String) : Reading (Option Statement) := do
      if isSign stop (← peek) then return none else return some (← readSimple n)
    let first ← part ";"
    sign ";"
    skipLineEnds
    let condition ← if isSign ";" (← peek) then pure none else do pure (some (← n.expr anywhere))
    sign ";"
    skipLineEnds
    let next ← part ")"
    sign ")"
    return .forLoop first condition next (← readLoopBody n)

/-- Statements of all kinds, with what ends them. -/
def readStatement (n : Nested) : Reading Statement := do
  let t ← peek
  match t.kind with
  | .sign "\x7b" =>
    let b ← readBlock n
    skipLineEnds
    let _ ← sign? ";"
    return b
  | .sign ";" =>
    let _ ← take
    return .block []
  | .keyword "if" =>
    let _ ← take
    let condition ← readCondition n
    let yes ← readBody n
    skipSeparators
    if ← keyword? "else" then return .branch condition yes (some (← readBody n))
    else return .branch condition yes none
  | .keyword "while" =>
    let _ ← take
    let condition ← readCondition n
    return .whileLoop condition (← readLoopBody n)
  | .keyword "do" =>
    let _ ← take
    let body ← readLoopBody n
    skipSeparators
    if ← keyword? "while" then
      let condition ← readCondition n
      readEnd
      return .doLoop body condition
    else fail
  | .keyword "for" =>
    let _ ← take
    readFor n
  | _ =>
    let s ← readSimple n
    readEnd
    return s

/-- The functions that read up to a number of levels. -/
def nested : Nat → Nested
  | 0 => ⟨fun _ => fail, fail⟩
  | depth + 1 =>
    let n := nested depth
    ⟨readExpr n, readStatement n⟩

/-! ### Programs -/

/-- Read an action that stands somewhere. -/
def readAction (n : Nested) (setting : Setting) : Reading Statement := do
  modify fun p => { p with setting := setting, loops := 0 }
  readBlock n

/-- A function of the program. -/
def readProcedure (n : Nested) : Reading Procedure := do
  let t ← take
  let name ← match t.kind with
    | .name f => pure f
    | .function f => pure f
    | _ => fail
  sign "("
  let parameters ← many (fun (done : List Text) => do
    let _ ← sign? ","
    skipLineEnds
    match (← peek).kind with
    | .name p =>
      if p = name then
        note t.line "function parameter cannot be the function".toList
        fail
      else
        let _ ← take
        return some (p :: done)
    | _ => return none) (← size) []
  sign ")"
  skipLineEnds
  return ⟨name, parameters.reverse, ← readAction n .function⟩

/-- A rule. -/
def readRule (n : Nested) : Reading Rule := do
  if ← keyword? "BEGIN" then return ⟨.start, some (← readAction n .edge)⟩
  else if ← keyword? "END" then return ⟨.finish, some (← readAction n .edge)⟩
  else
    let selector ←
      if isSign "\x7b" (← peek) then pure Selector.every
      else do
        let first ← n.expr anywhere
        if ← sign? "," then
          skipLineEnds
          pure (Selector.range first (← n.expr anywhere))
        else pure (Selector.one first)
    if isSign "\x7b" (← peek) then return ⟨selector, some (← readAction n .rule)⟩
    else return ⟨selector, none⟩

/-- The rules and functions up to the end. -/
def readProgram (n : Nested) : Nat → Program → Reading Program
  | 0, p => pure p
  | fuel + 1, p => do
    skipSeparators
    let t ← peek
    match t.kind with
    | .stop => return p
    | .sign "\x7d" =>
      note t.line "extra '\x7d'".toList
      stop (aboutLine t.line "syntax error at or near end of line".toList)
    | .keyword "function" =>
      let _ ← take
      let f ← readProcedure n
      readProgram n fuel { p with procedures := p.procedures ++ [f] }
    | _ =>
      let r ← readRule n
      match (← peek).kind with
      | .lineEnd => readProgram n fuel { p with rules := p.rules ++ [r] }
      | .sign ";" => readProgram n fuel { p with rules := p.rules ++ [r] }
      | .stop => readProgram n fuel { p with rules := p.rules ++ [r] }
      | _ =>
        match r.action with
        | some _ => readProgram n fuel { p with rules := p.rules ++ [r] }
        | none => fail

/-- Look whether the functions that are called are there and take so many arguments. -/
def checkCalls (lastLine : Nat) (p : Program) : Reading Unit := do
  for (f, count, line) in (← get).calls.reverse do
    match p.procedures.find? fun q => q.name == f with
    | none => note lastLine ("function ".toList ++ f ++ " never defined".toList)
    | some q =>
      if count > q.parameters.length then
        note line ("too many arguments in call to ".toList ++ f)

/-- The greatest depth of nesting. -/
def maxDepth : Nat := 1000

/-- The program that a text is, or why it is none. -/
def read (t : Text) : Except (List Text) Program :=
  let (ts, extra) := tokens t
  let lastLine := (t.filter (· == '\n')).length + 2
  let whole : Reading Program := do
    let p ← readProgram (nested maxDepth) (ts.length + 1) ⟨[], []⟩
    checkCalls lastLine p
    return p
  match whole.run ⟨ts, extra.reverse, 0, .rule, []⟩ with
  | .error messages => .error messages
  | .ok (p, progress) =>
    if progress.flaws.isEmpty then .ok p else .error progress.flaws.reverse

end ComponentFile.Awk
