import ComponentFile.Process.Options
import ComponentFile.Tools.Format

/-!
# Conditions

The words of a condition ask about texts, numbers and files.  They are read from left to right, and
a word counts as an operator when what stands behind it makes that possible.

## Main definitions

* `Condition.Fault` : why a condition makes no sense.
* `Condition.holds` : whether a condition holds.
* `Tools.test` : the tool that tests conditions.
-/

namespace ComponentFile

open Text

namespace Condition

/-- Why a condition makes no sense. -/
inductive Fault where
  | unexpected (word : Text)
  | argumentExpected (operator : Text)
  | closingExpected
  | notNumber (word : Text)
  | missingBracket
  | tooMany
  | unaryExpected (word : Text)
  | binaryExpected (word : Text)

/-- The wording of a fault. -/
def Fault.message (m : Manner) : Fault → Text
  | unexpected w =>
    match m with
    | .program => "extra argument ".toList ++ quotedPlain w
    | .posix => w ++ ": unexpected operator".toList
    | .extended => "too many arguments".toList
  | argumentExpected w =>
    match m with
    | .program => "missing argument after ".toList ++ quotedPlain w
    | .posix => w ++ ": argument expected".toList
    | .extended => w ++ ": unary operator expected".toList
  | closingExpected =>
    match m with
    | .program => "')' expected".toList
    | .posix => "closing paren expected".toList
    | .extended => "\x60)' expected".toList
  | notNumber w =>
    match m with
    | .program => "invalid integer ".toList ++ quotedPlain w
    | .posix => "Illegal number: ".toList ++ w
    | .extended => w ++ ": integer expression expected".toList
  | missingBracket =>
    match m with
    | .program => "missing ']'".toList
    | .posix => "missing ]".toList
    | .extended => "missing \x60]'".toList
  | tooMany => "too many arguments".toList
  | unaryExpected w =>
    (if m = .program then quotedPlain w else w) ++ ": unary operator expected".toList
  | binaryExpected w =>
    (if m = .program then quotedPlain w else w) ++ ": binary operator expected".toList

/-- Whether a word is an operator before one word. -/
def isUnary (w : Text) : Bool :=
  match w with
  | ['-', c] => "bcdefghknoprstuwxzGLNOSv".toList.any (· == c) && c != 'o'
  | _ => false

/-- Whether a word is an operator between two words. -/
def isBinary (m : Manner) (w : Text) : Bool :=
  (m != .posix && w = ['=', '=']) ||
  ["=", "!=", "<", ">", "-eq", "-ne", "-lt", "-le", "-gt", "-ge", "-nt", "-ot", "-ef"].any
    fun o => o.toList == w

/-- Who asks, and what files are like. -/
structure Facts where
  manner : Manner
  file : Char → Text → Bool
  same : Text → Text → Bool
  isSet : Text → Bool

/-- The number that a word is. -/
def number (w : Text) : Except Fault Int :=
  let t := (w.dropWhile isWhite).reverse.dropWhile isWhite |>.reverse
  match int? t with
  | some i => .ok i
  | none => .error (.notNumber w)

/-- Whether an operator holds between two words. -/
def between (facts : Facts) (a op b : Text) : Except Fault Bool := do
  let numbers (test : Int → Int → Bool) : Except Fault Bool := do
    let x ← number a
    let y ← number b
    return test x y
  match String.ofList op with
  | "=" => return a == b
  | "==" => return a == b
  | "!=" => return a != b
  | "<" => return a != b && Text.le a b
  | ">" => return a != b && Text.le b a
  | "-eq" => numbers fun x y => x == y
  | "-ne" => numbers fun x y => x != y
  | "-lt" => numbers fun x y => x < y
  | "-le" => numbers fun x y => x ≤ y
  | "-gt" => numbers fun x y => x > y
  | "-ge" => numbers fun x y => x ≥ y
  | "-ef" => return facts.same a b
  | _ => return false

/-- Whether an operator holds for a word. -/
def ofWord (facts : Facts) (op w : Text) : Bool :=
  match op with
  | ['-', 'n'] => !w.isEmpty
  | ['-', 'z'] => w.isEmpty
  | ['-', 'v'] => facts.isSet w
  | ['-', c] => facts.file c w
  | _ => false

/-- Whether an operator before one word stands at the front of the words as a word itself. -/
def isOperand (m : Manner) : List Text → Bool
  | [] => true
  | [_] => false
  | w :: _ => isBinary m w

/-- Whether the first of the words is an operator before one word. -/
def startsUnary (m : Manner) : List Text → Bool
  | [] => false
  | w :: rest => isUnary w && !isOperand m rest

mutual

/-- Conditions joined by `-o`, and the words behind them. -/
def anyOf (facts : Facts) : Nat → List Text → Except Fault (Bool × List Text)
  | 0, ws => .error (.unexpected (ws.head?.getD []))
  | fuel + 1, ws => do
    let (b, rest) ← allOf facts fuel ws
    match rest with
    | ['-', 'o'] :: more =>
      let (c, rest) ← anyOf facts fuel more
      return (b || c, rest)
    | _ => return (b, rest)

/-- Conditions joined by `-a`, and the words behind them. -/
def allOf (facts : Facts) : Nat → List Text → Except Fault (Bool × List Text)
  | 0, ws => .error (.unexpected (ws.head?.getD []))
  | fuel + 1, ws => do
    let (b, rest) ← single facts fuel ws
    match rest with
    | ['-', 'a'] :: more =>
      let (c, rest) ← allOf facts fuel more
      return (b && c, rest)
    | _ => return (b, rest)

/-- A condition that is not joined to others, and the words behind it. -/
def single (facts : Facts) : Nat → List Text → Except Fault (Bool × List Text)
  | 0, ws => .error (.unexpected (ws.head?.getD []))
  | fuel + 1, ws => do
    match ws with
    | [] => return (false, [])
    | w :: rest =>
      if w = ['!'] && !rest.isEmpty then
        let (b, rest) ← single facts fuel rest
        return (!b, rest)
      else if w = ['('] && !rest.isEmpty then
        if rest.head? = some [')'] then return (false, rest.drop 1)
        else
          let (b, rest) ← anyOf facts fuel rest
          match rest with
          | [')'] :: rest => return (b, rest)
          | _ => .error .closingExpected
      else if startsUnary facts.manner ws then
        match rest with
        | v :: rest => return (ofWord facts w v, rest)
        | [] => .error (.argumentExpected w)
      else
        match rest with
        | op :: more =>
          if isBinary facts.manner op then
            match more with
            | v :: rest => return (← between facts w op v, rest)
            | [] => .error (.argumentExpected op)
          else return (!w.isEmpty, rest)
        | [] => return (!w.isEmpty, [])

end

/-- Whether the words are a condition that holds, whatever their number. -/
def general (facts : Facts) (ws : List Text) : Except Fault Bool := do
  let (b, rest) ← anyOf facts (4 * ws.length + 4) ws
  match rest with
  | [] => return b
  | w :: _ =>
    let before := ws.take (ws.length - rest.length)
    .error (.unexpected (before.getLast?.getD w))

/-- Whether the words are a condition that holds; their number counts before their meaning. -/
def counted (facts : Facts) : Nat → List Text → Except Fault Bool
  | 0, _ => .ok false
  | fuel + 1, ws =>
    match ws with
    | [] => .ok false
    | [w] => .ok (!w.isEmpty)
    | [a, b] =>
      if a = ['!'] then .ok b.isEmpty
      else if isUnary a then .ok (ofWord facts a b)
      else .error (.unaryExpected a)
    | [a, op, b] =>
      if isBinary facts.manner op then between facts a op b
      else if op = ['-', 'a'] then .ok (!a.isEmpty && !b.isEmpty)
      else if op = ['-', 'o'] then .ok (!a.isEmpty || !b.isEmpty)
      else if a = ['!'] then (counted facts fuel [op, b]).map not
      else if a = ['('] && b = [')'] then .ok (!op.isEmpty)
      else .error (.binaryExpected op)
    | a :: rest =>
      if ws.length = 4 && a = ['!'] then (counted facts fuel rest).map not
      else general facts ws

/-- Whether the words are a condition that holds in the plain shell. -/
def plain (facts : Facts) : Nat → List Text → Except Fault Bool
  | 0, _ => .ok false
  | fuel + 1, ws =>
    match ws with
    | [] => .ok false
    | [a, op, b] =>
      if isBinary facts.manner op then between facts a op b
      else if a = ['('] && b = [')'] then general facts [op]
      else if a = ['!'] then (plain facts fuel [op, b]).map not
      else general facts ws
    | [a, b, c, d] =>
      if a = ['('] && d = [')'] then general facts [b, c]
      else if a = ['!'] then (plain facts fuel [b, c, d]).map not
      else general facts ws
    | _ => general facts ws

/-- Whether the words are a condition that holds. -/
def holds (facts : Facts) (ws : List Text) : Except Fault Bool :=
  if facts.manner = .posix then plain facts (ws.length + 1) ws
  else counted facts (ws.length + 1) ws

/-- What is known about the files of a world. -/
def Facts.ofTree (m : Manner) (tree : FileTree) (cwd : Place) (isSet : Text → Bool) : Facts where
  manner := m
  file c w :=
    match tree.lookup cwd ⟨ofOctets w⟩ with
    | .error _ => false
    | .ok .directory => ['e', 'd', 'r', 'w', 'x', 's', 'O', 'G', 'N'].contains c
    | .ok (.file bytes isProgram) =>
      let isDevice := Text.startsWith "/dev/" w
      match c with
      | 'e' => true
      | 'f' => !isDevice
      | 'c' => isDevice
      | 'r' => true
      | 'w' => true
      | 'O' => true
      | 'G' => true
      | 's' => !bytes.isEmpty
      | 'x' => isProgram
      | _ => false
  same a b :=
    match tree.follow cwd ⟨ofOctets a⟩, tree.follow cwd ⟨ofOctets b⟩ with
    | .ok p, .ok q => p == q && (tree.entry? p).isSome
    | _, _ => false
  isSet := isSet

/-- Whether the words behind the name of a test are a condition that holds.  A test that is called
by a bracket ends with one. -/
def ofCall (facts : Facts) (isBracket : Bool) (ws : List Text) : Except Fault Bool :=
  if isBracket then
    if ws.getLast? = some [']'] then holds facts ws.dropLast else .error .missingBracket
  else holds facts ws

end Condition

/-- Test a condition. -/
def Tools.test : Tool Nat := do
  let job ← read
  let facts := Condition.Facts.ofTree .program (← Tool.tree) job.place fun _ => false
  let isBracket := job.name.getLast? = some '['
  match Condition.ofCall facts isBracket job.arguments with
  | .ok b => return if b then 0 else 1
  | .error fault => Tool.fail (fault.message .program) 2

end ComponentFile
