import ComponentFile.Shell.Syntax
import ComponentFile.Text.Numeral

/-!
# Calculations

Numbers have 64 bits.  The extended language has more operators than the plain one, and texts that
are the values of names are calculated there in turn.

## Main definitions

* `Shell.Arith`, `Shell.Arith.read` : calculations, and how they are read.
* `Shell.Arith.eval` : their value, given a memory for names.
-/

namespace ComponentFile.Shell

open Text

/-- A calculation.  Where it can fail, the text is kept that the failure is near to.  The index of
an element is a text, which is calculated only if the element is not that of a table. -/
inductive Arith where
  | number (n : Int)
  | name (n : Text)
  | element (n index : Text)
  | unary (op : Char) (a : Arith)
  | binary (op : String) (near : Text) (a b : Arith)
  | both (a b : Arith)
  | either (a b : Arith)
  | choose (condition a b : Arith)
  | assign (op : Option String) (near : Text) (target value : Arith)
  | change (before : Bool) (amount : Int) (target : Arith)
  | comma (a b : Arith)
  deriving Repr

/-- Why a calculation fails, with the text that the failure is near to. -/
inductive ArithFault where
  | primary (near : Text)
  | trailing (near : Text)
  | badOperator (near : Text)
  | parenthesis (near : Text)
  | colon (near : Text)
  | branch (near : Text)
  | byZero (near : Text)
  | target (near : Text)
  | tooGreat (numeral : Text)
  | exponent (near : Text)
  | recursion (near : Text)
  | subscript (near : Text)
  | illegalNumber (value : Text)

/-- The wording of a fault of a calculation. -/
def ArithFault.message (dialect : Dialect) (calculation : Text) (fault : ArithFault) : Text :=
  let plain (m : String) : Text :=
    "arithmetic expression: ".toList ++ m.toList ++ ": \"".toList ++ calculation ++ ['"']
  let shown := calculation.dropWhile isGap
  let extended (m : String) (near : Text) : Text :=
    shown ++ ": ".toList ++ m.toList ++ " (error token is \"".toList ++ near ++ "\")".toList
  match dialect, fault with
  | .plain, .primary _ => plain "expecting primary"
  | .plain, .trailing _ => plain "expecting EOF"
  | .plain, .badOperator _ => plain "expecting EOF"
  | .plain, .parenthesis _ => plain "expecting ')'"
  | .plain, .colon _ => plain "expecting ':'"
  | .plain, .branch _ => plain "expecting primary"
  | .plain, .byZero _ => plain "division by zero"
  | .plain, .illegalNumber value => "Illegal number: ".toList ++ value
  | .plain, _ => plain "expecting EOF"
  | .extended, .primary near => extended "syntax error: operand expected" near
  | .extended, .trailing near => extended "syntax error in expression" near
  | .extended, .badOperator near => extended "syntax error: invalid arithmetic operator" near
  | .extended, .parenthesis near => extended "missing \x60)'" near
  | .extended, .colon near => extended "\x60:' expected for conditional expression" near
  | .extended, .branch near => extended "expression expected" near
  | .extended, .byZero near => extended "division by 0" near
  | .extended, .target near => extended "attempted assignment to non-variable" near
  | .extended, .tooGreat numeral => extended "value too great for base" numeral
  | .extended, .exponent near => extended "exponent less than 0" near
  | .extended, .subscript near => extended "bad array subscript" near
  | .extended, .recursion near => extended "expression recursion level exceeded" near
  | .extended, .illegalNumber value => extended "syntax error: operand expected" value

namespace Arith

/-! ### Reading -/

/-- What is left of a calculation, and the text from its last token on. -/
structure Scan where
  dialect : Dialect
  rest : Text
  last : Text

/-- Reading a calculation. -/
abbrev Reader := StateT Scan (Except ArithFault)

/-- The operators, the longest first. -/
def signs (dialect : Dialect) : List String :=
  let common := ["<<=", ">>=", "<<", ">>", "<=", ">=", "==", "!=", "&&", "||", "+=", "-=", "*=",
    "/=", "%=", "&=", "|=", "^=", "+", "-", "*", "/", "%", "<", ">", "=", "!", "~", "&", "|", "^",
    "?", ":", "(", ")"]
  match dialect with
  | .plain => common
  | .extended => ["**", "++", "--"] ++ common ++ [",", "]"]

/-- The operator that comes next. -/
def peek : Reader (Option String) := do
  modify fun s =>
    let rest := s.rest.dropWhile isWhite
    { s with rest := rest, last := if rest.isEmpty then s.last else rest }
  let s ← get
  return (signs s.dialect).find? fun sign => Text.startsWith sign s.rest

/-- Go on behind an operator. -/
def accept (sign : String) : Reader Unit :=
  modify fun s => { s with rest := s.rest.drop sign.length }

/-- Whether a certain operator comes next, which is then read. -/
def take (sign : String) : Reader Bool := do
  if (← peek) == some sign then
    accept sign
    return true
  else return false

/-- Stop reading. -/
def failAt {α : Type} (fault : Text → ArithFault) : Reader α := do
  throw (fault (← get).last)

/-- The value of a character as a digit of a numeral with its base. -/
def digitOf (base : Nat) (c : Char) : Option Nat :=
  let value := if c.isDigit then some (c.toNat - 48)
    else if 'a' ≤ c && c ≤ 'z' then some (c.toNat - 87)
    else if 'A' ≤ c && c ≤ 'Z' then some (if base ≤ 36 then c.toNat - 55 else c.toNat - 29)
    else if c = '@' then some 62
    else if c = '_' then some 63
    else none
  value.filter (· < base)

/-- The number that digits are in a base. -/
def numberIn? (base : Nat) (digits : Text) : Option Nat :=
  digits.foldlM (fun n c => (digitOf base c).map fun d => n * base + d) 0

/-- The base of a numeral and its digits. -/
def baseAndDigits (numeral : Text) : Nat × Text :=
  match numeral with
  | '0' :: 'x' :: digits => (16, digits)
  | '0' :: 'X' :: digits => (16, digits)
  | '0' :: c :: digits => (8, c :: digits)
  | _ => (10, numeral)

/-- Read a number in the plain language: as many characters as make sense. -/
def readPlainNumber : Reader Arith := do
  let t := (← get).rest
  let (base, digits) := match t with
    | '0' :: 'x' :: rest => if rest.head?.any fun c => (digitIn? 16 c).isSome then (16, rest)
      else (8, t)
    | '0' :: 'X' :: rest => if rest.head?.any fun c => (digitIn? 16 c).isSome then (16, rest)
      else (8, t)
    | '0' :: _ => (8, t)
    | _ => (10, t)
  let digits := digits.takeWhile fun c => (digitIn? base c).isSome
  let length := digits.length + if base = 16 then 2 else 0
  modify fun s => { s with rest := s.rest.drop length }
  return .number (clamp64 ((natIn? base digits).getD 0))

/-- Read a number in the extended language. -/
def readExtendedNumber : Reader Arith := do
  let t := (← get).rest
  let numeral := t.takeWhile fun c => isNameChar c || c == '#' || c == '@'
  modify fun s => { s with rest := s.rest.drop numeral.length }
  let (base, digits) := match cut? ['#'] numeral with
    | some (base, digits) => ((nat? base).getD 0, digits)
    | none => baseAndDigits numeral
  match if base < 2 || base > 64 then none else numberIn? base digits with
  | some n => return .number (wrap64 n)
  | none => throw (.tooGreat numeral)

/-- The operators that bind two values, with how strongly they bind. -/
def strength? (dialect : Dialect) (sign : String) : Option Nat :=
  match sign with
  | "||" => some 1
  | "&&" => some 2
  | "|" => some 3
  | "^" => some 4
  | "&" => some 5
  | "==" => some 6
  | "!=" => some 6
  | "<" => some 7
  | "<=" => some 7
  | ">" => some 7
  | ">=" => some 7
  | "<<" => some 8
  | ">>" => some 8
  | "+" => some 9
  | "-" => some 9
  | "*" => some 10
  | "/" => some 10
  | "%" => some 10
  | "**" => if dialect = .extended then some 11 else none
  | _ => none

/-- The operator of an assignment. -/
def assignmentOp? (sign : String) : Option (Option String) :=
  match sign with
  | "=" => some none
  | "+=" => some (some "+")
  | "-=" => some (some "-")
  | "*=" => some (some "*")
  | "/=" => some (some "/")
  | "%=" => some (some "%")
  | "<<=" => some (some "<<")
  | ">>=" => some (some ">>")
  | "&=" => some (some "&")
  | "|=" => some (some "|")
  | "^=" => some (some "^")
  | _ => none

/-- Whether a calculation is something that can be assigned to. -/
def isTarget : Arith → Bool
  | name _ => true
  | element _ _ => true
  | _ => false

/-- A calculation with an operator between two others. -/
def combine (sign : String) (near : Text) (a b : Arith) : Arith :=
  match sign with
  | "&&" => .both a b
  | "||" => .either a b
  | _ => .binary sign near a b

/-- Read operators that bind at least so strongly, and what follows them, behind a value. -/
def readChain (self : Nat → Reader Arith) (low : Nat) (a : Arith) : Nat → Reader Arith
  | 0 => return a
  | fuel + 1 => do
    let sign ← peek
    match sign, sign.bind (strength? (← get).dialect) with
    | some sign, some n =>
      if n < low then return a
      else
        accept sign
        let _ ← peek
        let near := (← get).last
        let b ← self (if n = 11 then 11 else n + 1)
        readChain self low (combine sign near a b) fuel
    | _, _ => return a

/-- The text up to the bracket that ends an index, and what stands behind it: `depth` counts the
open brackets. -/
def insideBrackets (depth : Nat) (done : Text) : Text → Option (Text × Text)
  | [] => none
  | c :: t =>
    if c = ']' then
      match depth with
      | 0 => some (done.reverse, t)
      | n + 1 => insideBrackets n (c :: done) t
    else insideBrackets (if c = '[' then depth + 1 else depth) (c :: done) t

/-- Read a value with the signs before and behind it. -/
def readOperand (whole : Reader Arith) : Nat → Reader Arith
  | 0 => failAt .primary
  | fuel + 1 => do
    let self := readOperand whole fuel
    let sign ← peek
    let s ← get
    match sign with
    | some "(" =>
      accept "("
      let a ← whole
      if !(← take ")") then failAt .parenthesis
      return a
    | some "-" => do
      accept "-"
      return .unary '-' (← self)
    | some "+" => do
      accept "+"
      self
    | some "!" => do
      accept "!"
      return .unary '!' (← self)
    | some "~" => do
      accept "~"
      return .unary '~' (← self)
    | some "++" => readChange "++" 1 self
    | some "--" => readChange "--" (-1) self
    | _ =>
      match s.rest with
      | c :: _ =>
        if c.isDigit then
          match s.dialect with
          | .plain => readPlainNumber
          | .extended => readExtendedNumber
        else if c.isAlpha || c = '_' then
          let n := s.rest.takeWhile isNameChar
          modify fun s => { s with rest := s.rest.drop n.length }
          if s.dialect = .plain then return .name n
          else
            let target ← match (← get).rest with
              | '[' :: t => do
                match insideBrackets 0 [] t with
                | some (index, rest) =>
                  modify fun s => { s with rest := rest }
                  pure (.element n index)
                | none =>
                  modify fun s => { s with last := n ++ s.rest }
                  failAt .subscript
              | _ => pure (.name n)
            match ← peek with
            | some "++" =>
              accept "++"
              return .change false 1 target
            | some "--" =>
              accept "--"
              return .change false (-1) target
            | _ => return target
        else failAt .primary
      | [] => failAt .primary
where
  /-- A value that is changed before it is used, or two signs before a value. -/
  readChange (sign : String) (amount : Int) (self : Reader Arith) : Reader Arith := do
    accept sign
    let a ← self
    return if isTarget a then .change true amount a
      else if amount < 0 then .unary '-' (.unary '-' a) else a

/-- Read a whole calculation that is nested to a depth. -/
def readWhole : Nat → Reader Arith
  | 0 => failAt .primary
  | depth + 1 => fun s =>
    let inner := readWhole depth
    let single := assignment inner depth
    (do
      let first ← single
      commas single first (s.rest.length + 1)).run s
where
  /-- Operators of all strengths. -/
  chain (whole : Reader Arith) : Nat → Nat → Reader Arith
    | 0, _ => failAt .primary
    | n + 1, low => do
      let fuel := (← get).rest.length + 1
      let first ← readOperand whole fuel
      readChain (chain whole n) low first fuel
  /-- A choice between two values. -/
  choice (whole : Reader Arith) : Nat → Reader Arith
    | 0 => failAt .primary
    | n + 1 => do
      let condition ← chain whole n 1
      if ← take "?" then
        let a ← whole
        if !(← take ":") then failAt .colon
        let s ← get
        if s.dialect = .extended && (s.rest.all isWhite) then failAt .branch
        return .choose condition a (← assignment whole n)
      else return condition
  /-- An assignment, or another value. -/
  assignment (whole : Reader Arith) : Nat → Reader Arith
    | 0 => failAt .primary
    | n + 1 => do
      let a ← choice whole n
      match (← peek).bind assignmentOp?, ← peek with
      | some op, some sign =>
        let s ← get
        if !isTarget a then
          if s.dialect = .extended then failAt .target else failAt .trailing
        accept sign
        let _ ← peek
        let near := (← get).last
        return .assign op near a (← assignment whole n)
      | _, _ => return a
  /-- Values of which only the last one counts. -/
  commas (single : Reader Arith) (a : Arith) : Nat → Reader Arith
    | 0 => return a
    | fuel + 1 => do
      if (← peek) == some "," then
        accept ","
        commas single (.comma a (← single)) fuel
      else return a

/-- The calculation that a text is. -/
def read (dialect : Dialect) (t : Text) : Except ArithFault Arith :=
  if dialect = .extended && t.all isWhite then .ok (.number 0)
  else
    let whole : Reader Arith := do
      let a ← readWhole 200
      let sign ← peek
      let s ← get
      match s.rest with
      | [] => return a
      | c :: _ =>
        if sign.isNone && !isNameChar c then failAt .badOperator
        else failAt .trailing
    (whole.run ⟨dialect, t, t.dropWhile isWhite⟩).map Prod.fst

/-! ### Values -/

/-- What an element is found by: a number, or the key of a table. -/
inductive Key where
  | number (i : Int)
  | text (t : Text)

/-- How a calculation reads and writes names, what the index of an element stands for, and how the
calculation fails. -/
structure Memory (m : Type → Type) where
  key : Text → Text → m Key
  read : Text → Option Key → m Int
  write : Text → Option Key → Int → m Unit
  fail : ArithFault → m Int

/-- The bits of an integer as a natural number. -/
def bits (i : Int) : Nat := (i % 18446744073709551616).toNat

/-- A power, with the bits above lost. -/
def power (a : Int) : Nat → Int → Int
  | 0, r => r
  | n + 1, r => power a n (wrap64 (r * a))

/-- The value of a truth value. -/
def ofBool (b : Bool) : Int := if b then 1 else 0

/-- The value of an operator between two values. -/
def operate (op : String) (near : Text) (a b : Int) : Except ArithFault Int :=
  match op with
  | "+" => .ok (wrap64 (a + b))
  | "-" => .ok (wrap64 (a - b))
  | "*" => .ok (wrap64 (a * b))
  | "/" => if b = 0 then .error (.byZero near) else .ok (wrap64 (a.tdiv b))
  | "%" => if b = 0 then .error (.byZero near) else .ok (wrap64 (a.tmod b))
  | "<<" => .ok (wrap64 (a * Int.ofNat (Nat.pow 2 (bits b % 64))))
  | ">>" => .ok (a / Int.ofNat (Nat.pow 2 (bits b % 64)))
  | "<" => .ok (ofBool (a < b))
  | "<=" => .ok (ofBool (a ≤ b))
  | ">" => .ok (ofBool (a > b))
  | ">=" => .ok (ofBool (a ≥ b))
  | "==" => .ok (ofBool (a == b))
  | "!=" => .ok (ofBool (a != b))
  | "&" => .ok (wrap64 (Nat.land (bits a) (bits b)))
  | "|" => .ok (wrap64 (Nat.lor (bits a) (bits b)))
  | "^" => .ok (wrap64 (Nat.xor (bits a) (bits b)))
  | "**" =>
    if b < 0 then .error (.exponent near)
    else if a = 0 || a = 1 then .ok (if b = 0 then 1 else a)
    else .ok (power a (min b.toNat 4096) 1)
  | _ => .ok 0

/-- The value of a calculation. -/
def eval {m : Type → Type} [Monad m] (memory : Memory m) : Arith → m Int
  | number n => pure n
  | name n => memory.read n none
  | element n index => do
    let key ← memory.key n index
    memory.read n (some key)
  | unary op a => do
    let v ← eval memory a
    return match op with
      | '-' => wrap64 (-v)
      | '!' => ofBool (v == 0)
      | _ => -v - 1
  | binary op near a b => do
    let x ← eval memory a
    let y ← eval memory b
    match operate op near x y with
    | .ok v => return v
    | .error fault => memory.fail fault
  | both a b => do
    if (← eval memory a) = 0 then return 0
    return ofBool ((← eval memory b) != 0)
  | either a b => do
    if (← eval memory a) != 0 then return 1
    return ofBool ((← eval memory b) != 0)
  | choose condition a b => do
    if (← eval memory condition) != 0 then eval memory a else eval memory b
  | assign op near target value => do
    let (n, index) ← match target with
      | .element n i => do pure (n, some (← memory.key n i))
      | .name n => pure (n, none)
      | _ => pure ([], none)
    let before ← if op.isSome then memory.read n index else pure 0
    let v ← eval memory value
    match op with
    | none =>
      memory.write n index v
      return v
    | some op =>
      match operate op near before v with
      | .ok v =>
        memory.write n index v
        return v
      | .error fault => memory.fail fault
  | change before amount target => do
    let (n, index) ← match target with
      | .element n i => do pure (n, some (← memory.key n i))
      | .name n => pure (n, none)
      | _ => pure ([], none)
    let old ← memory.read n index
    let new := wrap64 (old + amount)
    memory.write n index new
    return if before then new else old
  | comma a b => do
    let _ ← eval memory a
    eval memory b

end Arith

end ComponentFile.Shell
