import ComponentFile.Regex.Reader
import ComponentFile.Regex.Search
import ComponentFile.Tools.Condition

/-!
# Tools for words and numbers

## Main definitions

* `Tools.echoText` : what `echo` prints.
* `Tools.echo`, `Tools.printf` : printing words.
* `Tools.expr` : calculating with words.
* `Tools.seq` : numbers in a row.
* `Tools.basename`, `Tools.dirname` : the two parts of a path.
-/

namespace ComponentFile.Tools

open Text Tool

/-- Words with spaces between them. -/
def spacedWords (ws : List Text) : Text :=
  [' '].intercalate ws

/-! ### Printing -/

/-- The options of `echo` among its first words: whether a line end is written, whether escapes
are replaced, and the other words. -/
def echoOptions (lineEnd escapes : Bool) : List Text → Bool × Bool × List Text
  | ('-' :: c :: t) :: rest =>
    if (c :: t).all fun d => d == 'n' || d == 'e' || d == 'E' then
      let lineEnd := lineEnd && !(c :: t).any (· == 'n')
      let escapes := (c :: t).foldl (fun b d =>
        if d = 'e' then true else if d = 'E' then false else b) escapes
      echoOptions lineEnd escapes rest
    else (lineEnd, escapes, ('-' :: c :: t) :: rest)
  | ws => (lineEnd, escapes, ws)

/-- What `echo` prints.  The plain shell always replaces escapes and knows one option. -/
def echoText (m : Manner) (ws : List Text) : Text :=
  let (lineEnd, escapes, ws) := if m = .posix then
      if ws.head? = some ['-', 'n'] then (false, true, ws.drop 1) else (true, true, ws)
    else echoOptions true false ws
  let t := spacedWords ws
  let (t, stops) := if escapes then Escapes.plain m t else (t, false)
  t ++ if lineEnd && !stops then ['\n'] else []

/-- Print words. -/
def echo : Tool Nat := do
  say (echoText .program (← read).arguments)
  return 0

/-- Print by a format. -/
def printf : Tool Nat := do
  let arguments := (← read).arguments
  match if arguments.head? = some ['-', '-'] then arguments.drop 1 else arguments with
  | [] => missingOperand
  | format :: rest =>
    let (t, faults) := Format.print .program format rest
    say t
    faults.forM fun fault => complain (fault.message .program)
    return if faults.isEmpty then 0 else 1

/-- A row of lines that is longer than anyone asks for. -/
def yes : Tool Nat := do
  let arguments := (← read).arguments
  let line := (if arguments.isEmpty then ['y'] else spacedWords arguments) ++ ['\n']
  say (List.replicate (262144 / line.length + 1) line).flatten
  return 0

/-! ### Calculating -/

namespace Expr

/-- Why words cannot be calculated. -/
inductive Fault where
  | missing (before : Text)
  | unexpected (word : Text)
  | unclosed (before : Text)
  | notInteger
  | byZero
  | regex (fault : Regex.Fault)

/-- The wording of a fault. -/
def Fault.message : Fault → Text
  | missing before => "syntax error: missing argument after ".toList ++ quotedPlain before
  | unexpected word => "syntax error: unexpected argument ".toList ++ quotedPlain word
  | unclosed before => "syntax error: expecting ')' after ".toList ++ quotedPlain before
  | notInteger => "non-integer argument".toList
  | byZero => "division by zero".toList
  | regex fault => fault.message.toList

/-- A value, the word before the ones that are left, and the ones that are left. -/
abbrev Step := Except Fault (Text × Text × List Text)

/-- Whether a value counts as false. -/
def isNull (t : Text) : Bool :=
  t.isEmpty || (let u := if t.head? = some '-' then t.drop 1 else t
    !u.isEmpty && u.all (· == '0'))

/-- The value of a truth value. -/
def ofBool (b : Bool) : Text := if b then ['1'] else ['0']

/-- What a regular expression matches at the front of a text: its first group, or how much. -/
def matching (t pattern : Text) : Except Fault Text :=
  match Regex.read {} pattern with
  | .error fault => .error (.regex fault)
  | .ok r =>
    let f : Pattern := ⟨r, false, false⟩
    match f.matchAt r.refers true (.start t) with
    | none => .ok (if r.groups > 0 then [] else ['0'])
    | some found =>
      .ok (if r.groups > 0 then (found.captures.lookup 1).getD []
        else ofNat found.stop.index)

/-- The value of an operator between two values. -/
def operate (op a b : Text) : Except Fault Text :=
  let numbers (f : Int → Int → Except Fault Text) : Except Fault Text :=
    match int? a, int? b with
    | some x, some y => f x y
    | _, _ => .error .notInteger
  let order : Ordering := match int? a, int? b with
    | some x, some y => compare x y
    | _, _ => if a = b then .eq else if Text.le a b then .lt else .gt
  match String.ofList op with
  | "+" => numbers fun x y => .ok (ofInt (x + y))
  | "-" => numbers fun x y => .ok (ofInt (x - y))
  | "*" => numbers fun x y => .ok (ofInt (x * y))
  | "/" => numbers fun x y => if y = 0 then .error .byZero else .ok (ofInt (x.tdiv y))
  | "%" => numbers fun x y => if y = 0 then .error .byZero else .ok (ofInt (x.tmod y))
  | ":" => matching a b
  | "<" => .ok (ofBool (order == .lt))
  | "<=" => .ok (ofBool (order != .gt))
  | ">" => .ok (ofBool (order == .gt))
  | ">=" => .ok (ofBool (order != .lt))
  | "!=" => .ok (ofBool (order != .eq))
  | "&" => .ok (if isNull a || isNull b then ['0'] else a)
  | "|" => .ok (if !isNull a then a else if !isNull b then b else ['0'])
  | _ => .ok (ofBool (order == .eq))

/-- The operators, those that bind least first. -/
def levels : List (List String) :=
  [["|"], ["&"], ["<", "<=", "=", "==", "!=", ">=", ">"], ["+", "-"], ["*", "/", "%"], [":"]]

/-- Operators of one level and what stands behind them, after a first value. -/
def chain (ops : List String) (next : Text → List Text → Step) :
    Nat → Text → Text → List Text → Step
  | 0, a, before, ws => .ok (a, before, ws)
  | fuel + 1, a, before, ws =>
    match ws with
    | op :: rest =>
      if ops.any fun o => o.toList == op then do
        let (b, before, rest) ← next op rest
        let skipped := (op = ['|'] && !isNull a) || (op = ['&'] && isNull a)
        let value ← if skipped then .ok (if op = ['|'] then a else ['0']) else operate op a b
        chain ops next fuel value before rest
      else .ok (a, before, ws)
    | [] => .ok (a, before, [])

/-- The value of the words of all levels from one on. -/
def level (word : Text → List Text → Step) : List (List String) → Text → List Text → Step
  | [], before, ws => word before ws
  | ops :: more, before, ws => do
    let next := level word more
    let (a, before, rest) ← next before ws
    chain ops next rest.length a before rest

/-- The place of the first character of a text that is in a set, counted from one. -/
def indexOf (t set : Text) : Nat :=
  ((t.findIdx? fun c => set.any (· == c)).map (· + 1)).getD 0

/-- A part of a text, from a place that is counted from one. -/
def substring (t start length : Text) : Text :=
  match int? start, int? length with
  | some s, some n => if s ≤ 0 || n ≤ 0 then [] else (t.drop (s.toNat - 1)).take n.toNat
  | _, _ => []

/-- The value of a word, of a function or of words in parentheses. -/
def word : Nat → Text → List Text → Step
  | 0, before, _ => .error (.missing before)
  | fuel + 1, before, ws =>
    let self := word fuel
    match ws with
    | [] => .error (.missing before)
    | w :: rest =>
      match String.ofList w with
      | "(" => do
        let (v, before, rest) ← level self levels w rest
        match rest with
        | [')'] :: rest => return (v, [')'], rest)
        | [] => .error (.unclosed before)
        | v :: _ => .error (.unclosed (if v.isEmpty then before else before))
      | ")" => .error (.unexpected w)
      | "+" =>
        match rest with
        | v :: rest => .ok (v, v, rest)
        | [] => .error (.missing w)
      | "length" => do
        let (v, before, rest) ← self w rest
        return (ofNat v.length, before, rest)
      | "match" => do
        let (a, before, rest) ← self w rest
        let (b, before, rest) ← self before rest
        return (← matching a b, before, rest)
      | "index" => do
        let (a, before, rest) ← self w rest
        let (b, before, rest) ← self before rest
        return (ofNat (indexOf a b), before, rest)
      | "substr" => do
        let (a, before, rest) ← self w rest
        let (b, before, rest) ← self before rest
        let (c, before, rest) ← self before rest
        return (substring a b c, before, rest)
      | _ => .ok (w, w, rest)

/-- The value of words. -/
def value (ws : List Text) : Except Fault Text := do
  let (v, _, rest) ← level (word (ws.length + 1)) levels [] ws
  match rest with
  | [] => return v
  | w :: _ => .error (.unexpected w)

end Expr

/-- Calculate. -/
def expr : Tool Nat := do
  let arguments := (← read).arguments
  let ws := if arguments.head? = some ['-', '-'] then arguments.drop 1 else arguments
  if ws.isEmpty then misuse "missing operand".toList 2
  else
    match Expr.value ws with
    | .error fault => fail fault.message 2
    | .ok v =>
      say (v ++ ['\n'])
      return if Expr.isNull v then 1 else 0

/-! ### Rows of numbers -/

/-- A decimal fraction: an integer and the number of its digits behind the point. -/
structure DecimalFraction where
  digits : Int
  places : Nat
  deriving DecidableEq, Repr

/-- The decimal fraction that a text is. -/
def DecimalFraction.ofText? (t : Text) : Option DecimalFraction :=
  let negative := t.head? = some '-'
  let u := if negative || t.head? = some '+' then t.drop 1 else t
  let (whole, fraction) := match cut? ['.'] u with
    | some parts => parts
    | none => (u, [])
  (nat? (whole ++ fraction)).map fun n => ⟨if negative then -(n : Int) else n, fraction.length⟩

/-- The integer that a decimal fraction is with more places. -/
def DecimalFraction.scaled (d : DecimalFraction) (places : Nat) : Int :=
  d.digits * Nat.pow 10 (places - d.places)

/-- An integer with a point before the last places. -/
def fractionText (places : Nat) (i : Int) : Text :=
  (if i < 0 then ['-'] else []) ++ Layout.pointed false places (ofNat i.natAbs)

/-- Print the numbers from one to another. -/
def seq : Tool Nat := fun job =>
  let isNumber (t : Text) : Bool := (DecimalFraction.ofText? t).isSome
  let options := job.arguments.takeWhile fun a => !isNumber a && a.head? = some '-'
  let valued := options.getLast?.any fun o => o = ['-', 's'] || o = ['-', 'f']
  let taken := options.length + if valued then 1 else 0
  let rest := job.arguments.drop taken
  (withOptions ⟨"ws:f:", [("equal-width", 'w', .never), ("separator", 's', .always),
    ("format", 'f', .always)], false⟩ 1 fun options operands => do
    let operands := operands ++ rest
    match operands.find? fun t => !isNumber t with
    | some bad => misuse ("invalid floating point argument: ".toList ++ quotedPlain bad) 1
    | none =>
      let numbers := operands.filterMap DecimalFraction.ofText?
      let one : DecimalFraction := ⟨1, 0⟩
      let bounds := match numbers with
        | [last] => some (one, one, last)
        | [first, last] => some (first, one, last)
        | [first, step, last] => some (first, step, last)
        | _ => none
      match bounds with
      | none =>
        match operands[3]? with
        | some extra => extraOperand extra
        | none => missingOperand
      | some (first, step, last) =>
        let places := max first.places step.places
        let exact := max places last.places
        let a := first.scaled exact
        let d := step.scaled exact
        let b := last.scaled exact
        if d = 0 then
          misuse ("invalid Zero increment value: ".toList ++
            quotedPlain (operands[1]?.getD [])) 1
        else
          let count := if (d > 0 && a > b) || (d < 0 && a < b) then 0 else ((b - a) / d).toNat + 1
          let count := if d < 0 && a ≥ b then ((a - b) / (-d)).toNat + 1 else count
          let values := (List.range count).map fun (i : Nat) => a + d * i
          let shown (i : Int) : Text :=
            fractionText places (i / Nat.pow 10 (exact - places))
          let texts : List Text := match valueOf? options 'f' with
            | some format => values.map fun i =>
                (Format.print .program format [fractionText exact i]).1
            | none => values.map shown
          let texts := if given options 'w' then
              let width := ([a, a + d * ((count : Int) - 1)].map fun i =>
                (shown i).length).foldl max 0
              texts.map fun (t : Text) =>
                if t.head? = some '-' then '-' :: padLeft (width - 1) '0' (t.drop 1)
                else padLeft width '0' t
            else texts
          let separator := (valueOf? options 's').getD ['\n']
          if !texts.isEmpty then say (separator.intercalate texts ++ ['\n'])
          return 0) { job with arguments := job.arguments.take taken }

/-! ### Paths -/

/-- A path without slashes at its end, unless it is a slash. -/
def withoutSlashes (t : Text) : Text :=
  let kept := (t.reverse.dropWhile (· == '/')).reverse
  if kept.isEmpty && !t.isEmpty then ['/'] else kept

/-- The last part of a path. -/
def lastPart (t : Text) : Text :=
  let t := withoutSlashes t
  if t = ['/'] then t else (t.reverse.takeWhile (· != '/')).reverse

/-- A text without a suffix, unless it is all there is. -/
def withoutSuffix (suffix t : Text) : Text :=
  if suffix.isSuffixOf t && suffix.length < t.length then t.take (t.length - suffix.length) else t

/-- The part of a path before its last part. -/
def outerPart (t : Text) : Text :=
  let t := withoutSlashes t
  let outer := (t.reverse.dropWhile (· != '/')).reverse
  if outer.isEmpty then if t = ['/'] then t else ['.'] else withoutSlashes outer

/-- Print the last parts of paths. -/
def basename : Tool Nat :=
  withOptions ⟨"as:z", [("multiple", 'a', .never), ("suffix", 's', .always), ("zero", 'z', .never)],
    false⟩ 1 fun options operands => do
    let suffix := valueOf? options 's'
    let ending := if given options 'z' then '\x00' else '\n'
    if operands.isEmpty then missingOperand
    else if given options 'a' || suffix.isSome then
      operands.forM fun t => say (withoutSuffix (suffix.getD []) (lastPart t) ++ [ending])
      return 0
    else
      match operands with
      | [t] =>
        say (lastPart t ++ [ending])
        return 0
      | [t, suffix] =>
        say (withoutSuffix suffix (lastPart t) ++ [ending])
        return 0
      | _ => extraOperand (operands[2]?.getD [])

/-- Print paths without their last parts. -/
def dirname : Tool Nat :=
  withOptions ⟨"z", [("zero", 'z', .never)], false⟩ 1 fun options operands => do
    let ending := if given options 'z' then '\x00' else '\n'
    if operands.isEmpty then missingOperand
    else
      operands.forM fun t => say (outerPart t ++ [ending])
      return 0

end ComponentFile.Tools
