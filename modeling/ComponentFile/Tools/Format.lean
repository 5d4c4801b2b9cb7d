import ComponentFile.Decimal.Layout
import ComponentFile.Text.Calendar

/-!
# Output by a format

Formats hold text with escapes, and directives that lay out arguments.  A format is gone through
again as long as it takes arguments and some are left.

## Main definitions

* `Manner` : the three programs that know formats, which differ in what they make of faults.
* `Escapes.plain` : a text with its escapes replaced.
* `Format.read` : the parts of a format.
* `Format.print` : what a format makes of arguments.
-/

namespace ComponentFile

open Text

/-- Who works: a program of its own, the plain shell, or the shell with more to it. -/
inductive Manner where
  | program
  | posix
  | extended
  deriving DecidableEq, Repr

namespace Escapes

/-- The character that a letter behind a backslash stands for. -/
def letter? (m : Manner) : Char → Option Char
  | 'a' => some '\x07'
  | 'b' => some '\x08'
  | 'f' => some '\x0c'
  | 'n' => some '\n'
  | 'r' => some '\x0d'
  | 't' => some '\t'
  | 'v' => some '\x0b'
  | '\\' => some '\\'
  | 'e' => some '\x1b'
  | 'E' => if m = .extended then some '\x1b' else none
  | _ => none

/-- Up to `count` digits of a radix at the front of a text, and the text behind them. -/
def digits (radix count : Nat) (t : Text) : Text × Text :=
  let found := (t.take count).takeWhile fun c => (digitIn? radix c).isSome
  (found, t.drop found.length)

/-- The character that digits stand for. -/
def coded (radix : Nat) (found : Text) : Char :=
  Char.ofNat ((natIn? radix found).getD 0 % 256)

/-- What an escape makes: text, or the end of all output. -/
inductive Made where
  | text (t : Text)
  | stop

/-- What the escape behind a backslash makes, and the text behind it.  In arguments an octal number
may have a zero in front, and more escapes end the output. -/
def read (m : Manner) (inArgument : Bool) (t : Text) : Made × Text :=
  match t with
  | [] => (.text ['\\'], [])
  | c :: u =>
    if c = 'c' && (inArgument || m = .program) then (.stop, [])
    else if c = '0' && inArgument then
      let (found, rest) := digits 8 3 u
      (.text [coded 8 found], rest)
    else if (digitIn? 8 c).isSome && !(inArgument && m = .program && c = '0') then
      let (found, rest) := digits 8 3 t
      (.text [coded 8 found], rest)
    else
      match letter? m c with
      | some d => (.text [d], u)
      | none =>
        if c = '"' && !inArgument && m ≠ .posix then (.text [c], u)
        else if c = 'x' && m ≠ .posix then
          let (found, rest) := digits 16 2 u
          if found.isEmpty then (.text ['\\', c], u) else (.text [coded 16 found], rest)
        else if (c = 'u' || c = 'U') && m ≠ .posix then
          let (found, rest) := digits 16 (if c = 'u' then 4 else 8) u
          if found.isEmpty then (.text ['\\', c], u)
          else (.text (octets [Char.ofNat ((natIn? 16 found).getD 0)]), rest)
        else (.text ['\\', c], u)

/-- A text with its escapes replaced, put behind what is known in reverse, and whether output ends
there. -/
def plainFrom (m : Manner) (done : Text) : Nat → Text → Text × Bool
  | 0, _ => (done.reverse, false)
  | fuel + 1, t =>
    match t with
    | [] => (done.reverse, false)
    | '\\' :: u =>
      match read m true u with
      | (.text made, rest) => plainFrom m (made.reverse ++ done) fuel rest
      | (.stop, _) => (done.reverse, true)
    | c :: u => plainFrom m (c :: done) fuel u

/-- A text with its escapes replaced, and whether output ends there. -/
def plain (m : Manner) (t : Text) : Text × Bool :=
  plainFrom m [] (t.length + 1) t

end Escapes

namespace Format

/-- A number in a directive: given, or taken from the arguments. -/
inductive Size where
  | given (n : Nat)
  | taken

/-- What a directive shows: an argument as a letter says, or the point of time that an argument is,
by a format of its own. -/
inductive Shown where
  | letter (c : Char)
  | moment (format : Text)

/-- A part of a format: text, the end of output, a directive, or one that makes no sense. -/
inductive Part where
  | text (t : Text)
  | stop
  | directive (l : Layout) (width precision : Option Size) (shown : Shown)
  | invalid (spec : Text) (letter : Option Char)

/-- The layout with one more flag. -/
def flag (l : Layout) : Char → Option Layout
  | '-' => some { l with left := true }
  | '+' => some { l with plus := true }
  | ' ' => some { l with blank := true }
  | '#' => some { l with alternate := true }
  | '0' => some { l with zero := true }
  | _ => none

/-- The flags at the front of a text, and the text behind them. -/
def readFlags (l : Layout) : Text → Layout × Text
  | [] => (l, [])
  | c :: t =>
    match flag l c with
    | some l => readFlags l t
    | none => (l, c :: t)

/-- A number or a star at the front of a text, and the text behind it. -/
def readSize (t : Text) : Option Size × Text :=
  match t with
  | '*' :: u => (some .taken, u)
  | _ =>
    let digits := t.takeWhile Char.isDigit
    ((nat? digits).map .given, t.drop digits.length)

/-- The letters of directives. -/
def letters (m : Manner) : Text :=
  "diouxXeEfFgGaAcsb".toList ++ if m = .posix then [] else ['q']

/-- The directive behind a percent sign, and the text behind it. -/
def readDirective (m : Manner) (t : Text) : Part × Text :=
  match t with
  | '%' :: u => (.text ['%'], u)
  | _ =>
    let (l, u) := readFlags .plain t
    let (width, u) := readSize u
    let (precision, u) := match u with
      | '.' :: v =>
        let found := readSize v
        (some (found.1.getD (.given 0)), found.2)
      | _ => (none, u)
    let v := u.dropWhile fun c => ['l', 'h', 'L', 'j', 'z', 't', 'q'].contains c && m ≠ .posix &&
      !(c = 'q' && u.head? = some 'q')
    match v with
    | c :: rest =>
      let format := rest.takeWhile (· != ')')
      if (letters m).any (· == c) then (.directive l width precision (.letter c), rest)
      else if m = .extended && c = '(' && [')', 'T'].isPrefixOf (rest.drop format.length) then
        (.directive l width precision (.moment format), rest.drop (format.length + 2))
      else (.invalid ('%' :: t.take (t.length - rest.length)) (some c), [])
    | [] => (.invalid ('%' :: t) none, [])

/-- The parts of a format, put in front of those that are known in reverse. -/
def readFrom (m : Manner) (done : List Part) : Nat → Text → List Part
  | 0, _ => done.reverse
  | fuel + 1, t =>
    match t with
    | [] => done.reverse
    | '\\' :: u =>
      match Escapes.read m false u with
      | (.text made, rest) => readFrom m (.text made :: done) fuel rest
      | (.stop, _) => (.stop :: done).reverse
    | '%' :: u =>
      let (part, rest) := readDirective m u
      readFrom m (part :: done) fuel rest
    | _ =>
      let isPlain (c : Char) : Bool := c != '\\' && c != '%'
      readFrom m (.text (t.takeWhile isPlain) :: done) fuel (t.dropWhile isPlain)

/-- The parts of a format. -/
def read (m : Manner) (t : Text) : List Part :=
  readFrom m [] (t.length + 1) t

/-! ### Arguments -/

/-- What is wrong with a format or an argument. -/
inductive Fault where
  | notNumeric (argument : Text)
  | leftover (argument : Text)
  | outOfRange (argument : Text)
  | invalid (spec : Text) (letter : Option Char)

/-- The wording of a fault. -/
def Fault.message (m : Manner) : Fault → Text
  | notNumeric a =>
    match m with
    | .program => ['\''] ++ a ++ "': expected a numeric value".toList
    | .posix => a ++ ": expected numeric value".toList
    | .extended => a ++ ": invalid number".toList
  | leftover a =>
    match m with
    | .program => ['\''] ++ a ++ "': value not completely converted".toList
    | .posix => a ++ ": not completely converted".toList
    | .extended => a ++ ": invalid number".toList
  | outOfRange a =>
    match m with
    | .program => ['\''] ++ a ++ "': Numerical result out of range".toList
    | .posix => a ++ ": Numerical result out of range".toList
    | .extended => "warning: ".toList ++ a ++ ": Numerical result out of range".toList
  | invalid spec letter =>
    match m, letter with
    | .extended, some c => "\x60".toList ++ c :: "': invalid format character".toList
    | .extended, none => "\x60".toList ++ spec.drop (spec.length - 1) ++
        "': missing format character".toList
    | .program, _ => spec ++ ": invalid conversion specification".toList
    | .posix, none => "missing format character".toList
    | .posix, some _ => spec ++ ": invalid directive".toList

/-- The integer at the front of a text, whose beginning shows its radix, and the text behind it. -/
def readInteger (t : Text) : Option (Int × Text) :=
  let t := t.dropWhile isWhite
  let negative := t.head? = some '-'
  let u := if negative || t.head? = some '+' then t.drop 1 else t
  let (radix, v) := match u with
    | '0' :: x :: w =>
      if (x = 'x' || x = 'X') && w.head?.any fun c => (hexDigit? c).isSome then (16, w)
      else (8, u)
    | _ => (10, u)
  let digits := v.takeWhile fun c => (digitIn? radix c).isSome
  (natIn? radix digits).map fun n =>
    (if negative then -(n : Int) else n, v.drop digits.length)

/-- What is wrong with an argument behind a number. -/
def leftoverFault (argument rest : Text) : List Fault :=
  if rest.isEmpty then [] else [.leftover argument]

/-- The code of the character behind a quotation mark at the front of an argument. -/
def quotedCode? (argument : Text) : Option Nat :=
  match argument with
  | c :: rest =>
    if c = '\'' || c = '"' then some ((rest.head?.map Char.toNat).getD 0) else none
  | [] => none

/-- The integer that an argument is, and what is wrong with it. -/
def integer (m : Manner) (isSigned : Bool) (argument : Option Text) : Int × List Fault :=
  match argument with
  | none => (0, [])
  | some a =>
    match quotedCode? a with
    | some n => (n, [])
    | none =>
      match readInteger a with
      | none => (0, if a.isEmpty && m ≠ .program then [] else [.notNumeric a])
      | some (n, rest) =>
        let top := if isSigned then maxInt64 else 2 * maxInt64 + 1
        let low := -maxInt64 - 1
        if n > top then (top, [.outOfRange a])
        else if n < low then (if isSigned then low else top, [.outOfRange a])
        else (n, leftoverFault a rest)

/-- The quantity that an argument is, and what is wrong with it. -/
def quantity (m : Manner) (argument : Option Text) : Quantity × List Fault :=
  let zero : Quantity := .finite false 0 1
  match argument with
  | none => (zero, [])
  | some a =>
    match quotedCode? a with
    | some n => (.finite false n 1, [])
    | none =>
      match Quantity.read (a.dropWhile isWhite) with
      | none => (zero, if a.isEmpty && m ≠ .program then [] else [.notNumeric a])
      | some (q, rest) => (q.rounded (if m = .posix then 53 else 64), leftoverFault a rest)

/-- Whether a character needs no quotation marks. -/
def isSafe (c : Char) : Bool :=
  c.isAlphanum || "%+,-./:=@_^".toList.any (· == c)

/-- Whether a text has characters that are shown by escapes only. -/
def needsEscapes (t : Text) : Bool :=
  t.any fun c => c.toNat < 32 || c.toNat ≥ 127

/-- A text between a dollar sign with a quotation mark and another one, with escapes. -/
def escaped (t : Text) : Text :=
  let letters : List (Nat × Char) :=
    [(7, 'a'), (8, 'b'), (9, 't'), (10, 'n'), (11, 'v'), (12, 'f'), (13, 'r'), (27, 'E'),
      (39, '\''), (92, '\\')]
  "$'".toList ++ t.flatMap (fun c =>
    match letters.lookup c.toNat with
    | some letter => ['\\', letter]
    | none =>
      if needsEscapes [c] then '\\' :: padLeft 3 '0' (Nat.toDigits 8 c.toNat) else [c]) ++ ['\'']

/-- A text as it can be put into a script. -/
def reusable (m : Manner) (t : Text) : Text :=
  if t.isEmpty then ['\'', '\'']
  else if t.all isSafe then t
  else if m = .extended then
    if needsEscapes t then escaped t else t.flatMap fun c => if isSafe c then [c] else ['\\', c]
  else if t.any (· == '\'') && !t.any fun c => "\"$\\".toList.any (· == c) || c.toNat = 0x60 then
    '"' :: t ++ ['"']
  else '\'' :: t.flatMap (fun c => if c = '\'' then "'\\''".toList else [c]) ++ ['\'']

/-! ### Printing -/

/-- What has been printed, in pieces with the last one first, the arguments that are left, what was
wrong, and whether output has ended. -/
structure Printed where
  pieces : List Text
  left : List Text
  faults : List Fault
  ended : Bool

/-- Take an argument. -/
def Printed.take (p : Printed) : Option Text × Printed :=
  (p.left.head?, { p with left := p.left.drop 1 })

/-- Print a piece. -/
def Printed.put (p : Printed) (t : Text) : Printed :=
  { p with pieces := t :: p.pieces }

/-- Note what is wrong. -/
def Printed.note (p : Printed) (faults : List Fault) : Printed :=
  { p with faults := faults.reverse ++ p.faults }

/-- The number that a size stands for. -/
def Printed.size (m : Manner) (p : Printed) : Option Size → Option Int × Printed
  | none => (none, p)
  | some (.given n) => (some n, p)
  | some .taken =>
    let (a, p) := p.take
    let (n, faults) := integer m true a
    (some n, p.note faults)

/-- What a directive makes of an argument. -/
def layOut (m : Manner) (l : Layout) (letter : Char) (argument : Option Text) :
    Text × List Fault × Bool :=
  let unsigned (radix : Nat) (upper : Bool) : Text × List Fault × Bool :=
    let (n, faults) := integer m false argument
    (l.natural radix upper (if n < 0 then n + 2 * (maxInt64 + 1) else n).toNat, faults, false)
  let real (places : Layout.Places) (upper : Bool) : Text × List Fault × Bool :=
    let (q, faults) := quantity m argument
    (l.quantity places upper q, faults, false)
  match letter with
  | 's' => (l.word (argument.getD []), [], false)
  | 'c' =>
    let c := (argument.getD []).head?
    (l.word (if c.isNone && m = .posix then ['\x00'] else c.toList), [], false)
  | 'b' =>
    let (t, stops) := Escapes.plain m (argument.getD [])
    (l.word t, [], stops)
  | 'q' => (l.word (reusable m (argument.getD [])), [], false)
  | 'o' => unsigned 8 false
  | 'u' => unsigned 10 false
  | 'x' => unsigned 16 false
  | 'X' => unsigned 16 true
  | 'e' => real .exponent false
  | 'E' => real .exponent true
  | 'f' => real .fixed false
  | 'F' => real .fixed true
  | 'g' => real .general false
  | 'G' => real .general true
  | _ =>
    let (n, faults) := integer m true argument
    (l.integer n, faults, false)

/-- The point of time that an argument is, by a format.  Negative numbers stand for the present. -/
def layOutMoment (m : Manner) (l : Layout) (format : Text) (argument : Option Text) :
    Text × List Fault × Bool :=
  let (n, faults) := integer m true argument
  let format := if format.isEmpty then "%X".toList else format
  (l.word ((Moment.ofSeconds (max n 0)).format false format), faults, false)

/-- Print a part of a format. -/
def Printed.part (m : Manner) (p : Printed) (part : Part) : Printed :=
  if p.ended then p
  else
    match part with
    | .text t => p.put t
    | .stop => { p with ended := true }
    | .invalid spec letter => { p.note [.invalid spec letter] with ended := true }
    | .directive l width precision shown =>
      let (width, p) := p.size m width
      let (precision, p) := p.size m precision
      let l := match width with
        | some n => { l with width := n.natAbs, left := l.left || n < 0 }
        | none => l
      let l := { l with precision := (precision.filter (· ≥ 0)).map Int.toNat }
      let (argument, p) := p.take
      let (t, faults, stops) := match shown with
        | .letter c => layOut m l c argument
        | .moment format => layOutMoment m l format argument
      let p := (p.put t).note faults
      { p with ended := stops }

/-- Go through the parts of a format until no argument is left. -/
def printFrom (m : Manner) (parts : List Part) : Nat → Printed → Printed
  | 0, p => p
  | fuel + 1, p =>
    let q := parts.foldl (fun p part => p.part m part) p
    if q.ended || q.left.isEmpty || q.left.length = p.left.length then q
    else printFrom m parts fuel q

/-- What a format makes of arguments: the output, and what was wrong. -/
def print (m : Manner) (format : Text) (arguments : List Text) : Text × List Fault :=
  let p := printFrom m (read m format) (arguments.length + 1) ⟨[], arguments, [], false⟩
  (p.pieces.reverse.flatten, p.faults.reverse)

end Format

end ComponentFile
