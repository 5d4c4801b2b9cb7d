import ComponentFile.Regex.Basic
import ComponentFile.Text.Numeral

/-!
# Reading regular expressions

Regular expressions are written in a basic spelling, in which most operators have a backslash in
front, or in an extended one, in which the backslash takes their meaning away.

## Main definitions

* `Regex.Spelling` : how regular expressions are written.
* `Regex.Fault` : why a text is no regular expression.
* `Regex.read` : the regular expression that a text is.

The text is read from left to right.  Groups that are open are kept on a stack, each with the
alternatives that are complete and the parts of the one that is being read.
-/

namespace ComponentFile.Regex

/-- How regular expressions are written: whether operators go without backslashes; whether
backslashes stand for control characters, also between brackets; whether a parenthesis or a brace
that fits nowhere is a fault; whether operators without anything before them are passed over;
whether groups and alternatives must not be empty; and whether `\d` stands for digits and `(?:`
opens a group. -/
structure Spelling where
  extended : Bool := false
  escapes : Bool := false
  strict : Bool := false
  lenient : Bool := false
  filled : Bool := false
  digits : Bool := false
  deriving DecidableEq, Repr

/-- Why a text is no regular expression. -/
inductive Fault where
  | trailingBackslash
  | reference
  | bracket
  | parenthesis
  | closing
  | brace
  | content
  | rangeEnd
  | className
  | preceding
  | classSyntax
  | invalid
  | tooBig
  deriving DecidableEq, Repr

/-- The wording of a fault. -/
def Fault.message : Fault → String
  | trailingBackslash => "Trailing backslash"
  | reference => "Invalid back reference"
  | bracket => "Unmatched [, [^, [:, [., or [="
  | parenthesis => "Unmatched ( or \\("
  | closing => "Unmatched ) or \\)"
  | brace => "Unmatched \\\x7b"
  | content => "Invalid content of \\\x7b\\\x7d"
  | rangeEnd => "Invalid range end"
  | className => "Invalid character class name"
  | preceding => "Invalid preceding regular expression"
  | invalid => "Invalid regular expression"
  | tooBig => "Regular expression too big"
  | classSyntax => "character class syntax is [[:space:]], not [:space:]"

/-! ### Characters -/

/-- The control character that a letter behind a backslash stands for. -/
def control? : Char → Option Char
  | 'a' => some '\x07'
  | 'f' => some '\x0c'
  | 'n' => some '\n'
  | 'r' => some '\x0d'
  | 't' => some '\t'
  | 'v' => some '\x0b'
  | _ => none

/-- The character with a number that is written with up to `count` digits, and the text behind. -/
def numbered? (radix count : Nat) (t : Text) : Option (Char × Text) :=
  let digits := (t.take count).takeWhile fun c => (Text.digitIn? radix c).isSome
  (Text.natIn? radix digits).map fun n => (Char.ofNat (n % 256), t.drop digits.length)

/-- The character that an escape behind a backslash stands for, and the text behind it. -/
def escape? (t : Text) : Option (Char × Text) :=
  match t with
  | 'd' :: u => numbered? 10 3 u
  | 'o' :: u => numbered? 8 3 u
  | 'x' :: u => numbered? 16 2 u
  | 'c' :: c :: u => some (Char.ofNat (c.toUpper.toNat ^^^ 64), u)
  | c :: u => (control? c).map fun d => (d, u)
  | [] => none

/-! ### Sets -/

/-- A member of a set between brackets: a character, which may begin or end a range, or a class. -/
inductive Member where
  | char (c : Char)
  | ranges (rs : List (Char × Char))

/-- The member at the front of a text, and the text behind it. -/
def readMember (s : Spelling) (t : Text) : Except Fault (Member × Text) :=
  match t with
  | [] => .error .bracket
  | '[' :: ':' :: u =>
    match Text.cut? ":]".toList u with
    | none => .error .bracket
    | some (name, rest) =>
      match CharSet.classRanges? name with
      | some rs => .ok (.ranges rs, rest)
      | none => .error .className
  | '[' :: '=' :: c :: '=' :: ']' :: u => .ok (.char c, u)
  | '[' :: '.' :: c :: '.' :: ']' :: u => .ok (.char c, u)
  | '\\' :: u =>
    match if s.escapes then escape? u else none with
    | some (c, rest) => .ok (.char c, rest)
    | none => .ok (.char '\\', u)
  | c :: u => .ok (.char c, u)

/-- The ranges of a set up to its closing bracket, and the text behind it. -/
def readSet (s : Spelling) : Nat → Bool → List (Char × Char) → Text →
    Except Fault (List (Char × Char) × Text)
  | 0, _, _, _ => .error .bracket
  | fuel + 1, isFirst, done, t =>
    match t with
    | [] => .error .bracket
    | c :: u =>
      if c = ']' && !isFirst then .ok (done, u)
      else
        match readMember s (c :: u) with
        | .error fault => .error fault
        | .ok (.ranges rs, rest) => readSet s fuel false (rs ++ done) rest
        | .ok (.char a, rest) =>
          match rest with
          | '-' :: ']' :: _ => readSet s fuel false ((a, a) :: done) rest
          | '-' :: more =>
            match readMember s more with
            | .error fault => .error fault
            | .ok (.ranges _, _) => .error .rangeEnd
            | .ok (.char b, rest) =>
              if b < a then .error .rangeEnd else readSet s fuel false ((a, b) :: done) rest
          | _ => readSet s fuel false ((a, a) :: done) rest

/-- Whether a set looks like the name of a class. -/
def looksLikeClass (t : Text) : Bool :=
  match t with
  | ':' :: u => let inner := u.takeWhile (· != ']')
    inner.getLast? = some ':' && inner.length > 1 && inner.length < u.length &&
      (inner.dropLast).all Char.isAlpha
  | _ => false

/-- The set behind an opening bracket, and the text behind it. -/
def readBracket (s : Spelling) (t : Text) : Except Fault (CharSet × Text) := do
  if looksLikeClass t then .error .classSyntax
  else
    let negated := t.head? = some '^'
    let body := if negated then t.drop 1 else t
    let (ranges, rest) ←
      if body.isEmpty then .error .invalid else readSet s (body.length + 1) true [] body
    return (⟨negated, ranges⟩, rest)

/-! ### Tokens -/

/-- A token of a regular expression. -/
inductive Token where
  | part (r : Regex)
  | bracket
  | opening
  | closing
  | bar
  | loop (low : Nat) (high : Option Nat) (sign : Char)
  | brace
  | caret
  | dollar
  | reference (n : Nat)

/-- The token that a character stands for as an operator. -/
def operator? : Char → Option Token
  | '(' => some .opening
  | ')' => some .closing
  | '|' => some .bar
  | '\x7b' => some .brace
  | '+' => some (.loop 1 none '+')
  | '?' => some (.loop 0 (some 1) '?')
  | _ => none

/-- The token that a character behind a backslash stands for, whatever the spelling. -/
def backslashed? (c : Char) : Option Token :=
  match c with
  | 'w' => some (.part (.set (.word false)))
  | 'W' => some (.part (.set (.word true)))
  | 's' => some (.part (.set (.space false)))
  | 'S' => some (.part (.set (.space true)))
  | 'b' => some (.part (.anchor .wordEdge))
  | 'B' => some (.part (.anchor .noWordEdge))
  | '<' => some (.part (.anchor .wordStart))
  | '>' => some (.part (.anchor .wordEnd))
  | '\'' => some (.part (.anchor .textEnd))
  | _ =>
    if c.toNat = 0x60 then some (.part (.anchor .textStart))
    else if '1' ≤ c && c ≤ '9' then some (.reference (c.toNat - '0'.toNat))
    else none

/-- The set of digits, or of all other characters. -/
def digitSet? : Char → Option CharSet
  | 'd' => some ⟨false, [('0', '9')]⟩
  | 'D' => some ⟨true, [('0', '9')]⟩
  | _ => none

/-- The token at the front of a text, and the text behind it. -/
def readToken (s : Spelling) : Text → Except Fault (Token × Text)
  | [] => .error .trailingBackslash
  | ['\\'] => .error .trailingBackslash
  | '\\' :: c :: t =>
    match if s.extended then none else operator? c with
    | some token => .ok (token, t)
    | none =>
      let known := match if s.digits then digitSet? c else none with
        | some r => some (.part (.set r))
        | none => backslashed? c
      match known with
      | some token => .ok (token, t)
      | none =>
        match if s.escapes then escape? (c :: t) else none with
        | some (d, rest) => .ok (.part (.char d), rest)
        | none => .ok (.part (.char c), t)
  | c :: t =>
    match if s.extended then operator? c else none with
    | some token => .ok (token, t)
    | none =>
      .ok (match c with
        | '[' => .bracket
        | '*' => .loop 0 none '*'
        | '^' => .caret
        | '$' => .dollar
        | '.' => .part .any
        | _ => .part (.char c), t)

/-- What ends the bounds of a loop. -/
def closingBrace (s : Spelling) : Text :=
  if s.extended then "\x7d".toList else "\\\x7d".toList

/-- The greatest number of repetitions. -/
def maxBound : Nat := 32767

/-- The bounds between braces, and the text behind them. -/
def readBounds (s : Spelling) (t : Text) : Except Fault (Nat × Option Nat × Text) :=
  match Text.cut? (closingBrace s) t with
  | none => .error .brace
  | some (body, rest) =>
    let low := body.takeWhile Char.isDigit
    match body.drop low.length with
    | [] =>
      match Text.nat? low with
      | some n => if n > maxBound then .error .tooBig else .ok (n, some n, rest)
      | none => .error .brace
    | ',' :: high =>
      if !high.all Char.isDigit then .error .brace
      else
        let bound := Text.nat? high
        if bound.any fun b => b < Text.leadingNat low then .error .content
        else if max (Text.leadingNat low) (bound.getD 0) > maxBound then .error .tooBig
        else .ok (Text.leadingNat low, bound, rest)
    | _ => .error .brace

/-! ### Groups -/

/-- A group that is open: its number, its complete alternatives, and the parts of the one that is
being read, the last one first. -/
structure Frame where
  number : Nat
  alternatives : List Regex
  parts : List Regex

/-- The regular expression of a group that is complete. -/
def Frame.regex (f : Frame) : Regex :=
  let last := match f.parts with
    | [] => .nothing
    | r :: rest => rest.foldl (fun done part => .sequence part done) r
  match f.alternatives with
  | [] => last
  | r :: rest => .either (rest.foldl (fun done a => .either a done) r) last

/-- Put a part behind those that have been read. -/
def Frame.add (f : Frame) (r : Regex) : Frame :=
  { f with parts := r :: f.parts }

/-- What has been read: the innermost group, those around it, the number of groups so far, the
groups that are closed, and the operators that had nothing before them, in reverse. -/
structure Progress where
  top : Frame
  outer : List Frame
  count : Nat
  closed : List Nat
  bare : List Text

/-- Put a part behind those that have been read. -/
def Progress.add (p : Progress) (r : Regex) : Progress :=
  { p with top := p.top.add r }

/-- Whether an operator has nothing before it that it could work on. -/
def Progress.isBare (p : Progress) : Bool :=
  p.top.parts.all fun
    | .anchor .lineStart => true
    | .anchor .lineEnd => true
    | _ => false

/-- What has been read after an operator that has nothing before it: it is passed over, a fault, or
characters that stand for themselves. -/
def Progress.addBare (s : Spelling) (p : Progress) (shown : Text) (sign : Char) (t rest : Text) :
    Except Fault (Progress × Text) :=
  if s.lenient && s.extended then .ok ({ p with bare := shown :: p.bare }, rest)
  else if s.extended then .error .preceding
  else .ok (p.add (.char sign), t)

/-- Repeat the last part. -/
def Progress.repeatLast (p : Progress) (low : Nat) (high : Option Nat) : Progress :=
  match p.top.parts with
  | r :: rest => { p with top := { p.top with parts := .loop r low high :: rest } }
  | [] => p

/-- What has been read after one more token. -/
def Progress.step (s : Spelling) (p : Progress) (token : Token) (t : Text) :
    Except Fault (Progress × Text) :=
  match token with
  | .part r => .ok (p.add r, t)
  | .bracket => (readBracket s t).map fun found => (p.add (.set found.1), found.2)
  | .opening =>
    let u := if s.digits && Text.startsWith "?:" t then t.drop 2 else t
    .ok ({ p with
      top := ⟨p.count + 1, [], []⟩, outer := p.top :: p.outer, count := p.count + 1 }, u)
  | .closing =>
    match p.outer with
    | [] => if s.extended && !s.strict then .ok (p.add (.char ')'), t) else .error .closing
    | f :: rest =>
      if s.filled && p.top.parts.isEmpty then .error .preceding
      else
        .ok ({ p with
          top := f.add (.group p.top.number p.top.regex), outer := rest,
          closed := p.top.number :: p.closed }, t)
  | .bar =>
    let done : Frame := { p.top with alternatives := [] }
    let alternatives := done.regex :: p.top.alternatives
    if s.filled && p.top.parts.isEmpty then .error .preceding
    else .ok ({ p with top := ⟨p.top.number, alternatives, []⟩ }, t)
  | .loop low high sign =>
    if p.isBare then p.addBare s [sign] sign t t else .ok (p.repeatLast low high, t)
  | .brace =>
    if p.isBare && !s.extended then
      if s.strict then .error .preceding else .ok (p.add (.char '\x7b'), t)
    else
      match readBounds s t with
      | .error .brace =>
        if s.extended && !s.strict then .ok (p.add (.char '\x7b'), t)
        else if (Text.cut? (closingBrace s) t).isSome then .error .content
        else .error .brace
      | .error fault => .error fault
      | .ok (low, high, rest) =>
        if p.isBare then p.addBare s "\x7b...\x7d".toList '\x7b' t rest
        else .ok (p.repeatLast low high, rest)
  | .caret =>
    if s.extended || p.top.parts.isEmpty then .ok (p.add (.anchor .lineStart), t)
    else .ok (p.add (.char '^'), t)
  | .dollar =>
    let atEnd := t.isEmpty || Text.startsWith "\\)" t || Text.startsWith "\\|" t
    if s.extended || atEnd then .ok (p.add (.anchor .lineEnd), t)
    else .ok (p.add (.char '$'), t)
  | .reference n =>
    if p.closed.any (· == n) then .ok (p.add (.reference n), t) else .error .reference

/-- Read on until the text ends. -/
def readFrom (s : Spelling) : Nat → Progress → Text → Except Fault Progress
  | _, p, [] => .ok p
  | 0, p, _ => .ok p
  | fuel + 1, p, t => do
    let (token, rest) ← readToken s t
    let (p, rest) ← p.step s token rest
    readFrom s fuel p rest

/-- The regular expression that a text is, and the operators in it that have nothing before them. -/
def readNoting (s : Spelling) (t : Text) : Except Fault (Regex × List Text) := do
  let p ← readFrom s t.length ⟨⟨0, [], []⟩, [], 0, [], []⟩ t
  if !p.outer.isEmpty then .error .parenthesis
  else if s.filled && p.top.parts.isEmpty && !p.top.alternatives.isEmpty then .error .preceding
  else return (p.top.regex, p.bare.reverse)

/-- The regular expression that a text is. -/
def read (s : Spelling) (t : Text) : Except Fault Regex := do
  return (← readNoting s t).1

end ComponentFile.Regex
