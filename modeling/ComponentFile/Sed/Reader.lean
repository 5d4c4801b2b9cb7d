import ComponentFile.Regex.Reader
import ComponentFile.Sed.Basic
import ComponentFile.Text.Numeral

/-!
# Reading editing scripts

## Main definitions

* `Sed.Problem` : why a text is no script, with how much of it was left then.
* `Sed.read` : the script that a text is.
-/

namespace ComponentFile.Sed

open Text

/-- Why a text is no script, and the number of characters that had not been read. -/
structure Problem where
  message : Text
  left : Nat

/-- Something that reads a part of a text. -/
abbrev Reading := StateT Text (Except Problem)

namespace Reading

/-- Fail where reading has come to. -/
def fail {α : Type} (message : String) : Reading α := fun t =>
  .error ⟨message.toList, t.length⟩

/-- The next character, if there is one, which stays. -/
def peek : Reading (Option Char) := do
  return (← get).head?

/-- Take the next character. -/
def take : Reading (Option Char) :=
  modifyGet fun t => (t.head?, t.drop 1)

/-- Take characters as long as they are of a class. -/
def takeWhile (isMember : Char → Bool) : Reading Text :=
  modifyGet fun t => (t.takeWhile isMember, t.dropWhile isMember)

/-- Pass over white space on a line. -/
def skipGaps : Reading Unit := do
  let _ ← takeWhile isGap

/-- Pass over all white space. -/
def skipWhite : Reading Unit := do
  let _ ← takeWhile isWhite

/-- Take a number. -/
def number : Reading Nat := do
  return leadingNat (← takeWhile Char.isDigit)

end Reading

open Reading

/-! ### Delimited texts -/

/-- The length of a set between brackets at the front of a text, with its brackets. -/
def bracketLength (t : Text) : Nat :=
  let body := t.drop 1
  let start := if body.head? = some '^' then 2 else 1
  let start := if (t.drop start).head? = some ']' then start + 1 else start
  let rec go (n : Nat) : Text → Nat
    | [] => 0
    | ']' :: _ => n + 1
    | '[' :: ':' :: u => go (n + 2) u
    | ':' :: ']' :: u => go (n + 2) u
    | '\n' :: _ => 0
    | _ :: u => go (n + 1) u
  go start (t.drop start)

/-- The text up to a delimiter, put behind what is known in reverse, and the text behind it.  In a
pattern a set between brackets may hold the delimiter. -/
def delimited? (stop : Char) (isPattern : Bool) (done : Text) :
    Nat → Text → Option (Text × Text)
  | 0, _ => none
  | fuel + 1, t =>
    match t with
    | [] => none
    | c :: u =>
      if c = stop then some (done.reverse, u)
      else if c = '\n' && isPattern then none
      else if c = '\\' then
        match u with
        | [] => none
        | d :: v =>
          if d = stop then
            let special := isPattern && "|()+?{}".toList.any (· == d)
            let keeps := !isPattern && d = '&'
            delimited? stop isPattern
              (if special || !keeps then d :: done else d :: c :: done) fuel v
          else if d = 'n' && isPattern then delimited? stop isPattern ('\n' :: done) fuel v
          else if d = '\n' && isPattern then delimited? stop isPattern (d :: done) fuel v
          else delimited? stop isPattern (d :: c :: done) fuel v
      else
        let size := if c = '[' && isPattern && stop ≠ '[' then bracketLength t else 0
        if size > 1 then
          delimited? stop isPattern
            ((replaceEscapedLineEnd (t.take size)).reverse ++ done) fuel (t.drop size)
        else delimited? stop isPattern (c :: done) fuel u
where
  /-- A set in which the escape for a line end stands for one. -/
  replaceEscapedLineEnd : Text → Text
    | '\\' :: 'n' :: t => '\n' :: replaceEscapedLineEnd t
    | c :: t => c :: replaceEscapedLineEnd t
    | [] => []

/-- Take the text up to a delimiter. -/
def takeDelimited (stop : Char) (isPattern : Bool) (message : String) : Reading Text := do
  let t ← get
  match delimited? stop isPattern [] (t.length + 1) t with
  | some (found, rest) =>
    set rest
    return found
  | none =>
    set ([] : Text)
    fail message

/-- The pattern that a text is; none for the pattern that was used last. -/
def pattern? (extended : Bool) (flags : Text) (t : Text) : Reading (Option Pattern) := do
  if t.isEmpty then return none
  else
    match Regex.read { extended := extended, escapes := true, strict := true } t with
    | .ok r =>
      return some
        ⟨r, flags.any fun c => c == 'I' || c == 'i', flags.any fun c => c == 'M' || c == 'm'⟩
    | .error fault => fail fault.message

/-! ### Addresses -/

/-- Read an address, if there is one. -/
def readAddress (extended : Bool) : Reading (Option Address) := do
  match ← peek with
  | none => return none
  | some c =>
    if c = '/' || c = '\\' then
      let _ ← take
      let stop ← if c = '\\' then do pure ((← take).getD '/') else pure c
      let t ← takeDelimited stop true "unterminated address regex"
      let flags ← takeWhile fun d => d == 'I' || d == 'M'
      return some (.pattern (← pattern? extended flags t))
    else if c.isDigit then
      let n ← number
      skipGaps
      if (← peek) = some '~' then
        let _ ← take
        let step ← number
        return some (if step > 0 then .every n step else .line n)
      else return some (.line n)
    else if c = '$' then
      let _ ← take
      return some .last
    else return none

/-- Read the end of a range. -/
def readStop (extended : Bool) : Reading Stop := do
  skipGaps
  match ← peek with
  | some '+' =>
    let _ ← take
    return .after (← number)
  | some '~' =>
    let _ ← take
    return .multiple (← number)
  | _ =>
    match ← readAddress extended with
    | some a => return .at a
    | none => fail "unexpected \x60,'"

/-- Read the lines that a command is for. -/
def readLines (extended : Bool) : Reading Lines := do
  match ← readAddress extended with
  | none => return .all
  | some a =>
    skipGaps
    if (← peek) = some ',' then
      let _ ← take
      let stop ← readStop extended
      let isPattern := match stop with
        | .at (.pattern _) => true
        | _ => false
      match a with
      | .line 0 =>
        if isPattern then return .range a stop
        else
          let _ ← take
          fail "invalid usage of line address 0"
      | _ => return .range a stop
    else
      match a with
      | .line 0 =>
        let _ ← take
        fail "invalid usage of line address 0"
      | _ => return .one a

/-! ### Commands -/

/-- Read what ends a command. -/
def readEnd : Reading Unit := do
  skipGaps
  match ← peek with
  | none => return
  | some c =>
    if c = '\x7d' || c = '#' then return
    else
      let _ ← take
      if c = '\n' || c = ';' then return else fail "extra characters after command"

/-- Text behind a command without its backslashes, put behind what is known in reverse: up to the
end of its line, unless that has a backslash in front. -/
def plainText (done : Text) : Nat → Text → Text × Text
  | 0, t => (done.reverse, t)
  | fuel + 1, t =>
    match t with
    | [] => (('\n' :: done).reverse, [])
    | '\n' :: u => (('\n' :: done).reverse, u)
    | '\\' :: u =>
      match Regex.escape? u with
      | some (c, rest) =>
        if u.head? = some 'n' then plainText ('n' :: done) fuel (u.drop 1)
        else plainText (c :: done) fuel rest
      | none =>
        match u with
        | c :: v => plainText (c :: done) fuel v
        | [] => (('\n' :: done).reverse, [])
    | c :: u => plainText (c :: done) fuel u

/-- Read the text that a command adds. -/
def readText : Reading Text := do
  skipGaps
  match ← peek with
  | none => fail "expected \\ after \x60a', \x60c' or \x60i'"
  | some '\\' =>
    let _ ← take
    skipToLineEnd
    let next ← peek
    if next = some '\n' then
      let _ ← take
    if next.isNone then return []
    else modifyGet fun t => plainText [] (t.length + 1) t
  | some _ => modifyGet fun t => plainText [] (t.length + 1) t
where
  /-- Pass over white space before a line end. -/
  skipToLineEnd : Reading Unit :=
    modify fun t => if (t.dropWhile isGap).head? = some '\n' then t.dropWhile isGap else t

/-- Read the name of a file. -/
def readName : Reading Text := do
  skipGaps
  let name ← takeWhile (· != '\n')
  let _ ← take
  if name.isEmpty then fail "missing filename in r/R/w/W commands" else return name

/-- Read a label. -/
def readLabel : Reading Text := do
  skipGaps
  let name ← takeWhile fun c => !isWhite c && c != ';' && c != '\x7d'
  readEnd
  return name

/-- The parts of a replacement, put in front of those that are known in reverse. -/
def replacementParts (done : List Part) : Nat → Text → List Part
  | 0, _ => done.reverse
  | fuel + 1, t =>
    match t with
    | [] => done.reverse
    | '&' :: u => replacementParts (.group 0 :: done) fuel u
    | '\\' :: c :: u =>
      if c.isDigit then replacementParts (.group (c.toNat - '0'.toNat) :: done) fuel u
      else
        match c with
        | 'U' => replacementParts (.casing .upper :: done) fuel u
        | 'L' => replacementParts (.casing .lower :: done) fuel u
        | 'u' => replacementParts (.casing .upperNext :: done) fuel u
        | 'l' => replacementParts (.casing .lowerNext :: done) fuel u
        | 'E' => replacementParts (.casing .plain :: done) fuel u
        | _ =>
          match Regex.escape? (c :: u) with
          | some (d, rest) => replacementParts (.text [d] :: done) fuel rest
          | none => replacementParts (.text [c] :: done) fuel u
    | _ =>
      let isPlain (c : Char) : Bool := c != '&' && c != '\\'
      let plain := t.takeWhile isPlain
      if plain.isEmpty then (Part.text t :: done).reverse
      else replacementParts (.text plain :: done) fuel (t.drop plain.length)

/-- The flags of a substitution. -/
structure Flags where
  all : Bool
  nth : Nat
  prints : Nat
  letters : Text
  file : Option Text

/-- Read the flags of a substitution. -/
def readFlags : Nat → Flags → Reading Flags
  | 0, f => pure f
  | fuel + 1, f => do
    match ← peek with
    | none => return f
    | some c =>
      if c = '\x7d' || c = '#' then return f
      else if c.isDigit then
        let n ← number
        if n = 0 then fail "number option to \x60s' command may not be zero"
        else readFlags fuel { f with nth := n }
      else
        let _ ← take
        match c with
        | 'g' => readFlags fuel { f with all := true }
        | 'p' => readFlags fuel { f with prints := f.prints + 1 }
        | 'i' => readFlags fuel { f with letters := c :: f.letters }
        | 'I' => readFlags fuel { f with letters := c :: f.letters }
        | 'm' => readFlags fuel { f with letters := c :: f.letters }
        | 'M' => readFlags fuel { f with letters := c :: f.letters }
        | 'w' => return { f with file := some (← readName) }
        | '\n' => return f
        | ';' => return f
        | _ => if isGap c then readFlags fuel f else fail "unknown option to \x60s'"

/-- Read a substitution. -/
def readSubstitution (extended : Bool) : Reading Action := do
  let message := "unterminated \x60s' command"
  match ← take with
  | none => fail message
  | some stop =>
    let source ← takeDelimited stop true message
    let target ← takeDelimited stop false message
    let flags ← readFlags ((← get).length + 1) ⟨false, 1, 0, [], none⟩
    let pattern ← pattern? extended flags.letters source
    let parts := replacementParts [] (target.length + 1) target
    let greatest := parts.foldl (fun n part =>
      match part with
      | .group k => max n k
      | _ => n) 0
    if pattern.any fun f => greatest > f.regex.groups then
      fun t => .error ⟨"invalid reference \\".toList ++ ofNat greatest ++
        " on \x60s' command's RHS".toList, t.length⟩
    else
      return .substitute ⟨pattern, parts, flags.all, flags.nth, flags.prints, flags.file⟩

/-- The characters of a list that are exchanged. -/
def translationChars : Text → Text
  | '\\' :: '\\' :: t => '\\' :: translationChars t
  | '\\' :: 'n' :: t => '\n' :: translationChars t
  | '\\' :: c :: t =>
    match Regex.control? c with
    | some d => d :: translationChars t
    | none => '\\' :: c :: translationChars t
  | c :: t => c :: translationChars t
  | [] => []

/-- Read an exchange of characters. -/
def readTranslation : Reading Action := do
  let message := "unterminated \x60y' command"
  match ← take with
  | none => fail message
  | some stop =>
    let source ← takeDelimited stop false message
    let target ← takeDelimited stop false message
    let a := translationChars source
    let b := translationChars target
    if a.length ≠ b.length then fail "strings for \x60y' command are different lengths"
    else
      readEnd
      return .translate (a.zip b)

/-- Read a number that may stand behind a command. -/
def readCode : Reading Nat := do
  skipGaps
  let n ← number
  readEnd
  return n

/-- Read the command behind its lines, given its letter. -/
def readAction (extended : Bool) (c : Char) : Reading Action := do
  let simple (a : Action) : Reading Action := do
    readEnd
    return a
  match c with
  | '=' => simple .number
  | 'd' => simple .delete
  | 'D' => simple .deleteFirst
  | 'F' => simple .fileName
  | 'g' => simple .get
  | 'G' => simple .getMore
  | 'h' => simple .hold
  | 'H' => simple .holdMore
  | 'n' => simple .next
  | 'N' => simple .nextMore
  | 'p' => simple .print
  | 'P' => simple .printFirst
  | 'x' => simple .exchange
  | 'z' => simple .clear
  | 'a' => return .append (← readText)
  | 'i' => return .insert (← readText)
  | 'c' => return .change (← readText)
  | ':' =>
    skipGaps
    let name ← takeWhile fun d => d != ';' && d != '\n'
    let name := (name.reverse.dropWhile isWhite).reverse
    if name.isEmpty then fail "\":\" lacks a label"
    else
      let _ ← take
      return .label name
  | 'b' => return .jump .always (← readLabel)
  | 't' => return .jump .changed (← readLabel)
  | 'T' => return .jump .unchanged (← readLabel)
  | 'q' => return .quit (← readCode)
  | 'Q' => return .quitSilently (← readCode)
  | 'l' =>
    skipGaps
    let digits ← takeWhile Char.isDigit
    readEnd
    return .list (nat? digits)
  | 'r' => return .readFile (← readName)
  | 'R' => return .readLine (← readName)
  | 'w' => return .writeFile (← readName)
  | 'W' => return .writeFirst (← readName)
  | 's' => readSubstitution extended
  | 'y' => readTranslation
  | _ =>
    fun t => .error ⟨"unknown command: \x60".toList ++ [c] ++ ['\''], t.length⟩

/-! ### Scripts -/

/-- The commands that have been read, the last one first, and the numbers of the blocks that are
open. -/
structure Progress where
  commands : List Command
  count : Nat
  blocks : List Nat

/-- One more command. -/
def Progress.add (p : Progress) (c : Command) : Progress :=
  { p with commands := c :: p.commands, count := p.count + 1 }

/-- Read on until the text ends. -/
def readCommands (extended : Bool) : Nat → Progress → Reading Progress
  | 0, p => pure p
  | fuel + 1, p => do
    let _ ← takeWhile fun c => isWhite c || c == ';'
    match ← peek with
    | none => return p
    | some '#' =>
      let _ ← takeWhile (· != '\n')
      readCommands extended fuel p
    | some _ =>
      let lines ← readLines extended
      skipGaps
      let marks ← takeWhile fun c => c == '!' || isGap c
      let negated := marks.any (· == '!')
      match ← take with
      | none => fail "missing command"
      | some '\x7b' =>
        readCommands extended fuel
          { p.add ⟨lines, negated, .block 0⟩ with blocks := p.count :: p.blocks }
      | some '\x7d' =>
        match p.blocks with
        | [] => fail "unexpected \x60\x7d'"
        | start :: rest =>
          readEnd
          let closed := p.add ⟨.all, false, .close⟩
          let place := closed.count - 1 - start
          let commands := closed.commands.modify place fun c =>
            { c with action := .block closed.count }
          readCommands extended fuel { closed with commands := commands, blocks := rest }
      | some c =>
        let action ← readAction extended c
        readCommands extended fuel (p.add ⟨lines, negated, action⟩)

/-- The script that a text is. -/
def read (extended : Bool) (t : Text) : Except Problem Script :=
  match (readCommands extended (t.length + 1) ⟨[], 0, []⟩).run t with
  | .error problem => .error problem
  | .ok (p, _) =>
    if p.blocks.isEmpty then .ok p.commands.reverse.toArray
    else .error ⟨"unmatched \x60\x7b'".toList, t.length⟩

end ComponentFile.Sed
