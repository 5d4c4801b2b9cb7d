import ComponentFile.Shell.Words

/-!
# Reading scripts: commands

## Main definitions

* `Shell.readCommand` : a command.
* `Shell.readLine?` : the commands of the next line of a script.
-/

namespace ComponentFile.Shell

open Text

/-! ### Words, assignments and redirections -/

/-- Read a word. -/
def readWord (r : Reading) : Parse Word := do
  skipBlanks
  r.pieces .word

/-- Whether the text behind a token in front of parentheses may begin a word. -/
def isWordNext : Parse Bool := do
  return match ← peekToken with
    | .word _ => true
    | _ => false

/-- Read the word that a redirection needs. -/
def readTarget (r : Reading) : Parse Word := do
  if ← isWordNext then readWord r
  else
    let s ← get
    if s.rest.isEmpty && s.dialect = .extended then
      failWith (.unexpected .newline false none)
    else unexpected false none

/-- Read the redirection that comes next. -/
def readRedirection (r : Reading) (sign : Text) : Parse Redirection := do
  let s ← get
  let digits := streamDigits s.dialect s.rest
  let stream := nat? digits
  skip (digits.length + sign.length)
  let path (direction : Direction) : Parse Redirection := do
    return .path s.line stream direction (← readTarget r)
  let copy (direction : Direction) : Parse Redirection := do
    let word ← readTarget r
    match word with
    | [.plain t] =>
      if t = ['-'] || (nat? t).isSome then return .path s.line stream direction word
      else if s.dialect = .plain then failWith .badStream
      else if direction = .copyOutput && stream.all (· == 1) then
        return .path s.line none .both word
      else return .path s.line stream direction word
    | _ => return .path s.line stream direction word
  match String.ofList sign with
  | "<" => path .input
  | ">" => path .output
  | ">|" => path .forced
  | ">>" => path .append
  | "<>" => path .update
  | "<&" => copy .copyInput
  | ">&" => copy .copyOutput
  | "&>" => path .both
  | "&>>" => path .bothAppend
  | "<<<" => return .word s.line stream (← readTarget r)
  | "<<-" => return .document s.line stream (← readDocument r true)
  | _ => return .document s.line stream (← readDocument r false)

/-- The name, the sign and the value of a text that assigns a value. -/
def assignmentIn? (dialect : Dialect) (t : Text) : Option (Text × Bool × Text) :=
  match cut? ['='] t with
  | none => none
  | some (name, value) =>
    let append := dialect = .extended && name.getLast? = some '+'
    let name := if append then name.dropLast else name
    if isName name then some (name, append, value) else none

/-- The name, the index, the sign and the value of a word that assigns to an element. -/
def elementAssignment? (word : Word) :
    Option (Text × List Piece × Bool × List Piece) :=
  match word with
  | .plain t :: rest =>
    match cut? ['['] t with
    | none => none
    | some (name, behind) =>
      if !isName name then none
      else
        let pieces := Piece.plain behind :: rest
        let before := pieces.takeWhile fun
          | .plain u => (cut? "]=".toList u).isNone && (cut? "]+=".toList u).isNone
          | _ => true
        match pieces.drop before.length with
        | .plain u :: after =>
          match cut? "]=".toList u with
          | some (i, v) => some (name, before ++ [.plain i], false, .plain v :: after)
          | none => (cut? "]+=".toList u).map fun p =>
              (name, before ++ [.plain p.1], true, .plain p.2 :: after)
        | _ => none
  | _ => none

/-- Pieces without plain ones that are empty. -/
def trimmedWord (w : List Piece) : Word :=
  w.filter fun
    | .plain t => !t.isEmpty
    | _ => true

/-- The assignment that a word is. -/
def assignment? (dialect : Dialect) (word : Word) : Option Assignment :=
  match word with
  | .plain t :: rest =>
    match assignmentIn? dialect t with
    | some (name, append, value) =>
      some (.value name none append (trimmedWord (.plain value :: rest)))
    | none =>
      if dialect = .plain then none
      else (elementAssignment? word).map fun e =>
        .value e.1 (some e.2.1) e.2.2.1 (trimmedWord e.2.2.2)
  | _ => none

/-- Read the elements of an array up to the parenthesis that ends them. -/
def readElements (r : Reading) (done : List (Option Word × Word)) :
    Nat → Parse (List (Option Word × Word))
  | 0 => return done.reverse
  | fuel + 1 => do
    skipLines
    match ← peekToken with
    | .operator ")" =>
      skip 1
      return done.reverse
    | .word _ =>
      let w ← readWord r
      match w with
      | .plain ('[' :: t) :: rest =>
        match elementAssignment? (.plain ('a' :: '[' :: t) :: rest) with
        | some e => readElements r ((some e.2.1, trimmedWord e.2.2.2) :: done) fuel
        | none => readElements r ((none, w) :: done) fuel
      | _ => readElements r ((none, w) :: done) fuel
    | .stop => failWith (.unclosed ")".toList)
    | _ => unexpected false (some ")")

/-- The elements that follow a word which assigns nothing yet, when a parenthesis comes next. -/
def readElements? (r : Reading) (word : Word) : Parse (Option Assignment) := do
  let s ← get
  match s.dialect, word, s.rest with
  | .extended, [.plain t], '(' :: _ =>
    match assignmentIn? .extended t with
    | some (name, append, []) =>
      skip 1
      return some (.elements name append (← readElements r [] (s.rest.length + 1)))
    | _ => return none
  | _, _, _ => return none

/-! ### Simple commands -/

/-- The parts of a simple command, each in reverse. -/
structure SimpleParts where
  assignments : List Assignment
  words : List Word
  redirections : List Redirection

/-- Read the parts of a simple command. -/
def readParts (r : Reading) (parts : SimpleParts) : Nat → Parse SimpleParts
  | 0 => return parts
  | fuel + 1 => do
    match ← peekToken with
    | .redirection sign =>
      let redirection ← readRedirection r sign
      readParts r { parts with redirections := redirection :: parts.redirections } fuel
    | .word _ =>
      let dialect := (← get).dialect
      let word ← readWord r
      match ← readElements? r word with
      | some a =>
        let words := match a with
          | .elements name _ _ =>
            if parts.words.isEmpty then parts.words else [.plain name] :: parts.words
          | _ => parts.words
        readParts r { parts with assignments := a :: parts.assignments, words := words } fuel
      | none =>
        match if parts.words.isEmpty then assignment? dialect word else none with
        | some a => readParts r { parts with assignments := a :: parts.assignments } fuel
        | none => readParts r { parts with words := word :: parts.words } fuel
    | _ => return parts

/-- Read redirections. -/
def readRedirections (r : Reading) (done : List Redirection) : Nat → Parse (List Redirection)
  | 0 => return done.reverse
  | fuel + 1 => do
    match ← peekToken with
    | .redirection sign => readRedirections r ((← readRedirection r sign) :: done) fuel
    | _ => return done.reverse

/-- The names of the built-in commands that no function replaces. -/
def specialNames : List String :=
  [":", ".", "break", "continue", "eval", "exec", "exit", "export", "readonly", "return", "set",
    "shift", "times", "trap", "unset"]

/-- Whether a compound command comes next. -/
def startsCompound : Parse Bool := do
  return match ← peekToken with
    | .operator sign => sign == "("
    | .word w =>
      ["\x7b", "[[", "if", "while", "until", "for", "case", "select", "function"].any fun k =>
        k.toList == w
    | _ => false

/-- Read a simple command, or the definition of a function. -/
def readSimple (r : Reading) (command : Parse Command) : Parse Command := do
  let s ← get
  let line := s.line
  let parts ← readParts r ⟨[], [], []⟩ (s.rest.length + 1)
  match ← peekToken, parts with
  | .operator "(", ⟨[], [word], []⟩ =>
    skip 1
    expectOperator ")"
    let name := word.plainText?.getD []
    let isSpecial := specialNames.any fun n => n.toList == name
    if s.dialect = .plain && (!isName name || isSpecial) then failWith .badFunctionName
    skipLines
    if s.dialect = .extended && !(← startsCompound) then unexpected false none
    return .define line name (← command)
  | .operator "(", _ => unexpected true none
  | _, _ =>
    return .simple line parts.assignments.reverse parts.words.reverse parts.redirections.reverse

/-! ### Conditions between double brackets -/

/-- Complain about a condition. -/
def failTest {α : Type} (message : String) (near : Text) : Parse α :=
  failWith (.badTest message.toList near)

/-- The text of the next token. -/
def nextText : Parse Text := do
  return (← peekToken).extendedName

/-- Whether the condition ends here. -/
def isTestEnd (token : Token) : Bool :=
  token.isWord "]]" || token.isOperator "&&" || token.isOperator "||" || token.isOperator ")" ||
    token == .stop

/-- Read the word of a condition behind an operator of a kind. -/
def readTestWord (r : Reading) (kind : String) : Parse Word := do
  skipLines
  let token ← peekToken
  let refuse : Parse Word := do
    let t ← nextText
    failWith (.badTest ("unexpected argument \x60".toList ++ t ++ "' to conditional ".toList ++
      kind.toList ++ " operator".toList) (if token.isWord "]]" then t else t.take 1))
  match token with
  | .stop => failWith (.unclosed "]]".toList)
  | .word w => if w = "]]".toList then refuse else readWord r
  | _ => refuse

/-- Whether a text is an operator between words of a condition. -/
def isTestBinary (t : Text) : Bool :=
  ["=", "==", "!=", "=~", "-eq", "-ne", "-lt", "-le", "-gt", "-ge", "-nt", "-ot", "-ef"].any
    fun o => o.toList == t

/-- Whether a text is an operator before a word of a condition. -/
def isTestUnary (t : Text) : Bool :=
  match t with
  | ['-', c] => "abcdefghkLnNoOprsStuvwxzGR".toList.any (· == c)
  | _ => false

/-- Read the pattern of a condition, in which there may be groups. -/
def readTestPattern (r : Reading) : Parse Word := do
  let s ← get
  set { s with groups := true }
  let w ← readTestWord r "binary"
  modify fun after => { after with groups := s.groups }
  return w

/-- Whether a token is an operator between words of a condition. -/
def isBinaryNext : Token → Bool
  | .word op => isTestBinary op
  | _ => false

/-- Read a single condition. -/
def readTestTerm (r : Reading) (any : Parse Test) (self : Parse Test) : Parse Test := do
  skipLines
  let token ← peekToken
  match token with
  | .operator "(" =>
    skip 1
    let t ← any
    skipLines
    let token ← peekToken
    if token.isWord "]]" then
      failTest "unexpected token \x60]]', expected \x60)'" "]]".toList
    expectOperator ")"
    return t
  | .word ['!'] =>
    skip 1
    return .not (← self)
  | .word op =>
    let first ← readWord r
    if op = "]]".toList then failTest "" op
    else if isTestUnary op && !isBinaryNext (← peekToken) then
      return .unary op (← readTestWord r "unary")
    else
      match ← peekToken with
      | .redirection sign =>
        if sign = ['<'] || sign = ['>'] then
          skip 1
          return .binary sign first (← readTestWord r "binary")
        else failTest "conditional binary operator expected" sign
      | .word op =>
        if op = "]]".toList then return .word first
        else if isTestBinary op then
          skip op.length
          if op = "=~".toList then
            skipBlanks
            return .binary op first (← r.pieces .regex)
          else if op.getLast? = some '=' then return .binary op first (← readTestPattern r)
          else return .binary op first (← readTestWord r "binary")
        else failTest "conditional binary operator expected" op
      | next =>
        if isTestEnd next then return .word first
        else
          failTest "unexpected token \x60newline', conditional binary operator expected"
            (token.extendedName)
  | _ => failTest "unexpected token in conditional command" token.extendedName

/-- Read conditions that are joined. -/
def readTest (r : Reading) : Nat → Parse Test
  | 0 => failWith .tooDeep
  | fuel + 1 => do
    let any := readTest r fuel
    let rec term : Nat → Parse Test
      | 0 => failWith .tooDeep
      | n + 1 => readTestTerm r any (term n)
    let rec all : Nat → Parse Test
      | 0 => failWith .tooDeep
      | n + 1 => do
        let t ← term 100
        skipLines
        if ← takeOperator "&&" then return .both t (← all n) else return t
    let rec some_ : Nat → Parse Test
      | 0 => failWith .tooDeep
      | n + 1 => do
        let t ← all 1000
        skipLines
        if ← takeOperator "||" then return .either t (← some_ n) else return t
    some_ 1000

/-! ### Compound commands -/

/-- Whether a token ends a list of commands. -/
def endsList (token : Token) : Bool :=
  match token with
  | .stop => true
  | .operator s => s == ")" || s == ";;" || s == ";&" || s == ";;&"
  | .word t =>
    ["do", "done", "elif", "else", "esac", "fi", "then", "\x7d"].any fun k => k.toList == t
  | _ => false

/-- Read the condition, the body and the other branches of a conditional, behind its first word. -/
def readConditional (list : Bool → Parse Command) : Nat → Parse Command
  | 0 => failWith .tooDeep
  | fuel + 1 => do
    let condition ← list false
    expectWord "then"
    let body ← list false
    let token ← peekToken
    if token.isWord "elif" then
      skip 4
      return .conditional condition body (some (← readConditional list fuel))
    else if token.isWord "else" then
      skip 4
      let other ← list false
      expectWord "fi"
      return .conditional condition body (some other)
    else
      expectWord "fi"
      return .conditional condition body none

/-- Read the commands of a loop between its two words. -/
def readBody (list : Bool → Parse Command) : Parse Command := do
  expectWord "do"
  let body ← list false
  expectWord "done"
  return body

/-- Read words up to the end of a line or a semicolon. -/
def readWords (r : Reading) (done : List Word) : Nat → Parse (List Word)
  | 0 => return done.reverse
  | fuel + 1 => do
    if ← isWordNext then readWords r ((← readWord r) :: done) fuel else return done.reverse

/-- Read the words that a loop goes over, if there are any. -/
def readLoopWords (r : Reading) : Parse (Option (List Word)) := do
  skipLines
  let words ← if ← takeWord "in" then do
      let words ← readWords r [] ((← get).rest.length + 1)
      match ← peekToken with
      | .newline => pure (some words)
      | .operator ";" => do
        skip 1
        pure (some words)
      | _ => unexpected true none
    else do
      let _ ← takeOperator ";"
      pure none
  skipLines
  return words

/-- Read the body of a loop over words, which the extended language also takes between braces. -/
def readLoopBody (list : Bool → Parse Command) (dialect : Dialect) : Parse Command := do
  if dialect = .extended then
    if ← takeWord "\x7b" then
      let body ← list false
      expectWord "\x7d"
      return body
  readBody list

/-- Read a loop over words, behind its first word. -/
def readFor (r : Reading) (list : Bool → Parse Command) : Parse Command := do
  skipBlanks
  let s ← get
  match s.dialect, s.rest with
  | .extended, '(' :: '(' :: _ =>
    skip 2
    let pieces ← r.pieces .arithmetic
    skip 2
    let parts := splitSemicolons [] [] pieces
    let _ ← takeOperator ";"
    skipLines
    let body ← readLoopBody list s.dialect
    return .counting s.line (parts[0]?.getD []) (parts[1]?.getD []) (parts[2]?.getD []) body
  | _, _ =>
    let word ← if ← isWordNext then readWord r else failWith .badLoopVariable
    let name := word.plainText?.getD []
    if s.dialect = .plain && !isName name then failWith .badLoopVariable
    let words ← readLoopWords r
    return .forEach s.line name words (← readLoopBody list s.dialect)
where
  /-- The three parts of a counting loop. -/
  splitSemicolons (done : List (List Piece)) (part : List Piece) :
      List Piece → List (List Piece)
    | [] => (part.reverse :: done).reverse
    | .quoted t :: rest =>
      match t.splitOn ';' with
      | [] => splitSemicolons done part rest
      | first :: more =>
        let parts := more.map fun u => [Piece.quoted u]
        match parts.reverse with
        | [] => splitSemicolons done (.quoted first :: part) rest
        | last :: between =>
          splitSemicolons (between ++ (.quoted first :: part).reverse :: done) last rest
    | p :: rest => splitSemicolons done (p :: part) rest

/-- Read a loop over words that are chosen from a menu, behind its first word. -/
def readMenu (r : Reading) (list : Bool → Parse Command) : Parse Command := do
  let line := (← get).line
  let word ← if ← isWordNext then readWord r else unexpected false none
  let words ← readLoopWords r
  return .selection line (word.plainText?.getD []) words (← readLoopBody list .extended)

/-- Read the patterns of an item up to the parenthesis behind them. -/
def readPatterns (r : Reading) (done : List Word) : Nat → Parse (List Word)
  | 0 => return done.reverse
  | fuel + 1 => do
    let word ← if ← isWordNext then readWord r else pure []
    if ← takeOperator "|" then readPatterns r (word :: done) fuel
    else
      let s ← get
      if word.isEmpty && s.dialect = .extended then unexpected true none
      else if s.dialect = .extended && (← peekToken) = .stop then
        failWith (.unexpected .newline false none)
      else if (← peekToken).isOperator ")" then
        skip 1
        return (word :: done).reverse
      else unexpected false (some ")")

/-- Read the items of a choice up to its last word. -/
def readItems (r : Reading) (list : Bool → Parse Command)
    (done : List (List Word × Command × Continuation)) :
    Nat → Parse (List (List Word × Command × Continuation))
  | 0 => failWith .tooDeep
  | fuel + 1 => do
    skipLines
    if ← takeWord "esac" then return done.reverse
    else if (← get).dialect = .extended && (← peekToken) = .stop then unexpected true (some "esac")
    else
      let _ ← takeOperator "("
      let patterns ← readPatterns r [] ((← get).rest.length + 1)
      let body ← list true
      skipLines
      if ← takeOperator ";;&" then readItems r list ((patterns, body, .test) :: done) fuel
      else if ← takeOperator ";&" then readItems r list ((patterns, body, .fall) :: done) fuel
      else if ← takeOperator ";;" then readItems r list ((patterns, body, .done) :: done) fuel
      else if ← takeWord "esac" then return ((patterns, body, .done) :: done).reverse
      else unexpected true (some ";;")

/-- Read a choice, behind its first word. -/
def readChoice (r : Reading) (list : Bool → Parse Command) : Parse Command := do
  let line := (← get).line
  let word ← if ← isWordNext then readWord r else unexpected false none
  skipLines
  expectWord "in"
  let items ← readItems r list [] ((← get).rest.length + 1)
  return .choose line word items

/-- Read a calculation as a command, behind its opening parentheses; none when it is none. -/
def readCalculation? (r : Reading) : Parse (Option Command) := do
  let s ← get
  match (r.pieces .arithmetic).run s with
  | .ok (pieces, after) =>
    match after.rest with
    | ')' :: ')' :: rest =>
      set { after with rest := rest }
      return some (.calculate s.line pieces)
    | [] => failWith (.unclosed ")".toList)
    | _ => return none
  | .error _ => return none

/-- Read a compound command of the extended language, if one comes next. -/
def readExtended? (r : Reading) (list : Bool → Parse Command) (command : Parse Command)
    (token : Token) : Parse (Option Command) := do
  let s ← get
  if s.dialect = .plain then return none
  if token.isWord "[[" then
    skip 2
    let t ← readTest r 100
    skipLines
    let token ← peekToken
    if token = .stop then failWith (.unclosed "]]".toList)
    if !token.isWord "]]" then failTest "syntax error in conditional expression" token.extendedName
    expectWord "]]"
    return some (.test s.line t)
  else if Text.startsWith "((" s.rest then
    skip 2
    match ← readCalculation? r with
    | some c => return some c
    | none =>
      set s
      return none
  else if token.isWord "function" then
    skip 8
    let name := (← readWord r).plainText?.getD []
    if ← takeOperator "(" then expectOperator ")"
    skipLines
    return some (.define s.line name (← command))
  else if token.isWord "select" then
    skip 6
    return some (← readMenu r list)
  else return none

/-- Read a compound command, if one comes next. -/
def readCompound? (r : Reading) (list : Bool → Parse Command) (command : Parse Command)
    (token : Token) : Parse (Option Command) := do
  match ← readExtended? r list command token with
  | some c => return some c
  | none =>
    let s ← get
    match token with
    | .operator "(" =>
      skip 1
      let body ← list false
      expectOperator ")"
      return some (.subshell s.line body)
    | .word w =>
      match String.ofList w with
      | "\x7b" =>
        skip 1
        let body ← list false
        expectWord "\x7d"
        return some (.group body)
      | "if" =>
        skip 2
        return some (← readConditional list (s.rest.length + 1))
      | "while" =>
        skip 5
        let condition ← list false
        return some (.loop true condition (← readBody list))
      | "until" =>
        skip 5
        let condition ← list false
        return some (.loop false condition (← readBody list))
      | "for" =>
        skip 3
        return some (← readFor r list)
      | "case" =>
        skip 4
        return some (← readChoice r list)
      | _ => return none
    | _ => return none

/-- The text behind an alias that ends with a blank: its first word may be an alias too. -/
def replaceBehind (dialect : Dialect) (aliases : List (Text × Text)) : Nat → Text → Text
  | 0, t => t
  | fuel + 1, t =>
    let blanks := t.takeWhile Text.isGap
    let rest := t.drop blanks.length
    match tokenAt dialect rest with
    | .word w =>
      match aliases.lookup w with
      | some a =>
        let behind := rest.drop w.length
        blanks ++ a ++
          if a.getLast?.any Text.isGap then replaceBehind dialect aliases fuel behind else behind
      | none => t
    | _ => t

/-- Put what a word is an alias for into its place, and so on with the first word of that, unless it
has been replaced before. -/
def replaceAliases (seen : List Text) : Nat → Parse Unit
  | 0 => pure ()
  | fuel + 1 => do
    match ← peekToken with
    | .word w =>
      let s ← get
      match if seen.any (· == w) then none else s.aliases.lookup w with
      | some t =>
        let behind := s.rest.drop w.length
        let behind :=
          if t.getLast?.any Text.isGap then replaceBehind s.dialect s.aliases 20 behind else behind
        set { s with rest := t ++ behind }
        replaceAliases (w :: seen) fuel
      | none => pure ()
    | _ => pure ()

/-- Read a command. -/
def readCommand (r : Reading) (list : Bool → Parse Command) (command : Parse Command) :
    Parse Command := do
  replaceAliases [] 20
  let token ← peekToken
  match ← readCompound? r list command token with
  | some c =>
    match c with
    | .define _ _ _ => return c
    | _ =>
      let redirections ← readRedirections r [] ((← get).rest.length + 1)
      return if redirections.isEmpty then c else .redirected c redirections
  | none =>
    match token with
    | .redirection _ => readSimple r command
    | .word w =>
      let isReserved := keywords.any (fun k => k.toList == w) && w != "in".toList
      if isReserved || (w = "in".toList && (← get).dialect = .plain) then unexpected true none
      else readSimple r command
    | _ => unexpected true none

/-! ### Lists -/

/-- Read the commands of a pipeline behind the first one. -/
def readPipes (command : Parse Command) (done : List Command) : Nat → Parse (List Command)
  | 0 => return done.reverse
  | fuel + 1 => do
    if ← takeOperator "|&" then
      skipLines
      let merged := match done with
        | first :: rest =>
          Command.redirected first [.path 0 (some 2) .copyOutput [.plain ['1']]] :: rest
        | [] => []
      readPipes command ((← command) :: merged) fuel
    else if ← takeOperator "|" then
      skipLines
      readPipes command ((← command) :: done) fuel
    else return done.reverse

/-- Whether no command begins with a token. -/
def isCommandEnd (token : Token) : Bool :=
  match token with
  | .stop => true
  | .newline => true
  | .operator sign => sign != "("
  | _ => false

/-- Read a pipeline. -/
def readPipeline (command : Parse Command) (negated : Bool) : Nat → Parse Command
  | 0 => failWith .tooDeep
  | fuel + 1 => do
    let s ← get
    if (← peekToken).isWord "!" && !(negated && s.dialect = .plain) then
      skip 1
      if s.dialect = .plain then
        let first ← command
        return .pipeline true (← readPipes command [first] ((← get).rest.length + 1))
      else readPipeline command (!negated) fuel
    else if s.dialect = .extended && (← peekToken).isWord "time" then
      skip 4
      let short ← takeWord "-p"
      if isCommandEnd (← peekToken) then return .timed short (.sequence [])
      else return .timed short (← readPipeline command negated fuel)
    else
      let first ← command
      let commands ← readPipes command [first] ((← get).rest.length + 1)
      match commands, negated with
      | [c], false => return c
      | _, _ => return .pipeline negated commands

/-- Read pipelines that are joined, behind the first one. -/
def readJoined (pipeline : Parse Command) (first : Command) : Nat → Parse Command
  | 0 => return first
  | fuel + 1 => do
    if ← takeOperator "&&" then
      skipLines
      readJoined pipeline (.both first (← pipeline)) fuel
    else if ← takeOperator "||" then
      skipLines
      readJoined pipeline (.either first (← pipeline)) fuel
    else return first

/-- Read the commands of a list, behind those that are known in reverse.  A list of its own line
ends with it, and any other at a token that ends lists. -/
def readListFrom (joined : Parse Command) (ownLine mayBeEmpty : Bool) (done : List Command) :
    Nat → Parse (List Command)
  | 0 => return done.reverse
  | fuel + 1 => do
    if !ownLine then skipLines
    let token ← peekToken
    if token = .stop || (ownLine && token = .newline) then return done.reverse
    else if !ownLine && mayBeEmpty && endsList token then return done.reverse
    else
      let c ← joined
      let token ← peekToken
      match token with
      | .operator "&" =>
        skip 1
        readListFrom joined ownLine true (.background c :: done) fuel
      | .operator ";" =>
        skip 1
        readListFrom joined ownLine true (c :: done) fuel
      | .newline => readListFrom joined ownLine true (c :: done) fuel
      | .stop => return (c :: done).reverse
      | _ => if ownLine then unexpected true none else return (c :: done).reverse

/-- The command that a list of commands is. -/
def Command.ofList : List Command → Command
  | [c] => c
  | cs => .sequence cs

/-- Read pipelines that are joined. -/
def readAndOr (command : Parse Command) : Parse Command := do
  let fuel := (← get).rest.length + 1
  let pipeline := readPipeline command false fuel
  readJoined pipeline (← pipeline) fuel

/-- Read a list inside of a command. -/
def readList (command : Parse Command) (mayBeEmpty : Bool) : Parse Command := do
  let fuel := (← get).rest.length + 1
  return Command.ofList (← readListFrom (readAndOr command) false mayBeEmpty [] fuel)

/-- Read a command that is nested to a depth. -/
def readNested (r : Reading) : Nat → Parse Command
  | 0 => failWith .tooDeep
  | depth + 1 => fun s =>
    (readCommand r (readList (readNested r depth)) (readNested r depth)).run s

/-- The readers of what is nested to a depth. -/
def reading : Nat → Reading
  | 0 => ⟨failWith .tooDeep, fun _ => failWith .tooDeep⟩
  | depth + 1 =>
    { commands := fun s => (readList (readNested (reading depth) depth) true).run s
      pieces := fun site s => (readPieces (reading depth) site).run s }

/-- The greatest depth of what is nested in a script. -/
def maxNesting : Nat := 400

/-- Read the commands of the next line that is not empty; none at the end. -/
def readLine? : Parse (Option Command) := do
  skipLines
  if (← peekToken) = .stop then return none
  else
    let fuel := (← get).rest.length + 1
    let command := readNested (reading maxNesting) maxNesting
    let commands ← readListFrom (readAndOr command) true false [] fuel
    if (← peekToken) = .newline then skipLineEnd
    return some (Command.ofList commands)

end ComponentFile.Shell
