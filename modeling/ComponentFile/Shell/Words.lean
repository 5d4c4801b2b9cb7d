import ComponentFile.Shell.Source

/-!
# Reading scripts: words

## Main definitions

* `Shell.Place`, `Shell.Reading` : where pieces stand, and the readers of what is nested.
* `Shell.readPieces` : the pieces of a word, or of what stands inside marks.
* `Shell.readDocument` : the pieces of a here-document.
-/

namespace ComponentFile.Shell

open Text

/-- Where pieces stand, which decides what ends them and which characters have a meaning. -/
inductive Site where
  | word
  | group
  | double
  | brace (quoted : Bool)
  | slash (quoted : Bool)
  | colon (quoted : Bool)
  | index
  | arithmetic
  | document
  | regex
  deriving DecidableEq, Repr

namespace Site

/-- Whether characters stand for themselves unless they begin an expansion. -/
def isQuoted : Site → Bool
  | word => false
  | group => false
  | regex => false
  | brace quoted => quoted
  | slash quoted => quoted
  | colon _ => true
  | _ => true

/-- Whether a character ends the pieces. -/
def isEnd (site : Site) (c : Char) : Bool :=
  match site with
  | word => endsWord c
  | group => c == ')'
  | double => c == '"'
  | brace _ => c == '\x7d'
  | slash _ => c == '\x7d' || c == '/'
  | colon _ => c == '\x7d' || c == ':'
  | index => c == ']'
  | arithmetic => false
  | document => false
  | regex => isGap c || c == '\n'

/-- Whether a backslash takes the meaning from a character where it does so for some only. -/
def isEscapable (site : Site) (c : Char) : Bool :=
  c == '$' || c == '\\' || c.toNat == 0x60 ||
    (c == '"' && site != document && site != arithmetic) ||
    (c == '\x7d' && (site == .brace true || site == .slash true))

end Site

/-- The readers of what is nested: commands up to a mark, and pieces. -/
structure Reading where
  commands : Parse Command
  pieces : Site → Parse (List Piece)

/-- Whether a character may begin a name. -/
def isNameStart (c : Char) : Bool :=
  c.isAlpha || c == '_'

/-- Whether a character is the name of a parameter. -/
def isSpecial (c : Char) : Bool :=
  "@*#?-$!".toList.any (· == c)

/-- A text that stands for itself. -/
def literal (quoted : Bool) (t : Text) : Piece :=
  if quoted then .quoted t else .plain t

/-! ### Escapes of the extended language -/

/-- The character at the front of digits in a radix, and the text behind them. -/
def numberedChar (radix limit : Nat) (t : Text) : Option (Nat × Text) :=
  let digits := (t.take limit).takeWhile fun c => (digitIn? radix c).isSome
  (natIn? radix digits).map fun n => (n, t.drop digits.length)

/-- What a code point is written as: its octet if it has one in the C locale. -/
def codePoint (n : Nat) : Text :=
  if n < 128 then [Char.ofNat n]
  else
    let digits := (Nat.toDigits 16 n).map Char.toUpper
    if n < 65536 then "\\u".toList ++ padLeft 4 '0' digits else "\\U".toList ++ padLeft 8 '0' digits

/-- The octets of a text with escapes between dollar and quotation marks, and the text behind the
mark. -/
def escapedText (done : Text) : Nat → Text → Option (Text × Text)
  | 0, _ => none
  | fuel + 1, t =>
    match t with
    | [] => none
    | '\'' :: rest => some (done.reverse, rest)
    | '\\' :: c :: rest =>
      let put (n : Nat) (rest : Text) := escapedText (Char.ofNat n :: done) fuel rest
      match c with
      | 'n' => put 10 rest
      | 't' => put 9 rest
      | 'r' => put 13 rest
      | 'a' => put 7 rest
      | 'b' => put 8 rest
      | 'e' => put 27 rest
      | 'E' => put 27 rest
      | 'f' => put 12 rest
      | 'v' => put 11 rest
      | '\\' => put 92 rest
      | '\'' => put 39 rest
      | '"' => put 34 rest
      | '?' => put 63 rest
      | 'x' =>
        match numberedChar 16 2 rest with
        | some (n, rest) => put n rest
        | none => escapedText ('x' :: '\\' :: done) fuel rest
      | 'u' =>
        match numberedChar 16 4 rest with
        | some (n, rest) => escapedText ((codePoint n).reverse ++ done) fuel rest
        | none => escapedText ('u' :: '\\' :: done) fuel rest
      | 'U' =>
        match numberedChar 16 8 rest with
        | some (n, rest) => escapedText ((codePoint n).reverse ++ done) fuel rest
        | none => escapedText ('U' :: '\\' :: done) fuel rest
      | 'c' =>
        match rest with
        | d :: rest => put (d.toUpper.toNat ^^^ 64) rest
        | [] => none
      | _ =>
        match numberedChar 8 3 (c :: rest) with
        | some (n, rest) => put (n % 256) rest
        | none => escapedText (c :: '\\' :: done) fuel rest
    | c :: rest => escapedText (c :: done) fuel rest

/-! ### Parameters -/

/-- The name of a parameter at the front of a text. -/
def parameterName (t : Text) : Text :=
  match t with
  | c :: _ =>
    if isNameStart c then t.takeWhile isNameChar
    else if c.isDigit then t.takeWhile Char.isDigit
    else if isSpecial c then [c]
    else []
  | [] => []

/-- Read the mark that ends a parameter. -/
def closeBrace : Parse Unit := do
  match (← get).rest with
  | '\x7d' :: _ => skip 1
  | _ => failWith (.unclosed "\x7d".toList)

/-- Read a parameter that makes no sense. -/
def readBad (before : Text) : Parse Piece := do
  let t := (← get).rest
  let body := t.takeWhile (· != '\x7d')
  if body.length = t.length then
    skipText body
    failWith (.unclosed "\x7d".toList)
  else
    skipText body
    skip 1
    return .badParameter ("$\x7b".toList ++ before ++ body ++ "\x7d".toList)

/-- Read the modifier of the extended language behind the name of a parameter. -/
def readExtendedModifier (r : Reading) (quoted : Bool) : Parse (Option Modifier) := do
  let pattern (n : Nat) (make : List Piece → Modifier) : Parse (Option Modifier) := do
    skip n
    let pieces ← r.pieces (.brace false)
    closeBrace
    return some (make pieces)
  let replacing (n : Nat) (occurrence : Occurrence) : Parse (Option Modifier) := do
    skip n
    let first ← match occurrence, (← get).rest with
      | .all, '/' :: _ => do
        skip 1
        let rest ← r.pieces (.slash false)
        pure (.plain ['/'] :: rest)
      | _, _ => r.pieces (.slash false)
    let replacement ← match (← get).rest with
      | '/' :: _ => do
        skip 1
        r.pieces (.brace false)
      | _ => pure []
    closeBrace
    return some (.replace occurrence first replacement)
  match (← get).rest with
  | '/' :: '/' :: _ => replacing 2 .all
  | '/' :: '#' :: _ => replacing 2 .start
  | '/' :: '%' :: _ => replacing 2 .stop
  | '/' :: _ => replacing 1 .first
  | '^' :: '^' :: _ => pattern 2 (.casing .upper true)
  | '^' :: _ => pattern 1 (.casing .upper false)
  | ',' :: ',' :: _ => pattern 2 (.casing .lower true)
  | ',' :: _ => pattern 1 (.casing .lower false)
  | '~' :: '~' :: _ => pattern 2 (.casing .swap true)
  | '~' :: _ => pattern 1 (.casing .swap false)
  | '@' :: c :: '\x7d' :: _ =>
    skip 3
    return some (.transform c)
  | ':' :: _ =>
    skip 1
    let start ← r.pieces (.colon quoted)
    let length ← match (← get).rest with
      | ':' :: _ => do
        skip 1
        some <$> r.pieces (.brace true)
      | _ => pure none
    closeBrace
    return some (.part start length)
  | _ => return none

/-- Read the modifier behind the name of a parameter; none when it makes no sense. -/
def readModifier (r : Reading) (quoted : Bool) : Parse (Option Modifier) := do
  let word (n : Nat) (make : List Piece → Modifier) : Parse (Option Modifier) := do
    skip n
    let pieces ← r.pieces (.brace quoted)
    closeBrace
    return some (make pieces)
  let pattern (n : Nat) (make : List Piece → Modifier) : Parse (Option Modifier) := do
    skip n
    let pieces ← r.pieces (.brace false)
    closeBrace
    return some (make pieces)
  match (← get).rest with
  | '\x7d' :: _ =>
    skip 1
    return some .value
  | ':' :: '-' :: _ => word 2 (.default true)
  | ':' :: '=' :: _ => word 2 (.assign true)
  | ':' :: '?' :: _ => word 2 (.demand true)
  | ':' :: '+' :: _ => word 2 (.alternative true)
  | '-' :: _ => word 1 (.default false)
  | '=' :: _ => word 1 (.assign false)
  | '?' :: _ => word 1 (.demand false)
  | '+' :: _ => word 1 (.alternative false)
  | '%' :: '%' :: _ => pattern 2 (.trim true true)
  | '%' :: _ => pattern 1 (.trim true false)
  | '#' :: '#' :: _ => pattern 2 (.trim false true)
  | '#' :: _ => pattern 1 (.trim false false)
  | [] => failWith (.unclosed "\x7d".toList)
  | _ =>
    if (← get).dialect = .extended then readExtendedModifier r quoted else return none

/-- Read the element of an array that is meant, if there is one. -/
def readSelection (r : Reading) : Parse (Option (Selection (List Piece))) := do
  let s ← get
  if s.dialect = .plain then return none
  match s.rest with
  | '[' :: '@' :: ']' :: _ =>
    skip 3
    return some .each
  | '[' :: '*' :: ']' :: _ =>
    skip 3
    return some .joined
  | '[' :: _ =>
    skip 1
    let index ← r.pieces .index
    skip 1
    return some (.element index)
  | _ => return none

/-- Whether the names that begin with one are joined, when they are meant. -/
def namesSign? (t : Text) : Option Bool :=
  match t with
  | '*' :: '\x7d' :: _ => some true
  | '@' :: '\x7d' :: _ => some false
  | _ => none

/-- Read a parameter in braces, behind the opening brace. -/
def readBraces (r : Reading) (quoted : Bool) : Parse Piece := do
  let s ← get
  match s.rest with
  | [] => failWith (.unclosed "\x7d".toList)
  | '#' :: t =>
    let name := parameterName t
    let behind := t.drop name.length
    let isIndexed := s.dialect = .extended && behind.head? = some '['
    if !name.isEmpty && (behind.head? = some '\x7d' || isIndexed) then
      skip (name.length + 1)
      let selection ← readSelection r
      closeBrace
      return .parameter name selection false .length
    else
      skip 1
      match ← readModifier r quoted with
      | some m => return .parameter ['#'] none false m
      | none => readBad ['#']
  | c :: t =>
    let indirect := s.dialect = .extended && c == '!' &&
      (t.head?.any isNameChar || t.take 2 = ['#', '\x7d'])
    let t := if indirect then t else c :: t
    let name := parameterName t
    if name.isEmpty then readBad []
    else
      skip (name.length + if indirect then 1 else 0)
      let behind := (← get).rest
      match if indirect && isName name then namesSign? behind else none with
      | some joined =>
        skip 2
        return .parameter name none false (.names joined)
      | none => pure ()
      let selection ← readSelection r
      match ← readModifier r quoted with
      | some m =>
        let isList := match selection with
          | some (.element _) => false
          | some _ => true
          | none => false
        if indirect && isList then return .parameter name selection false .keys
        else return .parameter name selection indirect m
      | none => readBad name

/-! ### Commands and calculations inside words -/

/-- A script between backquotes without the backslashes that protect characters, and what stands
behind the closing mark. -/
def unquoteScript (quoted : Bool) (done : Text) : Text → Option (Text × Text)
  | [] => none
  | '\\' :: c :: t =>
    if c = '\\' || c = '$' || c.toNat = 0x60 || (quoted && c = '"') then
      unquoteScript quoted (c :: done) t
    else unquoteScript quoted (c :: '\\' :: done) t
  | c :: t =>
    if c.toNat = 0x60 then some (done.reverse, t) else unquoteScript quoted (c :: done) t

/-- Read all commands of a text as a script of its own. -/
def readInner (r : Reading) (t : Text) : Parse Command := do
  let s ← get
  set { s with rest := t, lineText := t, skipped := 0 }
  let c ← r.commands
  if (← peekToken) != .stop then unexpected true none
  set s
  return c

/-- Read commands between backquotes, behind the opening one. -/
def readBackquotes (r : Reading) (quoted : Bool) : Parse Piece := do
  let s ← get
  match unquoteScript quoted [] s.rest with
  | none =>
    if s.dialect = .plain then skipText s.rest
    failWith (.unclosed "\x60".toList)
  | some (script, rest) =>
    let c ← readInner r script
    skipText (s.rest.take (s.rest.length - rest.length))
    return .substitution [c]

/-- Read commands in parentheses, behind the opening one. -/
def readSubstitution (r : Reading) : Parse Piece := do
  let c ← r.commands
  match ← peekToken with
  | .operator ")" =>
    skip 1
    return .substitution [c]
  | .stop =>
    let s ← get
    if s.dialect = .extended then
      set { s with line := s.line + 1 }
      failWith (.unclosed ")".toList)
    else unexpected true (some ")")
  | _ => unexpected true (some ")")

/-- Read the commands in parentheses whose output is read, or whose input is written. -/
def readProcess (r : Reading) (sign : Char) : Parse Piece := do
  skip 2
  match ← readSubstitution r with
  | .substitution commands => return .process (sign == '<') commands
  | p => return p

/-- Read a calculation, behind its opening parentheses. -/
def readArithmetic (r : Reading) : Parse Piece := do
  let s ← get
  let calculation : Parse Piece := do
    let pieces ← r.pieces .arithmetic
    match (← get).rest with
    | ')' :: ')' :: _ =>
      skip 2
      return .arithmetic pieces
    | _ => failWith (.unclosed "))".toList)
  if s.dialect = .plain then calculation
  else
    match calculation.run s with
    | .ok (piece, after) =>
      set after
      return piece
    | .error fault =>
      match (readSubstitution r).run { s with rest := '(' :: s.rest } with
      | .ok (piece, after) =>
        set after
        return piece
      | .error _ => throw fault

/-- Read what a dollar sign stands for, behind it. -/
def readDollar (r : Reading) (quoted : Bool) : Parse Piece := do
  let s ← get
  match s.rest with
  | '(' :: '(' :: _ =>
    skip 2
    readArithmetic r
  | '(' :: _ =>
    skip 1
    readSubstitution r
  | '\x7b' :: _ =>
    skip 1
    readBraces r quoted
  | '\'' :: t =>
    if s.dialect = .extended && !quoted then
      match escapedText [] (t.length + 1) t with
      | some (text, rest) =>
        skipText (s.rest.take (s.rest.length - rest.length))
        return .quoted (text.takeWhile (· != '\x00'))
      | none => failWith (.unclosed ['\''])
    else return literal quoted ['$']
  | c :: _ =>
    if isNameStart c then
      let name := s.rest.takeWhile isNameChar
      skip name.length
      return .parameter name none false .value
    else if c.isDigit || isSpecial c then
      skip 1
      return .parameter [c] none false .value
    else if c = '"' && s.dialect = .extended && !quoted then return .plain []
    else return literal quoted ['$']
  | [] => return literal quoted ['$']

/-! ### Pieces -/

/-- Read a text between single quotation marks, behind the opening one. -/
def readSingle : Parse Piece := do
  let s ← get
  let t := s.rest.takeWhile (· != '\'')
  if t.length = s.rest.length then
    if s.dialect = .plain then skipText t
    failWith (.unclosed ['\''])
  else
    skipText t
    skip 1
    return .quoted t

/-- Read pieces between double quotation marks, behind the opening one. -/
def readDouble (r : Reading) : Parse Piece := do
  let start ← get
  let pieces ← r.pieces .double
  match (← get).rest with
  | '"' :: _ =>
    skip 1
    return .double pieces
  | _ =>
    if start.dialect = .extended then modify fun s => { start with rest := s.rest }
    failWith (.unclosed ['"'])

/-- Whether a character has no meaning, wherever it stands. -/
def isOrdinary (c : Char) : Bool :=
  !endsWord c && c != '\\' && c != '\'' && c != '"' && c != '$' && c.toNat != 0x60 &&
    c != '\x7d' && c != '/' && c != ':' && c != ']'

/-- Read the piece that begins with a character.  Without one the character stands for itself. -/
def readPiece? (r : Reading) (site : Site) (c : Char) (t : Text) : Parse (Option (List Piece)) := do
  let quoted := site.isQuoted
  if c = '\\' then
    match t with
    | '\n' :: _ =>
      skip 1
      modify fun s => { s with rest := s.rest.drop 1, line := s.line + 1 }
      return some []
    | d :: _ =>
      if !quoted || site.isEscapable d then
        skipText [c, d]
        return some [.quoted [d]]
      else
        skip 1
        return some [.quoted ['\\']]
    | [] =>
      skip 1
      return some [literal quoted ['\\']]
  else if c = '$' then
    skip 1
    return some [← readDollar r quoted]
  else if c.toNat = 0x60 then
    skip 1
    return some [← readBackquotes r quoted]
  else if c = '\'' && !quoted then
    skip 1
    return some [← readSingle]
  else if c = '"' && site = .arithmetic then
    skip 1
    return some []
  else if c = '"' && site != .document then
    skip 1
    return some [← readDouble r]
  else return none

/-- Whether a group of a pattern begins with a character, given what stands behind it. -/
def opensGroup (site : Site) (c : Char) (t : Text) : Bool :=
  (site == .word || site == .group) && "@?+*!".toList.any (· == c) && t.head? = some '('

/-- Read pieces up to what ends them: `depth` counts the open parentheses of a calculation. -/
def readPiecesFrom (r : Reading) (site : Site) (depth : Nat) (done : List Piece) :
    Nat → Parse (List Piece)
  | 0 => return done.reverse
  | fuel + 1 => do
    match (← get).rest with
    | [] => return done.reverse
    | c :: t =>
      let s ← get
      if site = .word && opensProcess s.dialect (c :: t) then
        let piece ← readProcess r c
        readPiecesFrom r site depth (piece :: done) fuel
      else if s.groups && opensGroup site c t then
        skip 2
        let pieces ← r.pieces .group
        skip 1
        readPiecesFrom r site depth
          (.plain [')'] :: pieces.reverse ++ .plain [c, '('] :: done) fuel
      else if site.isEnd c then return done.reverse
      else if site = .arithmetic && c = ')' && depth = 0 then return done.reverse
      else
        match ← readPiece? r site c t with
        | some pieces => readPiecesFrom r site depth (pieces.reverse ++ done) fuel
        | none =>
          let run := if isOrdinary c then (c :: t).takeWhile isOrdinary else [c]
          skipText run
          let depth := if site = .arithmetic && c = '(' then depth + 1
            else if site = .arithmetic && c = ')' then depth - 1 else depth
          readPiecesFrom r site depth (literal site.isQuoted run :: done) fuel

/-- Read pieces up to what ends them. -/
def readPieces (r : Reading) (site : Site) : Parse (List Piece) := do
  return Word.join (← readPiecesFrom r site 0 [] ((← get).rest.length + 1))

/-! ### Here-documents -/

/-- The text up to the end of a line, which is no line end between quotation marks; `quote` is the
mark that is open. -/
def untilLineEnd (quote : Option Char) (done : Text) : Text → Text × Text
  | [] => (done.reverse, [])
  | '\\' :: c :: t =>
    if quote = some '\'' then untilLineEnd quote ('\\' :: done) (c :: t)
    else untilLineEnd quote (c :: '\\' :: done) t
  | c :: t =>
    match quote with
    | some q => untilLineEnd (if c = q then none else quote) (c :: done) t
    | none =>
      if c = '\n' then (done.reverse, c :: t)
      else untilLineEnd (if c = '\'' || c = '"' then some c else none) (c :: done) t
termination_by t => t.length

/-- The lines of a here-document up to its mark, what stands behind the mark, and the number of
lines; `joined` says that the line before went on. -/
def documentLines (mark : Text) (strip isPlain joined : Bool) (count : Nat) (done : List Text) :
    List Text → Text × List Text × Nat × Bool
  | [] => (done.reverse.flatten, [], count, false)
  | line :: rest =>
    let line := if strip then line.dropWhile (· == '\t') else line
    if !joined && Text.chomp line = mark then (done.reverse.flatten, rest, count + 1, true)
    else
      let slashes := ((Text.chomp line).reverse.takeWhile (· == '\\')).length
      documentLines mark strip isPlain (!isPlain && slashes % 2 = 1) (count + 1) (line :: done) rest

/-- A text without quotation marks and the backslashes that protect characters. -/
def unquoted (quote : Option Char) (done : Text) : Text → Text
  | [] => done.reverse
  | '\\' :: c :: t =>
    if quote = some '\'' then unquoted quote ('\\' :: done) (c :: t)
    else unquoted quote (c :: done) t
  | c :: t =>
    match quote with
    | some q => if c = q then unquoted none done t else unquoted quote (c :: done) t
    | none =>
      if c = '\'' || c = '"' then unquoted (some c) done t else unquoted none (c :: done) t
termination_by t => t.length

/-- Read a here-document, behind its sign: the mark that ends it follows, and its lines begin behind
the end of this one.  They are cut out of the text. -/
def readDocument (r : Reading) (strip : Bool) : Parse (List Piece) := do
  match ← peekToken with
  | .word _ =>
    let s ← get
    let (line, _) := untilLineEnd none [] s.rest
    let raw := wordText none [] line
    skipText raw
    let mark := unquoted none [] raw
    let isPlain := mark != raw
    let s ← get
    let (before, behind) := untilLineEnd none [] s.rest
    let (body, left, count, ended) :=
      documentLines mark strip isPlain false 0 [] (linesEnded (behind.drop 1))
    let count := if behind.isEmpty then 0 else count
    let isWhole := body.isEmpty || ended || body.getLast? = some '\n' || s.dialect = .extended
    let lineEnds := if isWhole then count else count - 1
    let body := if !ended && s.dialect = .extended && !body.isEmpty then
        Text.chomp body ++ ['\n'] else body
    let first := s.line + s.skipped
    let cutOff : List OpenDocument := if ended then [] else [⟨first, first + count, mark⟩]
    set { s with
      cutOff := cutOff ++ s.cutOff
      rest := before ++ (if behind.isEmpty then [] else ['\n']) ++ left.flatten,
      skipped := s.skipped + lineEnds }
    if isPlain then return [.quoted body]
    else
      let outer ← get
      set { outer with rest := body, line := outer.line + 1 }
      let pieces ← r.pieces .document
      set { outer with cutOff := (← get).cutOff }
      return pieces
  | _ => unexpected false none
where
  /-- The text of a word with its quotation marks. -/
  wordText (quote : Option Char) (done : Text) : Text → Text
    | [] => done.reverse
    | '\\' :: c :: t =>
      if quote = some '\'' then wordText quote ('\\' :: done) (c :: t)
      else wordText quote (c :: '\\' :: done) t
    | c :: t =>
      match quote with
      | some q => wordText (if c = q then none else quote) (c :: done) t
      | none =>
        if endsWord c then done.reverse
        else wordText (if c = '\'' || c = '"' then some c else none) (c :: done) t
  termination_by t => t.length

end ComponentFile.Shell
