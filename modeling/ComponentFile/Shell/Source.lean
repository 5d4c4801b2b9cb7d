import ComponentFile.Shell.Syntax
import ComponentFile.Text.Numeral

/-!
# Reading scripts: characters and tokens

A script is read line by line, so that the commands of a line run before the next line is read.  A
here-document is cut out of the lines behind its command as soon as its mark is read.

## Main definitions

* `Shell.Source`, `Shell.Parse` : what is left of a script, and reading from it.
* `Shell.SyntaxFault` : why a script cannot be read.
* `Shell.Token`, `Shell.peekToken` : the next token.
-/

namespace ComponentFile.Shell

open Text

/-- A here-document that the end of the script cuts off: its first line, the last one of the script,
and the mark that would have ended it. -/
structure OpenDocument where
  line : Nat
  lastLine : Nat
  mark : Text

/-- What is left of a script: the text, the number of its line, the lines of here-documents that
the next line end has to count, the text from the front of the line, and the aliases. -/
structure Source where
  dialect : Dialect
  rest : Text
  line : Nat
  skipped : Nat
  lineText : Text
  aliases : List (Text × Text)
  /-- Whether patterns may have groups. -/
  groups : Bool
  /-- The here-documents that were cut off, the last one first. -/
  cutOff : List OpenDocument

/-- The source of a script. -/
def Source.ofText (dialect : Dialect) (line : Nat) (t : Text) : Source :=
  ⟨dialect, t, line, 0, t, [], false, []⟩

/-- A token. -/
inductive Token where
  | stop
  | newline
  | redirection (sign : Text)
  | operator (sign : String)
  | word (t : Text)
  deriving DecidableEq, Repr

/-- What is wrong with a script. -/
inductive SyntaxProblem where
  | unexpected (token : Token) (isKeyword : Bool) (expected : Option String)
  | unclosed (mark : Text)
  | badFunctionName
  | badLoopVariable
  | badStream
  | badTest (message near : Text)
  | tooDeep

/-- Why a script cannot be read, with the place, and the here-documents before it that were cut
off. -/
structure SyntaxFault where
  line : Nat
  lineText : Text
  problem : SyntaxProblem
  cutOff : List OpenDocument

/-- Reading from a script. -/
abbrev Parse := StateT Source (Except SyntaxFault)

/-- The words that have a meaning of their own where a command may begin. -/
def keywords : List String :=
  ["!", "case", "do", "done", "elif", "else", "esac", "fi", "for", "if", "in", "then", "until",
    "while", "\x7b", "\x7d"]

/-- Whether a token is a certain word. -/
def Token.isWord (token : Token) (w : String) : Bool :=
  match token with
  | .word t => t == w.toList
  | _ => false

/-- Whether a token is a certain operator. -/
def Token.isOperator (token : Token) (sign : String) : Bool :=
  match token with
  | .operator s => s == sign
  | _ => false

/-! ### Faults -/

/-- A text between double quotation marks. -/
def inDoubleQuotes (t : Text) : Text :=
  '"' :: t ++ ['"']

/-- A token in the wording of the plain language. -/
def Token.plainName (token : Token) (isKeyword : Bool) : Text :=
  match token with
  | stop => "end of file".toList
  | newline => "newline".toList
  | redirection _ => "redirection".toList
  | operator sign => inDoubleQuotes sign.toList
  | word t => if isKeyword then inDoubleQuotes t else "word".toList

/-- A token in the wording of the extended language. -/
def Token.extendedName : Token → Text
  | stop => "newline".toList
  | newline => "newline".toList
  | redirection sign => sign
  | operator sign => sign.toList
  | word t => t

/-- What the plain language says to an end of the script behind an open mark. -/
def unclosedMessage (mark : Text) : String :=
  match String.ofList mark with
  | "\x60" => "EOF in backquote substitution"
  | "\x7d" => "Missing '\x7d'"
  | "))" => "Missing '))'"
  | ")" => "end of file unexpected (expecting \")\")"
  | _ => "Unterminated quoted string"

/-- The wording of a fault in the plain language, with the number of its line. -/
def SyntaxFault.plainMessage (fault : SyntaxFault) : Nat × Text :=
  let problem : Text := match fault.problem with
    | .unexpected token isKeyword expected =>
      token.plainName isKeyword ++ " unexpected".toList ++ match expected with
        | some e => " (expecting ".toList ++ inDoubleQuotes e.toList ++ [')']
        | none => []
    | .unclosed mark => (unclosedMessage mark).toList
    | .badFunctionName => "Bad function name".toList
    | .badLoopVariable => "Bad for loop variable".toList
    | .badStream => "Bad fd number".toList
    | .badTest message _ => message
    | .tooDeep => "word unexpected".toList
  (fault.line, "Syntax error: ".toList ++ problem)

/-- The lines of the wording of a fault in the extended language, each with the number of its
line. -/
def SyntaxFault.extendedMessages (fault : SyntaxFault) : List (Nat × Text) :=
  let source := "\x60".toList ++ fault.lineText ++ ['\'']
  match fault.problem with
  | .unexpected .stop _ _ => [(fault.line, "syntax error: unexpected end of file".toList)]
  | .unexpected token _ _ =>
    [(fault.line, "syntax error near unexpected token \x60".toList ++ token.extendedName ++ ['\'']),
      (fault.line, source)]
  | .unclosed [']', ']'] =>
    [(fault.line, "unexpected EOF while looking for \x60]]'".toList),
      (fault.line + 1, "syntax error: unexpected end of file".toList)]
  | .unclosed mark =>
    let mark := if mark = "))".toList then [')'] else mark
    [(fault.line, "unexpected EOF while looking for matching \x60".toList ++ mark ++ ['\''])]
  | .badTest message near =>
    (if message.isEmpty then [] else [(fault.line, message)]) ++
      [(fault.line, "syntax error near \x60".toList ++ near ++ ['\'']), (fault.line, source)]
  | _ => [(fault.line, "syntax error".toList)]

/-- Stop reading. -/
def failWith {α : Type} (problem : SyntaxProblem) : Parse α := fun s =>
  .error ⟨s.line, s.lineText.takeWhile (· != '\n'), problem, s.cutOff⟩

/-! ### Characters -/

/-- The text behind blanks, joined lines and a comment, and the number of lines that were joined. -/
def dropBlanks (lines : Nat) : Text → Text × Nat
  | ' ' :: t => dropBlanks lines t
  | '\t' :: t => dropBlanks lines t
  | '\\' :: '\n' :: t => dropBlanks (lines + 1) t
  | '#' :: t => (t.dropWhile (· != '\n'), lines)
  | t => (t, lines)

/-- Go on behind blanks. -/
def skipBlanks : Parse Unit :=
  modify fun s =>
    let (rest, lines) := dropBlanks 0 s.rest
    { s with rest := rest, line := s.line + lines }

/-- Go on behind a number of characters, none of which ends a line. -/
def skip (n : Nat) : Parse Unit :=
  modify fun s => { s with rest := s.rest.drop n }

/-- Go on behind the character that ends a line, and the here-documents behind it. -/
def skipLineEnd : Parse Unit :=
  modify fun s =>
    let rest := s.rest.drop 1
    { s with rest := rest, line := s.line + 1 + s.skipped, skipped := 0, lineText := rest }

/-- Go on behind a text of several lines. -/
def skipText (t : Text) : Parse Unit :=
  modify fun s =>
    { s with rest := s.rest.drop t.length, line := s.line + (t.filter (· == '\n')).length }

/-- Whether a character ends a plain word. -/
def endsWord (c : Char) : Bool :=
  c == ' ' || c == '\t' || c == '\n' || c == ';' || c == '&' || c == '|' || c == '<' || c == '>' ||
    c == '(' || c == ')'

/-! ### Tokens -/

/-- The signs of redirections, the longest first. -/
def redirectionSigns (dialect : Dialect) : List String :=
  let plain := ["<<-", "<<", "<&", "<>", ">>", ">|", ">&", "<", ">"]
  match dialect with
  | .plain => plain
  | .extended => ["<<<", "&>>", "&>"] ++ plain

/-- The operators, the longest first. -/
def operatorSigns (dialect : Dialect) : List String :=
  let plain := [";;", "&&", "||", ";", "&", "|", "(", ")"]
  match dialect with
  | .plain => plain
  | .extended => [";;&", ";&", "|&"] ++ plain

/-- The digits of the number of a stream at the front of a redirection. -/
def streamDigits (dialect : Dialect) (t : Text) : Text :=
  let digits := t.takeWhile Char.isDigit
  match t.drop digits.length with
  | c :: _ =>
    if (c = '<' || c = '>') && (dialect = .extended || digits.length ≤ 1) then digits else []
  | [] => []

/-- The sign at the front of a text. -/
def signAt? (signs : List String) (t : Text) : Option String :=
  signs.find? fun sign => Text.startsWith sign t

/-- Whether a word begins with commands whose output is read, or whose input is written. -/
def opensProcess (dialect : Dialect) (t : Text) : Bool :=
  dialect = .extended && (Text.startsWith "<(" t || Text.startsWith ">(" t)

/-- The token at the front of a text without blanks in front. -/
def tokenAt (dialect : Dialect) (t : Text) : Token :=
  match t with
  | [] => .stop
  | '\n' :: _ => .newline
  | _ =>
    if opensProcess dialect t then .word (t.take 2) else
    let behind := t.drop (streamDigits dialect t).length
    match signAt? (redirectionSigns dialect) behind with
    | some sign => .redirection sign.toList
    | none =>
      match signAt? (operatorSigns dialect) t with
      | some sign => .operator sign
      | none => .word (t.takeWhile fun c => !endsWord c)

/-- The next token, behind blanks; it is still to be read. -/
def peekToken : Parse Token := do
  skipBlanks
  let s ← get
  return tokenAt s.dialect s.rest

/-- Complain about the next token. -/
def unexpected {α : Type} (inCommandPlace : Bool) (expected : Option String) : Parse α := do
  let token ← peekToken
  let isKeyword := inCommandPlace && match token with
    | .word t => keywords.any fun k => k.toList == t
    | _ => false
  let s ← get
  match s.dialect, token with
  | .extended, .stop =>
    if inCommandPlace && !s.lineText.isEmpty then set { s with line := s.line + 1 }
  | .plain, .newline => set { s with line := s.line + 1 + s.skipped }
  | _, _ => pure ()
  failWith (.unexpected token isKeyword expected)

/-- Go on behind an operator. -/
def skipOperator (sign : String) : Parse Unit :=
  skip sign.length

/-- Go on behind line ends and blanks. -/
def skipLinesFrom : Nat → Parse Unit
  | 0 => pure ()
  | fuel + 1 => do
    match ← peekToken with
    | .newline =>
      skipLineEnd
      skipLinesFrom fuel
    | _ => pure ()

/-- Go on behind line ends and blanks. -/
def skipLines : Parse Unit := do
  skipLinesFrom ((← get).rest.length + 1)

/-- Whether the next token is a certain operator, which is then read. -/
def takeOperator (sign : String) : Parse Bool := do
  if (← peekToken).isOperator sign then
    skipOperator sign
    return true
  else return false

/-- Whether the next token is a certain word, which is then read. -/
def takeWord (w : String) : Parse Bool := do
  if (← peekToken).isWord w then
    skip w.length
    return true
  else return false

/-- Read a certain word. -/
def expectWord (w : String) : Parse Unit := do
  if !(← takeWord w) then unexpected true (some w)

/-- Read a certain operator. -/
def expectOperator (sign : String) : Parse Unit := do
  if !(← takeOperator sign) then unexpected true (some sign)

end ComponentFile.Shell
