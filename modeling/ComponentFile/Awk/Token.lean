import ComponentFile.Awk.Syntax
import ComponentFile.Decimal.Layout
import ComponentFile.Regex.Reader
import ComponentFile.Tools.Format

/-!
# Tokens of programs of patterns and actions

## Main definitions

* `Awk.Token` : a token, with its line and the text it was read from.
* `Awk.tokens` : the tokens of a text.

A slash begins a pattern unless the token before it ends a value.
-/

namespace ComponentFile.Awk

open Text

/-- What a token is. -/
inductive Kind where
  | number (x : Float)
  | text (t : Text)
  | regex (t : Text)
  | name (n : Text)
  | function (n : Text)
  | builtin (n : Text)
  | keyword (n : String)
  | sign (s : String)
  | lineEnd
  | stop
  | flaw (message : Text)

/-- A token with its line and its spelling, and the numbers of parentheses and blocks that are open
before it. -/
structure Token where
  kind : Kind
  line : Nat
  spelling : Text
  parentheses : Nat
  blocks : Nat

/-- The words with a meaning of their own. -/
def keywords : List String :=
  ["BEGIN", "END", "function", "if", "else", "while", "for", "do", "in", "next", "nextfile",
    "exit", "return", "break", "continue", "delete", "print", "printf", "getline"]

/-- The functions that every program has. -/
def builtins : List String :=
  ["length", "substr", "index", "split", "sub", "gsub", "match", "sprintf", "sin", "cos", "atan2",
    "exp", "log", "sqrt", "int", "rand", "srand", "tolower", "toupper", "system", "close", "fflush",
    "systime", "strftime", "mktime"]

/-- The signs, longer ones first. -/
def signs : List String :=
  ["&&", "||", "<=", ">=", "==", "!=", "!~", "++", "--", "+=", "-=", "*=", "/=", "%=", "^=",
    ">>", "\x7b", "\x7d", "(", ")", "[", "]", ";", ",", "+", "-", "*", "/", "%", "^", "!", ">",
    "<", "|", "?", ":", "~", "$", "="]

/-- Whether a token ends a value, so that a slash behind it divides. -/
def endsValue : Kind → Bool
  | .number _ => true
  | .text _ => true
  | .regex _ => true
  | .name _ => true
  | .builtin _ => true
  | .sign s => [")", "]", "++", "--", "$"].contains s
  | _ => false

/-- The double nearest to a quantity. -/
def floatOf : Quantity → Float
  | .finite negative num den =>
    match Double.nearest? num den 0 with
    | none => if negative then -(1.0 / 0.0) else 1.0 / 0.0
    | some (mantissa, exponent) =>
      let x := Float.scaleB (Float.ofNat mantissa) exponent
      if negative then -x else x
  | .infinite negative => if negative then -(1.0 / 0.0) else 1.0 / 0.0
  | .undefined _ => 0.0 / 0.0

/-- The text of a quotation and the text behind it, put behind what is known in reverse. -/
def quoted? (done : Text) : Nat → Text → Option (Text × Text)
  | 0, _ => none
  | fuel + 1, t =>
    match t with
    | [] => none
    | '"' :: u => some (done.reverse, u)
    | '\n' :: _ => none
    | '\\' :: '\n' :: u => quoted? done fuel u
    | '\\' :: '"' :: u => quoted? ('"' :: done) fuel u
    | '\\' :: 'x' :: u =>
      let digits := (u.take 2).takeWhile fun c => (hexDigit? c).isSome
      match natIn? 16 digits with
      | some n => quoted? (Char.ofNat n :: done) fuel (u.drop digits.length)
      | none => quoted? ('x' :: '\\' :: done) fuel u
    | '\\' :: c :: u =>
      match Escapes.read .posix false (c :: u) with
      | (.text made, rest) => quoted? (made.reverse ++ done) fuel rest
      | (.stop, _) => none
    | c :: u => quoted? (c :: done) fuel u

/-- The text of a pattern up to its slash and the text behind it, put behind what is known in
reverse. -/
def pattern? (done : Text) (inBracket : Bool) : Text → Option (Text × Text)
  | [] => none
  | '\\' :: '/' :: t => pattern? ('/' :: done) inBracket t
  | '\\' :: c :: t => pattern? (c :: '\\' :: done) inBracket t
  | '\n' :: _ => none
  | c :: t =>
    if c = '/' && !inBracket then some (done.reverse, t)
    else pattern? (c :: done) (if c = '[' then true else if c = ']' then false else inBracket) t

/-- A token at the front of a text that does not begin with white space, and the text behind it. -/
def readToken (last : Option Kind) (t : Text) : Option (Kind × Text) :=
  match t with
  | [] => none
  | c :: u =>
    if c = '"' then (quoted? [] (u.length + 1) u).map fun found => (.text found.1, found.2)
    else if c = '/' && !(last.any endsValue) then
      (pattern? [] false u).map fun found => (.regex found.1, found.2)
    else if c.isDigit || (c = '.' && u.head?.any Char.isDigit) then
      (Quantity.readDigits 10 10 ['e', 'E'] t).map fun found =>
        (.number (floatOf (.finite false found.1 found.2.1)), found.2.2)
    else if isNameChar c then
      let word := t.takeWhile isNameChar
      let rest := t.drop word.length
      match keywords.find? fun k => k.toList == word with
      | some k => some (.keyword k, rest)
      | none =>
        if builtins.any fun b => b.toList == word then some (.builtin word, rest)
        else if rest.head? = some '(' then some (.function word, rest)
        else some (.name word, rest)
    else
      (signs.find? fun s => s.toList.isPrefixOf t).map fun s => (.sign s, t.drop s.length)

/-- Why a regular expression makes no sense. -/
def regexFault : Regex.Fault → String
  | .parenthesis => "missing ')'"
  | .closing => "missing '('"
  | .content => "bad interval expression"
  | .preceding => "missing operand"
  | _ => "bad class -- [], [^] or [)"

/-- The regular expression that a text is, or what is said about it. -/
def regexOf (t : Text) : Except Text Regex :=
  (Regex.read { extended := true, escapes := true, filled := true } t).mapError fun fault =>
    "regular expression compile failed (".toList ++ (regexFault fault).toList ++ ")\n".toList ++ t

/-- What is said about text that is no token. -/
def flawOf (last : Option Kind) (line : Nat) (t : Text) : Text :=
  let run (u : Text) : Text := (u.takeWhile (· != '\n')).take 10 ++ " ...".toList
  match t with
  | '"' :: u => "line ".toList ++ ofNat line ++ ": runaway string constant \"".toList ++ run u
  | c :: u =>
    if c = '/' && !(last.any endsValue) then
      "line ".toList ++ ofNat line ++ ": runaway regular expression /".toList ++ run u
    else ofNat line ++ ": unexpected character '".toList ++ [c, '\'']
  | [] => []

/-- What has been read: the tokens in reverse, the messages in reverse, and the numbers of
parentheses and blocks that are open. -/
structure Scanned where
  tokens : List Token
  messages : List Text
  parentheses : Nat
  blocks : Nat

/-- One more token. -/
def Scanned.add (s : Scanned) (kind : Kind) (line : Nat) (spelling : Text) : Scanned :=
  let token : Token := ⟨kind, line, spelling, s.parentheses, s.blocks⟩
  match kind with
  | .sign "(" => { s with tokens := token :: s.tokens, parentheses := s.parentheses + 1 }
  | .sign ")" =>
    if s.parentheses = 0 then
      { s with messages := ("line ".toList ++ ofNat line ++ ": extra ')'".toList) :: s.messages }
    else { s with tokens := token :: s.tokens, parentheses := s.parentheses - 1 }
  | .sign "\x7b" => { s with tokens := token :: s.tokens, blocks := s.blocks + 1 }
  | .sign "\x7d" => { s with tokens := token :: s.tokens, blocks := s.blocks - 1 }
  | .regex r =>
    match regexOf r with
    | .ok _ => { s with tokens := token :: s.tokens }
    | .error message =>
      let flaw := "line ".toList ++ ofNat line ++ ": ".toList ++ message
      { s with tokens := { token with kind := .flaw flaw } :: s.tokens }
  | _ => { s with tokens := token :: s.tokens }

/-- The tokens of a text behind those that are known.  What is no token ends them. -/
def tokensFrom (s : Scanned) (line : Nat) : Nat → Text → Scanned
  | 0, _ => s
  | fuel + 1, t =>
    match t with
    | [] => s.add .stop line []
    | '\n' :: u => tokensFrom (s.add .lineEnd line []) (line + 1) fuel u
    | '\\' :: '\n' :: u => tokensFrom s (line + 1) fuel u
    | '#' :: u => tokensFrom s line fuel (u.dropWhile (· != '\n'))
    | c :: u =>
      if isWhite c then tokensFrom s line fuel u
      else
        let last := s.tokens.head?.map Token.kind
        match readToken last t with
        | none => s.add (.flaw (flawOf last line t)) line [c]
        | some (kind, rest) =>
          tokensFrom (s.add kind line (t.take (t.length - rest.length))) line fuel rest

/-- The tokens of a text, and what is wrong with it besides. -/
def tokens (t : Text) : List Token × List Text :=
  let s := tokensFrom ⟨[], [], 0, 0⟩ 1 (t.length + 2) t
  (s.tokens.reverse, s.messages.reverse)

end ComponentFile.Awk
