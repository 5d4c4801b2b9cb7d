import ComponentFile.Json.Number

/-!
# JSON tokens

The lexical form of JSON.  A string is kept even when it names halves of surrogate pairs, which
stand for no character: such a string has no text, but it may still be passed over.

## Main definitions

* `Json.Scalar`, `Json.Token` : values without parts, and tokens.
* `Json.tokens` : the tokens of a text, up to the first fault.
-/

namespace ComponentFile.Json

/-- A value without parts.  A string has no text when some surrogate in it is not paired. -/
inductive Scalar where
  | null
  | bool (value : Bool)
  | number (numeral : Numeral)
  | string (text : Option Text)
  deriving DecidableEq, Repr

/-- A JSON token; `bad` is where the text stops being JSON. -/
inductive Token where
  | scalar (value : Scalar)
  | beginArray
  | endArray
  | beginObject
  | endObject
  | colon
  | comma
  | bad
  deriving DecidableEq, Repr

/-- White space between tokens. -/
def isGap (c : Char) : Bool :=
  c == ' ' || c == '\t' || c == '\n' || c == '\r'

/-! ### Strings -/

/-- The value of hexadecimal digits. -/
def hexValue? (digits : Text) : Option Nat :=
  digits.foldlM (fun n c => (Text.hexDigit? c).map fun d => n * 16 + d) 0

/-- The character that a backslash and another character stand for. -/
def escaped? : Char → Option Char
  | '"' => some '"'
  | '\\' => some '\\'
  | '/' => some '/'
  | 'b' => some '\x08'
  | 'f' => some '\x0c'
  | 'n' => some '\n'
  | 'r' => some '\r'
  | 't' => some '\t'
  | _ => none

/-- The inside of a string as far as it has been read: its characters in reverse, whether every
surrogate so far has been paired, and the first half of a pair that waits for its second. -/
structure OpenString where
  done : Text
  sound : Bool
  half : Option Nat

namespace OpenString

/-- Append a character.  A half that waits stays alone. -/
def push (s : OpenString) (c : Char) : OpenString :=
  ⟨c :: s.done, s.sound && s.half.isNone, none⟩

/-- Append a 16-bit unit. -/
def pushUnit (s : OpenString) (unit : Nat) : OpenString :=
  if 0xD800 ≤ unit ∧ unit < 0xDC00 then
    ⟨s.done, s.sound && s.half.isNone, some unit⟩
  else if 0xDC00 ≤ unit ∧ unit < 0xE000 then
    match s.half with
    | some high =>
      ⟨Char.ofNat (0x10000 + (high - 0xD800) * 0x400 + (unit - 0xDC00)) :: s.done, s.sound, none⟩
    | none => ⟨s.done, false, none⟩
  else s.push (Char.ofNat unit)

/-- The text of a string that is complete. -/
def text? (s : OpenString) : Option Text :=
  if s.sound && s.half.isNone then some s.done.reverse else none

end OpenString

/-- The remainder of a string, up to its closing quotation mark, and the text behind that. -/
def readString? (s : OpenString) : Text → Option (Option Text × Text)
  | [] => none
  | '"' :: t => some (s.text?, t)
  | '\\' :: 'u' :: a :: b :: c :: d :: t =>
    match hexValue? [a, b, c, d] with
    | some unit => readString? (s.pushUnit unit) t
    | none => none
  | '\\' :: c :: t =>
    match escaped? c with
    | some e => readString? (s.push e) t
    | none => none
  | c :: t => if c.toNat < 0x20 || c = '\\' then none else readString? (s.push c) t

/-! ### Tokens -/

/-- The token that begins with `c` and goes on in the text `t`, and the text behind it. -/
def readToken (c : Char) (t : Text) : Token × Text :=
  let orBad (found : Option (Token × Text)) : Token × Text := found.getD (.bad, [])
  let word (rest : String) (value : Scalar) : Token × Text :=
    if rest.toList.isPrefixOf t then (.scalar value, t.drop rest.length) else (.bad, [])
  match c with
  | '[' => (.beginArray, t)
  | ']' => (.endArray, t)
  | '{' => (.beginObject, t)
  | '}' => (.endObject, t)
  | ':' => (.colon, t)
  | ',' => (.comma, t)
  | 'n' => word "ull" .null
  | 't' => word "rue" (.bool true)
  | 'f' => word "alse" (.bool false)
  | '"' =>
    orBad ((readString? ⟨[], true, none⟩ t).map fun found => (.scalar (.string found.1), found.2))
  | _ => orBad ((Numeral.read? (c :: t)).map fun found => (.scalar (.number found.1), found.2))

/-- The tokens of a text.  They end with `bad` where the text stops being JSON. -/
def tokensFrom : Nat → Text → List Token
  | 0, _ => []
  | fuel + 1, t =>
    match t.dropWhile isGap with
    | [] => []
    | c :: u =>
      let found := readToken c u
      found.1 :: if found.1 = .bad then [] else tokensFrom fuel found.2

/-- The tokens of a text.  Each of them takes a character, so the length of the text bounds their
number. -/
def tokens (t : Text) : List Token :=
  tokensFrom t.length t

end ComponentFile.Json
