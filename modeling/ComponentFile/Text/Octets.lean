import ComponentFile.Text.Utf8

/-!
# Octets

Programs exchange bytes.  A text of octets holds one character below 256 for each byte, so that
bytes are handled like any other text.

## Main definitions

* `Text.ofBytes`, `Text.toBytes` : octets and bytes.
* `Text.octets`, `Text.ofOctets` : the octets of a text, and the text that octets stand for.
* `Text.linesEnded`, `Text.splitLines` : the lines of octets.
* `Text.trimLineEnds` : octets without the line ends behind them.
-/

namespace ComponentFile.Text

/-- The octets of bytes. -/
def ofBytes (b : Bytes) : Text :=
  b.map fun x => Char.ofNat x.toNat

/-- The bytes of octets. -/
def toBytes (t : Text) : Bytes :=
  t.map fun c => UInt8.ofNat c.toNat

/-- The octets of a text, byte by byte of its UTF-8 form. -/
def octets (t : Text) : Text :=
  ofBytes (encode t)

/-- The text that octets stand for. -/
def ofOctets (t : Text) : Text :=
  decodeLossy (toBytes t)

/-! ### Lines -/

/-- The lines, each with the line feed that ends it, put behind those that are known in reverse; the
line that is being read is kept in reverse. -/
def linesEndedFrom (done : List Text) (line : Text) : Text → List Text
  | [] => (if line.isEmpty then done else line.reverse :: done).reverse
  | '\n' :: t => linesEndedFrom (('\n' :: line).reverse :: done) [] t
  | c :: t => linesEndedFrom done (c :: line) t

/-- The lines, each with the line feed that ends it; the last one may have none. -/
def linesEnded (t : Text) : List Text :=
  linesEndedFrom [] [] t

/-- A line without the line feed that ends it. -/
def chomp (line : Text) : Text :=
  if line.getLast? = some '\n' then line.dropLast else line

/-- The lines without the line feeds that end them. -/
def splitLines (t : Text) : List Text :=
  (linesEnded t).map chomp

/-- Lines, each ended by a line feed. -/
def joinLines (ls : List Text) : Text :=
  ls.flatMap fun l => l ++ ['\n']

/-- Octets without the line feeds at their end. -/
def trimLineEnds (t : Text) : Text :=
  (t.reverse.dropWhile (· == '\n')).reverse

/-! ### Classes -/

/-- Whether a character is white space of the C locale. -/
def isWhite (c : Char) : Bool :=
  c == ' ' || (9 ≤ c.toNat && c.toNat ≤ 13)

/-- Whether a character is a space or a tab. -/
def isGap (c : Char) : Bool :=
  c == ' ' || c == '\t'

/-- Whether a character can stand in a name. -/
def isNameChar (c : Char) : Bool :=
  c.isAlphanum || c == '_'

/-- Whether a text is a name: letters, digits and underscores, no digit at the front. -/
def isName (t : Text) : Bool :=
  t.all isNameChar && t.head?.any fun c => !c.isDigit

/-- Whether a text has the given beginning. -/
def startsWith (key : String) (t : Text) : Bool :=
  key.toList.isPrefixOf t

/-- The words of a text, which are separated by white space. -/
def words (t : Text) : List Text :=
  (t.splitOnP isWhite).filter fun w => !w.isEmpty

end ComponentFile.Text
