import ComponentFile.Text.Chunks
import ComponentFile.Tools.Copy

/-!
# Octets in writing

Octets that are no text are written with the signs of an alphabet, each of which stands for a few
bits, or they are shown as numbers, several in a row.

## Main definitions

* `Alphabet` : the signs that groups of octets are written with.
* `Alphabet.encode`, `Alphabet.decode` : writing octets, and reading what was written.
* `Dump.Field` : how octets are shown as numbers or as characters.
* `Tools.baseTool`, `Tools.od` : the tools that do this.
-/

namespace ComponentFile

open Text

/-! ### Alphabets -/

/-- The signs that groups of octets are written with: how many bits a sign stands for, and how many
octets and signs make a group. -/
structure Alphabet where
  signs : Text
  bits : Nat
  octets : Nat
  size : Nat

namespace Alphabet

/-- The alphabet of 64 signs. -/
def sixtyFour : Alphabet :=
  ⟨"ABCDEFGHIJKLMNOPQRSTUVWXYZabcdefghijklmnopqrstuvwxyz0123456789+/".toList, 6, 3, 4⟩

/-- The alphabet of 32 signs. -/
def thirtyTwo : Alphabet :=
  ⟨"ABCDEFGHIJKLMNOPQRSTUVWXYZ234567".toList, 5, 5, 8⟩

/-- The sign with a number. -/
def sign (a : Alphabet) (n : Nat) : Char :=
  a.signs[n]?.getD '='

/-- The number of a sign. -/
def number? (a : Alphabet) (c : Char) : Option Nat :=
  a.signs.findIdx? (· == c)

/-- The number of signs that some octets of a group need. -/
def needed (a : Alphabet) (count : Nat) : Nat :=
  (8 * count + a.bits - 1) / a.bits

/-- A group of octets in writing.  A group that is not full is filled up with equals signs. -/
def encodeGroup (a : Alphabet) (group : Text) : Text :=
  let n := group.foldl (fun n c => n * 256 + c.toNat) 0 <<< (8 * (a.octets - group.length))
  let signs := (List.range a.size).map fun i =>
    a.sign ((n >>> (a.bits * (a.size - 1 - i))) % (1 <<< a.bits))
  padRight a.size '=' (signs.take (a.needed group.length))

/-- Octets in writing. -/
def encode (a : Alphabet) (t : Text) : Text :=
  (chunks a.octets t).flatMap a.encodeGroup

/-- The octets whose bits are complete in the first signs of a group. -/
def octetsOf (a : Alphabet) (numbers : List Nat) : Text :=
  let bits := numbers.length * a.bits
  let n := numbers.foldl (fun n d => n <<< a.bits + d) 0
  (List.range (bits / 8)).map fun i => Char.ofNat (n >>> (bits - 8 * (i + 1)) % 256)

/-- The octets of a group, and whether it was a whole one.  Equals signs may only stand where the
octets before them are complete, and up to the end of the group. -/
def decodeGroup (a : Alphabet) (group : Text) : Text × Bool :=
  let signs := group.takeWhile fun c => (a.number? c).isSome
  let behind := group.drop signs.length
  let numbers := signs.filterMap a.number?
  let count := signs.length * a.bits / 8
  let isWhole := group.length = a.size && behind.all (· == '=') && count > 0 &&
    a.needed count = signs.length
  (a.octetsOf numbers, isWhole)

/-- The octets of written groups up to the first one that is not whole, and whether all are.  If a
group that is cut short counts for nothing, `strict` holds. -/
def decodeGroups (a : Alphabet) (strict : Bool) : List Text → Text × Bool
  | [] => ([], true)
  | group :: rest =>
    match a.decodeGroup group with
    | (t, true) =>
      let (u, isWhole) := decodeGroups a strict rest
      (t ++ u, isWhole)
    | (t, false) => (if strict && group.length < a.size then [] else t, false)

/-- The octets that were written, and whether all of it was well written. -/
def decode (a : Alphabet) (t : Text) : Text × Bool :=
  a.decodeGroups (a.size = 8) (chunks a.size t)

end Alphabet

namespace Tools

open Tool

/-- Write a file with the signs of an alphabet, or read it back. -/
def baseTool (a : Alphabet) : Tool Nat :=
  withOptions ⟨"diw:", [("decode", 'd', .never), ("ignore-garbage", 'i', .never),
    ("wrap", 'w', .always)], true⟩ 1 fun options operands => do
    let wrapText := (valueOf? options 'w').getD ['7', '6']
    match nat? wrapText, operands with
    | none, _ => fail ("invalid wrap size: ".toList ++ quotedPlain wrapText) 1
    | some _, _ :: extra :: _ => extraOperand extra
    | some wrap, _ =>
      let file := operands.head?.getD ['-']
      match ← operand file with
      | .error .isADirectory => fail (about "read error".toList .isADirectory) 1
      | .error fault => fail (about file fault) 1
      | .ok t =>
        if given options 'd' then
          let kept := t.filter fun c => c != '\n' &&
            (!given options 'i' || c == '=' || (a.number? c).isSome)
          let (decoded, isWhole) := a.decode kept
          say decoded
          if isWhole then return 0 else fail "invalid input".toList 1
        else
          let encoded := a.encode t
          say (if wrap = 0 then encoded else joinLines (chunks wrap encoded))
          return 0

end Tools

/-! ### Numbers in rows -/

namespace Dump

/-- How octets are shown: as characters, with names or with escapes, or as numbers of some octets
in a radix, with a sign or without. -/
inductive Field where
  | named
  | escaped
  | unsigned (size radix : Nat)
  | signed (size : Nat)
  deriving DecidableEq

namespace Field

/-- The number of octets in a field. -/
def size : Field → Nat
  | named => 1
  | escaped => 1
  | unsigned size _ => size
  | signed size => size

/-- The number of characters that a field can need. -/
def width : Field → Nat
  | named => 3
  | escaped => 3
  | unsigned size 16 => 2 * size
  | unsigned size 8 => (8 * size + 2) / 3
  | unsigned size _ => ofNat (1 <<< (8 * size) - 1) |>.length
  | signed size => (ofNat (1 <<< (8 * size - 1))).length + 1

/-- The names of the characters that are not shown themselves. -/
def names : List String :=
  ("nul soh stx etx eot enq ack bel bs ht nl vt ff cr so si dle dc1 dc2 dc3 dc4 nak syn etb can " ++
    "em sub esc fs gs rs us sp").splitOn " "

/-- A character by its name.  The highest bit does not count. -/
def nameOf (n : Nat) : Text :=
  let m := n % 128
  if m = 127 then "del".toList
  else match names[m]? with
    | some name => name.toList
    | none => [Char.ofNat m]

/-- A character with an escape if it cannot be seen. -/
def escapeOf (n : Nat) : Text :=
  match n with
  | 0 => "\\0".toList
  | 7 => "\\a".toList
  | 8 => "\\b".toList
  | 9 => "\\t".toList
  | 10 => "\\n".toList
  | 11 => "\\v".toList
  | 12 => "\\f".toList
  | 13 => "\\r".toList
  | n => if 32 ≤ n && n < 127 then [Char.ofNat n] else padLeft 3 '0' (Nat.toDigits 8 n)

/-- The octets of a field in writing.  The first one counts least. -/
def render (f : Field) (octets : Text) : Text :=
  let n := octets.foldr (fun c n => n * 256 + c.toNat) 0
  match f with
  | named => nameOf n
  | escaped => escapeOf n
  | unsigned _ 10 => ofNat n
  | unsigned _ radix => padLeft f.width '0' (Nat.toDigits radix n)
  | signed size =>
    if n ≥ 1 <<< (8 * size - 1) then '-' :: ofNat (1 <<< (8 * size) - n) else ofNat n

end Field

/-- A row of fields, and whether the characters are shown behind it. -/
structure Row where
  field : Field
  withText : Bool

/-- The size of numbers that a type asks for, and the text behind it. -/
def sizeOf? (t : Text) : Option Nat × Text :=
  match t with
  | 'C' :: rest => (some 1, rest)
  | 'S' :: rest => (some 2, rest)
  | 'I' :: rest => (some 4, rest)
  | 'L' :: rest => (some 8, rest)
  | _ =>
    let digits := t.takeWhile Char.isDigit
    (nat? digits, t.drop digits.length)

/-- The rows that a text of types asks for, or why it makes no sense. -/
def rowsOf (whole : Text) : Nat → Text → Except Text (List Row)
  | 0, _ => .ok []
  | _, [] => .ok []
  | fuel + 1, c :: t =>
    let row (field : Field) (rest : Text) : Except Text (List Row) := do
      let (withText, rest) := if rest.head? = some 'z' then (true, rest.drop 1) else (false, rest)
      return ⟨field, withText⟩ :: (← rowsOf whole fuel rest)
    let number (field : Nat → Field) : Except Text (List Row) :=
      let (size, rest) := sizeOf? t
      let size := size.getD 4
      if [1, 2, 4, 8].contains size then row (field size) rest
      else
        .error ("invalid type string ".toList ++ quotedPlain whole ++
          ";\nthis system doesn't provide a ".toList ++ ofNat size ++ "-byte integral type".toList)
    match c with
    | 'a' => row .named t
    | 'c' => row .escaped t
    | 'd' => number .signed
    | 'u' => number fun size => .unsigned size 10
    | 'o' => number fun size => .unsigned size 8
    | 'x' => number fun size => .unsigned size 16
    | c =>
      .error ("invalid character ".toList ++ quotedPlain [c] ++ " in type string ".toList ++
        quotedPlain whole)

/-- The row that a letter of an option asks for. -/
def rowOfLetter? (c : Char) : Option Row :=
  let field : Option Field := match c with
    | 'a' => some .named
    | 'b' => some (.unsigned 1 8)
    | 'c' => some .escaped
    | 'd' => some (.unsigned 2 10)
    | 'D' => some (.unsigned 4 10)
    | 'o' => some (.unsigned 2 8)
    | 'B' => some (.unsigned 2 8)
    | 'O' => some (.unsigned 4 8)
    | 's' => some (.signed 2)
    | 'i' => some (.signed 4)
    | 'I' => some (.signed 8)
    | 'l' => some (.signed 8)
    | 'L' => some (.signed 8)
    | 'x' => some (.unsigned 2 16)
    | 'h' => some (.unsigned 2 16)
    | 'X' => some (.unsigned 4 16)
    | 'H' => some (.unsigned 4 16)
    | _ => none
  field.map fun f => ⟨f, false⟩

/-- How a dump is laid out: its rows, the number of octets in a row, the radix of the positions or
none, whether rows that repeat are shown, and whether the first octet of a field counts most. -/
structure Form where
  rows : List Row
  perRow : Nat
  radix : Option Nat
  repeats : Bool
  firstIsHigh : Bool

namespace Form

/-- The number of characters in a row. -/
def rowWidth (form : Form) : Nat :=
  form.rows.foldl (fun n row =>
    max n ((row.field.width + 1) * (form.perRow / row.field.size))) 0

/-- A position. -/
def position (form : Form) (n : Nat) : Text :=
  match form.radix with
  | none => []
  | some 16 => padLeft 6 '0' (Nat.toDigits 16 n)
  | some radix => padLeft 7 '0' (Nat.toDigits radix n)

/-- One row of fields for some octets. -/
def line (form : Form) (block : Text) (row : Row) : Text :=
  let size := row.field.size
  let count := form.perRow / size
  let spare := form.rowWidth - (row.field.width + 1) * count
  let fields := (chunks size block).zipIdx.map fun (octets, i) =>
    let before := spare * (count - i) / count
    let behind := spare * (count - i - 1) / count
    let octets := if form.firstIsHigh then (padRight size '\x00' octets).reverse else octets
    padLeft (row.field.width + 1 + (before - behind)) ' ' (row.field.render octets)
  let t := fields.flatten
  if row.withText then
    let shown := block.map fun c => if ' ' ≤ c && c < '\x7f' then c else '.'
    padRight form.rowWidth ' ' t ++ "  >".toList ++ shown ++ ['<']
  else t

/-- All rows for some octets at a position. -/
def blockText (form : Form) (n : Nat) (block : Text) : Text :=
  joinLines (form.rows.zipIdx.map fun (row, i) =>
    let place := form.position n
    (if i = 0 then place else List.replicate place.length ' ') ++ form.line block row)

/-- The rows for blocks from a position on, after another block; blocks like the one before are
shown by one star. -/
def blocksText (form : Form) (n : Nat) (last : Option Text) (starred : Bool) : List Text → Text
  | [] => []
  | block :: rest =>
    if !form.repeats && last = some block && block.length = form.perRow then
      (if starred then [] else ['*', '\n']) ++
        blocksText form (n + block.length) last true rest
    else
      form.blockText n block ++ blocksText form (n + block.length) (some block) false rest

/-- Octets from a position on, with the position behind them. -/
def text (form : Form) (start : Nat) (t : Text) : Text :=
  form.blocksText start none false (chunks form.perRow t) ++
    if form.radix.isSome then form.position (start + t.length) ++ ['\n'] else []

end Form

/-- A number of octets: decimal, octal behind `0` or hexadecimal behind `0x`, with a letter for a
factor. -/
def amount? (t : Text) : Option Nat :=
  let number (radix : Nat) (u : Text) : Option Nat :=
    let digits := u.takeWhile fun c => (digitIn? radix c).isSome
    (natIn? radix digits).bind fun n => (factorOf? (u.drop digits.length)).map (n * ·)
  match t with
  | '0' :: 'x' :: u => number 16 u
  | '0' :: 'X' :: u => number 16 u
  | '0' :: u => if u.isEmpty then some 0 else number 8 t
  | _ => number 10 t
where
  /-- The factor that letters behind a number stand for. -/
  factorOf? (suffix : Text) : Option Nat :=
    match suffix with
    | [] => some 1
    | ['b'] => some 512
    | ['k', 'B'] => some 1000
    | ['K', 'B'] => some 1000
    | ['M', 'B'] => some 1000000
    | [c] => if c = 'k' || c = 'K' then some 1024
      else if c = 'm' || c = 'M' then some 1048576 else none
    | _ => none

/-- A number of octets in the old way: octal or hexadecimal behind `0x`, and with `b` or `B` in
blocks. -/
def oldOffset? (t : Text) : Option Nat :=
  match if t.head? = some '+' then t.drop 1 else t with
  | '0' :: 'x' :: u => natIn? 16 u
  | '0' :: 'X' :: u => natIn? 16 u
  | u =>
    match u.getLast? with
    | some 'b' => (natIn? 8 u.dropLast).map (· * 512)
    | some 'B' => (natIn? 8 u.dropLast).map (· * 1024)
    | _ => natIn? 8 u

end Dump

namespace Tools

open Tool

/-- The rows that options ask for. -/
def dumpRows (options : List GivenOption) : Except Text (List Dump.Row) := do
  let parts ← options.mapM fun o =>
    if o.1 = 't' then Dump.rowsOf o.2 (o.2.length + 1) o.2
    else .ok (Dump.rowOfLetter? o.1).toList
  let rows := parts.flatten
  return if rows.isEmpty then [⟨.unsigned 2 8, false⟩] else rows

/-- The files among operands, and the offset that stands behind them in the old way. -/
def splitOffset (isOld : Bool) (operands : List Text) : List Text × Option Nat :=
  let isSigned (t : Text) : Bool := t.head? = some '+'
  match operands with
  | [a] =>
    match if isOld && isSigned a then Dump.oldOffset? a else none with
    | some n => ([], some n)
    | none => ([a], none)
  | [a, b] =>
    match if isOld && (isSigned b || b.head?.any Char.isDigit) then Dump.oldOffset? b
      else none with
    | some n => ([a], some n)
    | none => ([a, b], none)
  | operands => (operands, none)

/-- The radix of positions that a word asks for. -/
def positionRadix? (t : Text) : Except Text (Option Nat) :=
  match t.head? with
  | some 'd' => .ok (some 10)
  | some 'o' => .ok (some 8)
  | some 'x' => .ok (some 16)
  | some 'n' => .ok none
  | _ =>
    .error ("invalid output address radix ".toList ++ quotedPlain (t.take 1) ++
      "; it must be one character from [doxn]".toList)

/-- The number of octets that an option gives. -/
def dumpAmount (options : List GivenOption) (letter : Char) : Except Text (Option Nat) :=
  match valueOf? options letter with
  | none => .ok none
  | some t =>
    match Dump.amount? t with
    | some n => .ok (some n)
    | none => .error ("invalid -".toList ++ letter :: " argument ".toList ++ quotedPlain t)

/-- How the options of a dump lay it out, and which octets it shows. -/
def dumpForm (options : List GivenOption) : Except Text (Dump.Form × Nat × Option Nat) := do
  let radix ← positionRadix? ((valueOf? options 'A').getD ['o'])
  let skipped ← dumpAmount options 'j'
  let count ← dumpAmount options 'N'
  let rows ← dumpRows options
  let unit := rows.foldl (fun n row => Nat.lcm n row.field.size) 1
  let width ← match valueOf? options 'w' with
    | none => pure 16
    | some [] => pure 32
    | some t =>
      match Dump.amount? t with
      | some n => pure n
      | none => throw ("invalid -w argument ".toList ++ quotedPlain t)
  let perRow := if width % unit = 0 && width > 0 then width else unit
  let firstIsHigh := (valueOf? options 'E').any fun t => t.head? = some 'b'
  return (⟨rows, perRow, radix, given options 'v', firstIsHigh⟩, skipped.getD 0, count)

/-- Show the octets of files as numbers. -/
def od : Tool Nat :=
  withOptions ⟨"A:j:N:t:vabcdDoBOsiIlLxhXHw::", [("address-radix", 'A', .always),
    ("skip-bytes", 'j', .always), ("read-bytes", 'N', .always), ("format", 't', .always),
    ("output-duplicates", 'v', .never), ("width", 'w', .attached), ("endian", 'E', .always),
    ("traditional", 'T', .never)], true⟩ 1
    fun options operands => do
    let isOld := given options 'T' ||
      !(["A", "j", "N", "t", "v", "w"].any fun c => c.toList.any (given options))
    let (files, offset) := splitOffset isOld operands
    match dumpForm options with
    | .error t => fail t 1
    | .ok (form, skipped, count) =>
      let skipped := offset.getD skipped
      match (valueOf? options 'w').bind nat? with
      | some width =>
        if width ≠ form.perRow then
          complain ("warning: invalid width ".toList ++ ofNat width ++ "; using ".toList ++
            ofNat form.perRow ++ " instead".toList)
      | none => pure ()
      let (t, code) ← allFiles files
      if t.isEmpty && code ≠ 0 then return code
      else if t.length < skipped then fail "cannot skip past end of combined input".toList 1
      else
        let rest := t.drop skipped
        say (form.text skipped (match count with
          | some n => rest.take n
          | none => rest))
        return code

end Tools

end ComponentFile
