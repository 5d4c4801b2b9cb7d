import ComponentFile.Text.Chunks
import ComponentFile.Tools.Copy

/-!
# Digests

A digest is a number of fixed size that is made of all octets of a text.  The octets are cut into
blocks, and each block changes a few words, which are the digest in the end.

## Main definitions

* `Digest.md5`, `Digest.sha1`, `Digest.sha2` : the digests of a text.
* `Digest.remainder`, `Digest.turningSum`, `Digest.plainSum` : shorter check numbers.
* `Tools.digest` : printing digests of files, or comparing them with a list.
* `Tools.cksum`, `Tools.sum` : printing check numbers and sizes.
-/

namespace ComponentFile

open Text

namespace Digest

/-! ### Words -/

/-- The octets of a number, the greatest first when `bigEnd`. -/
def octetsOf (bigEnd : Bool) (count n : Nat) : List Nat :=
  let little := (List.range count).map fun i => n >>> (8 * i) % 256
  if bigEnd then little.reverse else little

/-- The number that octets stand for. -/
def numberOf (bigEnd : Bool) (octets : List Nat) : Nat :=
  (if bigEnd then octets else octets.reverse).foldl (fun n octet => n * 256 + octet) 0

/-- The octets of a text with a mark, zeros and the number of bits behind them, so that they fill
blocks of a given size. -/
def filled (bigEnd : Bool) (blockSize : Nat) (t : Text) : List Nat :=
  let fieldSize := blockSize / 8
  let size := t.length + 1 + fieldSize
  let zeros := (blockSize - size % blockSize) % blockSize
  t.map Char.toNat ++ 0x80 :: List.replicate zeros 0 ++ octetsOf bigEnd fieldSize (8 * t.length)

/-- The blocks of a text, as words of some octets. -/
def blocks (bigEnd : Bool) (wordSize : Nat) (t : Text) : List (Array Nat) :=
  let blockSize := 16 * wordSize
  (chunks blockSize (filled bigEnd blockSize t)).map fun block =>
    ((chunks wordSize block).map (numberOf bigEnd)).toArray

/-- Two hexadecimal digits. -/
def hexOctet (n : Nat) : Text :=
  padLeft 2 '0' (Nat.toDigits 16 n)

/-- Words in hexadecimal digits. -/
def hexWords (bigEnd : Bool) (wordSize : Nat) (words : List Nat) : Text :=
  words.flatMap fun word => (octetsOf bigEnd wordSize word).flatMap hexOctet

/-- A word of 32 bits turned to the left. -/
def turnLeft (x : UInt32) (n : Nat) : UInt32 :=
  x <<< UInt32.ofNat n ||| x >>> UInt32.ofNat (32 - n)

/-- Four words of 32 bits. -/
structure Four where
  a : UInt32
  b : UInt32
  c : UInt32
  d : UInt32

/-! ### The oldest digest -/

/-- What is added in each step: the sines of the numbers from 1 on, without signs. -/
def sines : Array UInt32 :=
  (["d76aa478 e8c7b756 242070db c1bdceee f57c0faf 4787c62a a8304613 fd469501 698098d8 8b44f7af",
    "ffff5bb1 895cd7be 6b901122 fd987193 a679438e 49b40821 f61e2562 c040b340 265e5a51 e9b6c7aa",
    "d62f105d 02441453 d8a1e681 e7d3fbc8 21e1cde6 c33707d6 f4d50d87 455a14ed a9e3e905 fcefa3f8",
    "676f02d9 8d2a4c8a fffa3942 8771f681 6d9d6122 fde5380c a4beea44 4bdecfa9 f6bb4b60 bebfbc70",
    "289b7ec6 eaa127fa d4ef3085 04881d05 d9d4d039 e6db99e5 1fa27cf8 c4ac5665 f4292244 432aff97",
    "ab9423a7 fc93a039 655b59c3 8f0ccc92 ffeff47d 85845dd1 6fa87e4f fe2ce6e0 a3014314 4e0811a1",
    "f7537e82 bd3af235 2ad7d2bb eb86d391"].flatMap fun row =>
    (row.toList.splitOn ' ').map fun word => UInt32.ofNat ((natIn? 16 word).getD 0)).toArray

/-- How far words are turned in the steps of each quarter. -/
def turns : Array (Array Nat) :=
  #[#[7, 12, 17, 22], #[5, 9, 14, 20], #[4, 11, 16, 23], #[6, 10, 15, 21]]

/-- One step with a block. -/
def md5Step (block : Array Nat) (s : Four) (i : Nat) : Four :=
  let (mixed, k) :=
    if i < 16 then ((s.b &&& s.c) ||| (~~~s.b &&& s.d), i)
    else if i < 32 then ((s.d &&& s.b) ||| (~~~s.d &&& s.c), 5 * i + 1)
    else if i < 48 then (s.b ^^^ s.c ^^^ s.d, 3 * i + 5)
    else (s.c ^^^ (s.b ||| ~~~s.d), 7 * i)
  let sum := s.a + mixed + sines[i]?.getD 0 + UInt32.ofNat (block[k % 16]?.getD 0)
  let turn := ((turns[i / 16]?.getD #[])[i % 4]?).getD 0
  ⟨s.d, s.b + turnLeft sum turn, s.b, s.c⟩

/-- The digest of 128 bits. -/
def md5 (t : Text) : Text :=
  let start : Four := ⟨0x67452301, 0xefcdab89, 0x98badcfe, 0x10325476⟩
  let s := (blocks false 4 t).foldl (fun s block =>
    let r := (List.range 64).foldl (md5Step block) s
    ⟨s.a + r.a, s.b + r.b, s.c + r.c, s.d + r.d⟩) start
  hexWords false 4 ([s.a, s.b, s.c, s.d].map UInt32.toNat)

/-! ### The digest of five words -/

/-- The words of the 80 steps with a block. -/
def sha1Words (block : Array Nat) : Array UInt32 :=
  (List.range 64).foldl (fun (w : Array UInt32) i =>
    let at_ (k : Nat) : UInt32 := w[i + 16 - k]?.getD 0
    w.push (turnLeft (at_ 3 ^^^ at_ 8 ^^^ at_ 14 ^^^ at_ 16) 1)) (block.map UInt32.ofNat)

/-- One step; the fifth word stands apart. -/
def sha1Step (words : Array UInt32) (state : Four × UInt32) (i : Nat) : Four × UInt32 :=
  let (s, e) := state
  let (mixed, added) : UInt32 × UInt32 :=
    if i < 20 then ((s.b &&& s.c) ||| (~~~s.b &&& s.d), 0x5a827999)
    else if i < 40 then (s.b ^^^ s.c ^^^ s.d, 0x6ed9eba1)
    else if i < 60 then ((s.b &&& s.c) ||| (s.b &&& s.d) ||| (s.c &&& s.d), 0x8f1bbcdc)
    else (s.b ^^^ s.c ^^^ s.d, 0xca62c1d6)
  (⟨turnLeft s.a 5 + mixed + e + added + words[i]?.getD 0, s.a, turnLeft s.b 30, s.c⟩, s.d)

/-- The digest of 160 bits. -/
def sha1 (t : Text) : Text :=
  let start : Four × UInt32 := (⟨0x67452301, 0xefcdab89, 0x98badcfe, 0x10325476⟩, 0xc3d2e1f0)
  let (s, e) := (blocks true 4 t).foldl (fun (s, e) block =>
    let (r, f) := (List.range 80).foldl (sha1Step (sha1Words block)) (s, e)
    (⟨s.a + r.a, s.b + r.b, s.c + r.c, s.d + r.d⟩, e + f)) start
  hexWords true 4 ([s.a, s.b, s.c, s.d, e].map UInt32.toNat)

/-! ### The digests of eight words -/

/-- The greatest number whose power with exponent `k` is not above `n`, of some bits. -/
def root (k bits n : Nat) : Nat :=
  (List.range bits).reverse.foldl (fun r i =>
    let greater := r + 1 <<< i
    if Nat.pow greater k ≤ n then greater else r) 0

/-- The first primes. -/
def primes : List Nat :=
  (List.range 410).filter fun n => n ≥ 2 && (List.range n).all fun d => d < 2 || n % d != 0

/-- The first bits behind the point of a root of a number. -/
def rootFraction (k width n : Nat) : Nat :=
  root k (width + 5) (n <<< (k * width)) % (1 <<< width)

/-- What the digests of eight words differ in: the bits of a word, the number of steps, the turns,
of which the last of the small ones is a shift, the words at the start, and how many of the words
are used in the end. -/
structure Sha2 where
  width : Nat
  steps : Nat
  large : List Nat × List Nat
  small : List Nat × List Nat
  start : List Nat
  used : Nat

namespace Sha2

/-- A word turned to the right. -/
def turned (f : Sha2) (x n : Nat) : Nat :=
  (x >>> n ||| x <<< (f.width - n)) % (1 <<< f.width)

/-- Several turns of a word in one. -/
def turnedAll (f : Sha2) (ns : List Nat) (x : Nat) : Nat :=
  ns.foldl (fun y n => y ^^^ f.turned x n) 0

/-- Turns of a word and, as the last one, a shift. -/
def shifted (f : Sha2) (ns : List Nat) (x : Nat) : Nat :=
  f.turnedAll ns.dropLast x ^^^ x >>> ns.getLast?.getD 0

/-- The words of the steps with a block. -/
def words (f : Sha2) (block : Array Nat) : Array Nat :=
  (List.range (f.steps - 16)).foldl (fun w i =>
    let back (k : Nat) : Nat := w[i + 16 - k]?.getD 0
    w.push ((f.shifted f.small.2 (back 2) + back 7 + f.shifted f.small.1 (back 15) + back 16) %
      (1 <<< f.width))) block

/-- One step, given what is added in it. -/
def step (f : Sha2) (s : List Nat) (added : Nat) : List Nat :=
  match s with
  | [a, b, c, d, e, g, h, i] =>
    let all := 1 <<< f.width - 1
    let first := i + f.turnedAll f.large.2 e + ((e &&& g) ^^^ ((all ^^^ e) &&& h)) + added
    let second := f.turnedAll f.large.1 a + ((a &&& b) ^^^ (a &&& c) ^^^ (b &&& c))
    [(first + second) % (1 <<< f.width), a, b, c, (d + first) % (1 <<< f.width), e, g, h]
  | s => s

/-- The digest of a text. -/
def digest (f : Sha2) (t : Text) : Text :=
  let constants := (primes.take f.steps).map (rootFraction 3 f.width)
  let s := (blocks true (f.width / 8) t).foldl (fun s block =>
    let added := ((f.words block).toList.zip constants).map fun (w, k) => w + k
    (s.zip (added.foldl f.step s)).map fun (x, y) => (x + y) % (1 <<< f.width)) f.start
  hexWords true (f.width / 8) (s.take f.used)

/-- The digests with words of 32 bits. -/
def short (start : List Nat) (used : Nat) : Sha2 :=
  ⟨32, 64, ([2, 13, 22], [6, 11, 25]), ([7, 18, 3], [17, 19, 10]), start, used⟩

/-- The digests with words of 64 bits. -/
def long (start : List Nat) (used : Nat) : Sha2 :=
  ⟨64, 80, ([28, 34, 39], [14, 18, 41]), ([1, 8, 7], [19, 61, 6]), start, used⟩

end Sha2

/-- The digest of eight words that has some bits. -/
def sha2 (bits : Nat) : Text → Text :=
  let early := primes.take 8
  let late := (primes.drop 8).take 8
  let f := match bits with
    | 224 => Sha2.short (late.map fun p => rootFraction 2 64 p % 0x100000000) 7
    | 256 => Sha2.short (early.map (rootFraction 2 32)) 8
    | 384 => Sha2.long (late.map (rootFraction 2 64)) 6
    | _ => Sha2.long (early.map (rootFraction 2 64)) 8
  f.digest

/-! ### Check numbers -/

/-- A remainder with one more bit. -/
def remainderBit (n : Nat) : Nat :=
  let m := n <<< 1 % 0x100000000
  if n ≥ 0x80000000 then m ^^^ 0x04c11db7 else m

/-- A remainder with one more octet. -/
def remainderOctet (n octet : Nat) : Nat :=
  (List.range 8).foldl (fun m _ => remainderBit m) (n ^^^ octet <<< 24)

/-- The octets of a length without zeros behind them, the least first. -/
def lengthOctets : Nat → Nat → List Nat
  | 0, _ => []
  | _, 0 => []
  | fuel + 1, n => n % 256 :: lengthOctets fuel (n / 256)

/-- The remainder of a division of polynomials: the octets and their number by a fixed one. -/
def remainder (t : Text) : Nat :=
  let octets := t.map Char.toNat ++ lengthOctets 8 t.length
  octets.foldl remainderOctet 0 ^^^ 0xffffffff

/-- The sum of the octets in a word that is turned before each of them. -/
def turningSum (t : Text) : Nat :=
  t.foldl (fun n c => (n / 2 + n % 2 * 32768 + c.toNat) % 65536) 0

/-- The sum of the octets, folded to 16 bits. -/
def plainSum (t : Text) : Nat :=
  let n := t.foldl (fun n c => n + c.toNat) 0 % 0x100000000
  let r := n % 65536 + n / 65536
  r % 65536 + r / 65536

end Digest

namespace Tools

open Tool

/-! ### Lists of digests -/

/-- A kind of digest: its name, the number of its digits, and the digest of a text. -/
structure DigestKind where
  name : String
  digits : Nat
  digest : Text → Text

/-- A digest and a file in one line of a list. -/
def digestLine? (kind : DigestKind) (line : Text) : Option (Text × Text) :=
  let isDigest (t : Text) : Bool := t.length = kind.digits && t.all fun c => (hexDigit? c).isSome
  let line := line.dropWhile isGap
  let tag := kind.name.toList ++ " (".toList
  if tag.isPrefixOf line then
    match cut? ") = ".toList (line.drop tag.length) with
    | some (file, hex) => if isDigest hex then some (lower hex, file) else none
    | none => none
  else
    let hex := line.takeWhile fun c => !isGap c
    match line.drop hex.length with
    | c :: mark :: file =>
      if !(isDigest hex && isGap c) then none
      else if mark = ' ' || mark = '*' then
        if file.isEmpty then none else some (lower hex, file)
      else some (lower hex, mark :: file)
    | _ => none

/-- What the comparison with a list found: how many lines are no lines of a list, how many files
were not read, how many differ, and how many agree. -/
structure Comparison where
  malformed : Nat := 0
  unread : Nat := 0
  different : Nat := 0
  equal : Nat := 0

/-- A message about a number of things. -/
def warning (n : Nat) (one many : String) : Text :=
  "WARNING: ".toList ++ ofNat n ++ ' ' :: (if n = 1 then one else many).toList

/-- Compare a file with its digest in a list. -/
def compareDigest (kind : DigestKind) (has : Char → Bool) (found : Comparison) (line : Text) :
    Tool Comparison := do
  match digestLine? kind line with
  | none => return { found with malformed := found.malformed + 1 }
  | some (hex, file) =>
    match ← operand file with
    | .error fault =>
      if has 'i' && fault = .notFound then return found
      else
        complain (about file fault)
        if !has 's' then say (file ++ ": FAILED open or read\n".toList)
        return { found with unread := found.unread + 1 }
    | .ok t =>
      if kind.digest t = hex then
        if !(has 's' || has 'q') then say (file ++ ": OK\n".toList)
        return { found with equal := found.equal + 1 }
      else
        if !has 's' then say (file ++ ": FAILED\n".toList)
        return { found with different := found.different + 1 }

/-- Tell which lines are no lines of a list. -/
def tellMalformed (kind : DigestKind) (listName : Text) (lines : List (Text × Nat)) :
    Tool Unit :=
  (lines.filter fun l => (digestLine? kind l.1).isNone).forM fun l =>
    complain (listName ++ ": ".toList ++ ofNat (l.2 + 1) ++
      ": improperly formatted ".toList ++ kind.name.toList ++ " checksum line".toList)

/-- Compare files with the digests in a list. -/
def compareDigests (kind : DigestKind) (has : Char → Bool) (list : Text) : Tool Nat := do
  match ← operand list with
  | .error fault => fail (about list fault) 1
  | .ok t =>
    let numbered := (splitLines t).zipIdx.filter fun l => !l.1.isEmpty && l.1.head? != some '#'
    let lines := numbered.map (·.1)
    let listName := if list = ['-'] then quotedPlain "standard input".toList else list
    let found ← lines.foldlM (compareDigest kind has) {}
    if has 'w' then tellMalformed kind listName numbered
    if found.unread + found.different + found.equal = 0 && (!has 'i' || lines.isEmpty) then
      fail (listName ++ ": no properly formatted checksum lines found".toList) 1
    else
      if !has 's' then
        if found.malformed > 0 then
          complain (warning found.malformed "line is improperly formatted"
            "lines are improperly formatted")
        if found.unread > 0 then
          complain (warning found.unread "listed file could not be read"
            "listed files could not be read")
        if found.different > 0 then
          complain (warning found.different "computed checksum did NOT match"
            "computed checksums did NOT match")
        if has 'i' && found.different + found.equal + found.unread = 0 then
          complain (listName ++ ": no file was verified".toList)
      let isGood := found.unread = 0 && found.different = 0 &&
        (found.malformed = 0 || !has 'S') && found.equal > 0
      return if isGood then 0 else 1

/-- Print the digests of files. -/
def tellDigests (kind : DigestKind) (tagged binary zero : Bool) (operands : List Text) :
    Tool Nat :=
  forFiles operands fun name t => do
    let hex := kind.digest t
    let line := if tagged then
        kind.name.toList ++ " (".toList ++ name ++ ") = ".toList ++ hex
      else hex ++ ' ' :: (if binary then '*' else ' ') :: name
    say (line ++ if zero then ['\x00'] else ['\n'])

/-- Print the digests of files, or compare files with the digests in lists. -/
def digest (kind : DigestKind) : Tool Nat :=
  withOptions ⟨"bctwz", [("binary", 'b', .never), ("check", 'c', .never), ("text", 't', .never),
    ("tag", 'T', .never), ("zero", 'z', .never), ("quiet", 'q', .never), ("status", 's', .never),
    ("strict", 'S', .never), ("warn", 'w', .never), ("ignore-missing", 'i', .never)], true⟩ 1
    fun options operands => do
    let has := given options
    if has 'c' then
      (if operands.isEmpty then [['-']] else operands).foldlM (fun code list => do
        return max code (← compareDigests kind has list)) 0
    else
      tellDigests kind (has 'T') (has 'b') (has 'z') operands

/-- The kinds of digests. -/
def digestKinds : List (String × DigestKind) :=
  [("md5", ⟨"MD5", 32, Digest.md5⟩), ("sha1", ⟨"SHA1", 40, Digest.sha1⟩),
    ("sha224", ⟨"SHA224", 56, Digest.sha2 224⟩), ("sha256", ⟨"SHA256", 64, Digest.sha2 256⟩),
    ("sha384", ⟨"SHA384", 96, Digest.sha2 384⟩), ("sha512", ⟨"SHA512", 128, Digest.sha2 512⟩)]

/-- The tools that print digests. -/
def digestTools : List (String × Tool Nat) :=
  digestKinds.map fun kind => (kind.1 ++ "sum", digest kind.2)

/-! ### Check numbers of files -/

/-- Print the remainders and the sizes of files. -/
def tellRemainders (operands : List Text) : Tool Nat :=
  forFiles operands fun name t =>
    let shown := if operands.isEmpty then [] else ' ' :: name
    say (ofNat (Digest.remainder t) ++ ' ' :: ofNat t.length ++ shown ++ ['\n'])

/-- Print the sums and the sizes of files, which are counted in blocks. -/
def tellSums (plain : Bool) (operands : List Text) : Tool Nat :=
  forFiles operands fun name t =>
    let shown := if operands.isEmpty then [] else ' ' :: name
    let inBlocks (size : Nat) : Nat := (t.length + size - 1) / size
    let numbers := if plain then ofNat (Digest.plainSum t) ++ ' ' :: ofNat (inBlocks 512)
      else
        padLeft 5 '0' (ofNat (Digest.turningSum t)) ++ ' ' ::
          padLeft 5 ' ' (ofNat (inBlocks 1024))
    say (numbers ++ shown ++ ['\n'])

/-- The names of the ways to check files. -/
def checkNames : List String :=
  ["bsd", "sysv", "crc", "md5", "sha1", "sha224", "sha256", "sha384", "sha512", "blake2b", "sm3"]

/-- Print the check numbers or the digests of files. -/
def cksum : Tool Nat :=
  withOptions ⟨"a:z", [("algorithm", 'a', .always), ("untagged", 'u', .never),
    ("tag", 'T', .never), ("zero", 'z', .never)], true⟩ 1 fun options operands => do
    let name := (valueOf? options 'a').getD "crc".toList
    match String.ofList name with
    | "crc" => tellRemainders operands
    | "bsd" => tellSums false operands
    | "sysv" => tellSums true operands
    | wanted =>
      match digestKinds.lookup wanted with
      | some kind => tellDigests kind (!given options 'u') false (given options 'z') operands
      | none =>
        let choices := checkNames.flatMap fun n => "  - ".toList ++ quotedPlain n.toList ++ ['\n']
        misuse ("invalid argument ".toList ++ quotedPlain name ++ " for ".toList ++
          quotedPlain "--algorithm".toList ++ "\nValid arguments are:\n".toList ++
            choices.dropLast) 1

/-- Print the sums and the sizes of files. -/
def sum : Tool Nat :=
  withOptions ⟨"rs", [("sysv", 's', .never)], true⟩ 1 fun options operands =>
    tellSums (given options 's') operands

end Tools

end ComponentFile
