import ComponentFile.Process.Options

/-!
# Tools that pass their input on

## Main definitions

* `Tool.forFiles` : do something with each of the files that operands name.
* `Tools.cat`, `Tools.tac`, `Tools.rev`, `Tools.tee` : copies of the input.
* `Tools.head`, `Tools.tail` : its two ends.
* `Tools.nl`, `Tools.wc` : its lines with numbers, and its size.
-/

namespace ComponentFile

open Text

namespace Tool

/-- Do something with the contents of each of the files that operands name, or with the input when
there are none; files that cannot be read are complained about.  The code is 1 if there are such. -/
def forFiles (operands : List Text) (use : Text → Text → Tool Unit) : Tool Nat :=
  (if operands.isEmpty then [['-']] else operands).foldlM (fun code name => do
    match ← operand name with
    | .ok t =>
      use name t
      return code
    | .error fault =>
      complain (about name fault)
      return 1) 0

/-- The contents of all files that operands name, one behind the other. -/
def allFiles (operands : List Text) : Tool (Text × Nat) := do
  let (parts, code) ← (if operands.isEmpty then [['-']] else operands).foldlM (fun found name => do
    match ← operand name with
    | .ok t => return (t :: found.1, found.2)
    | .error fault =>
      complain (about name fault)
      return (found.1, 1)) (([] : List Text), 0)
  return (parts.reverse.flatten, code)

/-- Give back the part of the input that is not needed.  A file is left behind the part that is
needed; of a pipe whole blocks have been read. -/
def takeInput (needed : Text → Nat) (inBlocks : Bool) : Tool Text := fun job => do
  match job.stream? 0 with
  | none => return []
  | some i =>
    let w ← get
    let t := Act.rest w i
    let n := needed t
    let isFile := match w.stream i with
      | .file _ _ _ => true
      | _ => false
    let count := if inBlocks && !isFile then (n + 8191) / 8192 * 8192 else n
    let _ ← Act.readBlock i count
    return t.take n

/-- Give back the end of an input that was not needed: the part `left` behind the first `taken`
octets.  A file is left where it was used; of a pipe whole blocks have been read. -/
def giveBack (taken block : Nat) (left : Text) : Tool Unit := fun job => do
  match job.stream? 0 with
  | none => return
  | some i =>
    modify fun w =>
      match w.stream i with
      | .source _ => w.setStream i (.source (left.drop ((block - taken % block) % block)))
      | .file place _ access => w.setStream i (.file place taken access)
      | _ => w

end Tool

namespace Tools

open Tool

/-- The texts between which a caret shows a control character. -/
def visible (c : Char) : Text :=
  let plain (n : Nat) : Text :=
    if n < 32 then ['^', Char.ofNat (n + 64)] else if n = 127 then ['^', '?'] else [Char.ofNat n]
  if c.toNat ≥ 128 then 'M' :: '-' :: plain (c.toNat - 128) else plain c.toNat

/-- How `cat` shows a character. -/
def shown (options : List GivenOption) (c : Char) : Text :=
  let has (letters : String) : Bool := letters.toList.any (given options)
  if c = '\t' then if has "TAt" then ['^', 'I'] else [c]
  else if c = '\n' then if has "EAe" then ['$', c] else [c]
  else if has "vAet" then visible c else [c]

/-- The lines of a file with numbers as `cat` writes them, and the next number. -/
def numbered (blank : Bool) (n : Nat) (ls : List Text) : Text × Nat :=
  let (parts, n) := ls.foldl (fun (done : List Text × Nat) line =>
    if blank && line = ['\n'] then (line :: done.1, done.2)
    else ((padLeft 6 ' ' (ofNat done.2) ++ '\t' :: line) :: done.1, done.2 + 1)) ([], n)
  (parts.reverse.flatten, n)

/-- Lines without an empty one behind another, put behind those that are known in reverse. -/
def squeezeBlank (done : List Text) : List Text → List Text
  | [] => done.reverse
  | line :: rest =>
    if line = ['\n'] && done.head? = some ['\n'] then squeezeBlank done rest
    else squeezeBlank (line :: done) rest

/-- Copy files. -/
def cat : Tool Nat :=
  withOptions ⟨"benstuvAET", [("number", 'n', .never), ("number-nonblank", 'b', .never),
    ("squeeze-blank", 's', .never), ("show-all", 'A', .never), ("show-ends", 'E', .never),
    ("show-tabs", 'T', .never), ("show-nonprinting", 'v', .never), ("help", 'h', .never),
    ("version", 'V', .never)], true⟩ 1 fun options operands => do
    let plain := options.all fun o => o.1 == 'u'
    if plain then forFiles operands fun _ t => say t
    else
      let (t, code) ← allFiles operands
      let ls := linesEnded t
      let ls := if given options 's' then squeezeBlank [] ls else ls
      let ls := ls.map fun line => line.flatMap (shown options)
      let numbers := given options 'n' || given options 'b'
      say (if numbers then (numbered (given options 'b') 1 ls).1 else ls.flatten)
      return code

/-- Copy files with their lines turned upside down.  A last line without an end stays without
one. -/
def tac : Tool Nat :=
  withOptions
    ⟨"brs:", [("before", 'b', .never), ("regex", 'r', .never), ("separator", 's', .always)],
    true⟩ 1 fun options operands =>
    forFiles operands fun _ t =>
      match valueOf? options 's' with
      | some [c] =>
        let parts := t.splitOn c
        let ended := (parts.dropLast.map fun p => p ++ [c]) ++ [parts.getLast?.getD []]
        say ended.reverse.flatten
      | _ => say (linesEnded t).reverse.flatten

/-- Copy files with each line turned around. -/
def rev : Tool Nat :=
  withOptions ⟨"", [], true⟩ 1 fun _ operands =>
    forFiles operands fun _ t =>
      say ((linesEnded t).flatMap fun line =>
        if line.getLast? = some '\n' then line.dropLast.reverse ++ ['\n'] else line.reverse)

/-- Copy the input to files as well. -/
def tee : Tool Nat :=
  withOptions ⟨"aip", [("append", 'a', .never), ("ignore-interrupts", 'i', .never)], true⟩ 1
    fun options operands => do
    let opening : Act.Opening := if given options 'a' then .appending else .writing
    let job ← read
    let (streams, code) ← operands.foldlM (fun found name => do
      match ← job.openPath name opening with
      | .ok i => return ((name, i) :: found.1, found.2)
      | .error fault =>
        complain (about name fault)
        return (found.1, 1)) (([] : List (Text × Nat)), 0)
    let t ← input
    say t
    streams.reverse.foldlM (fun code (name, i) => do
      if t.isEmpty || (← Act.write i t) then return code
      else
        let fault := (← Act.writeFault? i).getD .badDescriptor
        fail (about name fault) 1) code

/-! ### Ends -/

/-- A number of lines or octets: how it is signed, and how many. -/
structure Amount where
  sign : Option Char
  count : Nat

/-- The factor that a suffix stands for. -/
def factor? (suffix : Text) : Option Nat :=
  match String.ofList suffix with
  | "" => some 1
  | "b" => some 512
  | "kB" => some 1000
  | "k" => some 1024
  | "K" => some 1024
  | "KiB" => some 1024
  | "MB" => some 1000000
  | "M" => some 1048576
  | "m" => some 1048576
  | "MiB" => some 1048576
  | "GB" => some 1000000000
  | "G" => some 1073741824
  | _ => none

/-- The amount that a text stands for. -/
def amount? (t : Text) : Option Amount :=
  let sign := t.head?.filter fun c => c == '-' || c == '+'
  let body := if sign.isSome then t.drop 1 else t
  let digits := body.takeWhile Char.isDigit
  match nat? digits, factor? (body.drop digits.length) with
  | some n, some f => some ⟨sign, n * f⟩
  | _, _ => none

/-- The arguments with an old option for the number of lines in its new form. -/
def withoutOldCount : List Text → List Text
  | ('-' :: c :: t) :: rest =>
    if c.isDigit then
      let digits := (c :: t).takeWhile Char.isDigit
      let letters := (c :: t).drop digits.length
      let kind := if letters.any (· == 'c') then '-' :: 'c' :: digits else '-' :: 'n' :: digits
      kind :: (letters.filter fun l => l == 'q' || l == 'v').map (fun l => ['-', l]) ++ rest
    else ('-' :: c :: t) :: rest
  | arguments => arguments

/-- The arguments with an old option for the first line that is wanted in its new form.  It counts
as an option only when at most one operand stands behind it. -/
def withoutOldStart (arguments : List Text) : List Text :=
  match arguments with
  | ('+' :: t) :: rest =>
    let digits := t.takeWhile Char.isDigit
    let letters := t.drop digits.length
    let isOption := !digits.isEmpty && rest.length ≤ 1 &&
      !(rest.head?.any fun w => w.head? = some '-' && w.length > 1)
    if isOption && letters = [] then ['-', 'n'] :: ('+' :: digits) :: rest
    else if isOption && letters = ['c'] then ['-', 'c'] :: ('+' :: digits) :: rest
    else arguments
  | _ => arguments

/-- The options of `head` and `tail`. -/
def endOptions : OptionSet :=
  ⟨"c:n:qvzf", [("bytes", 'c', .always), ("lines", 'n', .always), ("quiet", 'q', .never),
    ("silent", 'q', .never), ("verbose", 'v', .never), ("zero-terminated", 'z', .never),
    ("follow", 'f', .attached)], true⟩

/-- The last option that says how much is wanted. -/
def wantedAmount (options : List GivenOption) : Except Text (Bool × Amount) :=
  match (options.filter fun o => o.1 == 'c' || o.1 == 'n').getLast? with
  | none => .ok (false, ⟨none, 10⟩)
  | some (letter, value) =>
    match amount? value with
    | some a => .ok (letter == 'c', a)
    | none =>
      .error ((if letter = 'c' then "invalid number of bytes: " else
        "invalid number of lines: ").toList ++ quotedPlain value)

/-- The name of a file as a heading shows it. -/
def headingName (name : Text) : Text :=
  if name = ['-'] then "standard input".toList else name

/-- Take a part of each of the files that operands name, under headings if there are several. -/
def endTool (part : Bool → Amount → Text → Text) (needsAll : Amount → Bool) : Tool Nat := fun job =>
  let job := { job with arguments := withoutOldCount job.arguments }
  (withOptions endOptions 1 fun options operands => do
    match wantedAmount options with
    | .error message => fail message 1
    | .ok (inBytes, amount) =>
      let headed := (operands.length > 1 || given options 'v') && !given options 'q'
      let (_, code) ← (if operands.isEmpty then [['-']] else operands).foldlM (fun found name => do
        let contents ← if name = ['-'] then
            if needsAll amount then do pure (Except.ok (← input))
            else do
              pure (Except.ok (← takeInput (fun t => (part inBytes amount t).length) (!inBytes)))
          else contents name
        match contents with
        | .error fault =>
          let before := if fault = .isADirectory then "error reading " else "cannot open "
          complain (before.toList ++ quotedPlain name ++
            (if fault = .isADirectory then ": ".toList else " for reading: ".toList) ++
            fault.description.toList)
          return (found.1, 1)
        | .ok t =>
          if headed then
            say ((if found.1 then [] else ['\n']) ++ "==> ".toList ++ headingName name ++
              " <==\n".toList)
          say (part inBytes amount t)
          return (false, found.2)) (true, 0)
      return code) job

/-- The beginning of files. -/
def head : Tool Nat :=
  endTool (fun inBytes a t =>
    if inBytes then if a.sign = some '-' then t.take (t.length - a.count) else t.take a.count
    else
      let ls := linesEnded t
      (if a.sign = some '-' then ls.take (ls.length - a.count) else ls.take a.count).flatten)
    fun a => a.sign = some '-'

/-- The end of files. -/
def tail : Tool Nat :=
  withReader (fun job => { job with arguments := withoutOldStart job.arguments }) <|
    endTool (fun inBytes a t =>
    let start (size : Nat) : Nat := if a.sign = some '+' then a.count - 1 else size - a.count
    if inBytes then t.drop (start t.length)
    else
      let ls := linesEnded t
      (ls.drop (start ls.length)).flatten)
    fun _ => true

/-! ### Numbers of lines -/

/-- The style in which `nl` numbers lines: all, those that are not empty, or none. -/
def isNumbered (style : Text) (line : Text) : Bool :=
  match style with
  | ['a'] => true
  | ['n'] => false
  | _ => !line.isEmpty

/-- A number in the field that `nl` gives it. -/
def numberField (form : Text) (width n : Nat) : Text :=
  match String.ofList form with
  | "ln" => padRight width ' ' (ofNat n)
  | "rz" => padLeft width '0' (ofNat n)
  | _ => padLeft width ' ' (ofNat n)

/-- The section that a line begins for `nl`: header, body or footer. -/
def section? (line : Text) : Option Nat :=
  match String.ofList line with
  | "\\:\\:\\:" => some 0
  | "\\:\\:" => some 1
  | "\\:" => some 2
  | _ => none

/-- Copy files with numbers in front of the lines. -/
def nl : Tool Nat :=
  withOptions ⟨"b:d:f:h:i:l:n:ps:v:w:", [("body-numbering", 'b', .always),
    ("number-format", 'n', .always), ("number-separator", 's', .always),
    ("number-width", 'w', .always), ("starting-line-number", 'v', .always),
    ("line-increment", 'i', .always), ("no-renumber", 'p', .never)], true⟩ 1
    fun options operands => do
    let number (letter : Char) (default : Nat) : Nat :=
      ((valueOf? options letter).bind nat?).getD default
    let start := number 'v' 1
    let width := number 'w' 6
    let separator := (valueOf? options 's').getD ['\t']
    let form := (valueOf? options 'n').getD []
    let styles := [(valueOf? options 'h').getD ['n'], (valueOf? options 'b').getD ['t'],
      (valueOf? options 'f').getD ['n']]
    match styles.find? fun s => !(["a", "t", "n"].any fun k => k.toList == s) &&
        s.head? != some 'p' with
    | some style =>
      misuse ("invalid body numbering style: ".toList ++ quotedPlain style) 1
    | none =>
      let (t, code) ← allFiles operands
      let step (done : List Text × Nat × Nat) (line : Text) : List Text × Nat × Nat :=
        let (parts, n, part) := done
        match section? line with
        | some p => (['\n'] :: parts, if given options 'p' then n else start, p)
        | none =>
          if isNumbered (styles[part]?.getD ['t']) line then
            ((numberField form width n ++ separator ++ line ++ ['\n']) :: parts,
              n + number 'i' 1, part)
          else ((List.replicate (width + separator.length) ' ' ++ line ++ ['\n']) :: parts, n, part)
      let (parts, _, _) := (splitLines t).foldl step ([], start, 1)
      say parts.reverse.flatten
      return code

/-! ### Sizes -/

/-- The sizes that `wc` counts: lines, words, characters, octets, and the longest line. -/
def sizes (t : Text) : List (Char × Nat) :=
  let longest := (splitLines t).foldl (fun n line => max n line.length) 0
  [('l', t.count '\n'), ('w', (words t).length), ('m', t.length), ('c', t.length), ('L', longest)]

/-- Count lines, words and octets. -/
def wc : Tool Nat :=
  withOptions ⟨"clLmw", [("bytes", 'c', .never), ("chars", 'm', .never), ("lines", 'l', .never),
    ("words", 'w', .never), ("max-line-length", 'L', .never)], true⟩ 1 fun options operands => do
    let wanted := if options.isEmpty then ['l', 'w', 'c'] else
      ['l', 'w', 'm', 'c', 'L'].filter (given options)
    let (found, code) ← (if operands.isEmpty then [['-']] else operands).foldlM
      (fun found name => do
        match ← operand name with
        | .ok t => return ((name, sizes t, t.length) :: found.1, found.2)
        | .error fault =>
          complain (about name fault)
          let row := if fault = .isADirectory then [(name, sizes [], 0)] else []
          return (row ++ found.1, 1)) (([] : List (Text × List (Char × Nat) × Nat)), 0)
    let rows := found.reverse
    let total := rows.foldl (fun n row => n + row.2.2) 0
    let hasInput := operands.isEmpty || operands.any (· == ['-'])
    let width := if wanted.length = 1 && operands.length ≤ 1 then 1
      else if hasInput then 7 else (ofNat total).length
    let line := fun (counts : List (Char × Nat)) (name : Text) =>
      [' '].intercalate
        (wanted.map fun k => padLeft width ' ' (ofNat ((counts.lookup k).getD 0))) ++
        (if name.isEmpty then [] else ' ' :: name) ++ ['\n']
    let lines := rows.map fun row => line row.2.1 (if operands.isEmpty then [] else row.1)
    let sums := ['l', 'w', 'm', 'c', 'L'].map fun k =>
      let each := rows.map fun row => (row.2.1.lookup k).getD 0
      (k, if k = 'L' then each.foldl max 0 else each.foldl (· + ·) 0)
    say (lines.flatten ++ if operands.length > 1 then line sums "total".toList else [])
    return code

end Tools

end ComponentFile
