import ComponentFile.Text.Chunks
import ComponentFile.Tools.Copy
import ComponentFile.Tools.Files

/-!
# Parts of files

## Main definitions

* `Tools.dd` : copying blocks from one place of a file to a place of another one.
* `Tools.split` : a file in parts.
* `Tools.truncate` : files with another length.
-/

namespace ComponentFile

open Text Tool Tools

namespace Blocks

/-! ### Copying blocks -/

/-- What is to be copied, by name. -/
abbrev Settings := List (String × Text)

/-- Why settings make no sense. -/
inductive Fault where
  | unrecognized (operand : Text)
  | badNumber (t : Text)
  | badChoice (kind : String) (t : Text)

/-- The wording of a fault. -/
def Fault.message : Fault → Text
  | unrecognized operand => "unrecognized operand ".toList ++ quotedPlain operand
  | badNumber t => "invalid number: ".toList ++ quotedPlain t
  | badChoice kind t => "invalid ".toList ++ kind.toList ++ ": ".toList ++ quotedPlain t

/-- Whether help is offered with a fault. -/
def Fault.offersHelp : Fault → Bool
  | badNumber _ => false
  | _ => true

/-- The names of all settings. -/
def settingNames : List String :=
  ["if", "of", "bs", "ibs", "obs", "cbs", "count", "skip", "iseek", "seek", "oseek", "conv",
    "iflag",
    "oflag", "status"]

/-- The changes that blocks can undergo, with those that make no difference here. -/
def conversions : List String :=
  ["ucase", "lcase", "swab", "sync", "notrunc", "noerror", "excl", "nocreat", "fsync", "fdatasync",
    "sparse"]

/-- The ways in which files can be used, most of which make no difference here. -/
def uses : List String :=
  ["append", "count_bytes", "skip_bytes", "seek_bytes", "fullblock", "direct", "directory", "dsync",
    "sync", "nonblock", "noatime", "nocache", "noctty", "nofollow", "text", "binary"]

/-- The number of octets that a text stands for: numbers with letters for factors, multiplied. -/
def count? (t : Text) : Option Nat :=
  (t.splitOn 'x').foldlM (fun n part =>
    let digits := part.takeWhile Char.isDigit
    let factor := match part.drop digits.length with
      | ['c'] => some 1
      | ['w'] => some 2
      | suffix => factor? suffix
    match nat? digits, factor with
    | some m, some f => some (n * m * f)
    | _, _ => none) 1

/-- The settings that operands make. -/
def settings (operands : List Text) : Except Fault Settings :=
  operands.mapM fun w =>
    match cut? ['='] w with
    | none => .error (.unrecognized w)
    | some (name, value) => do
      let name := String.ofList name
      let among (kind : String) (choices : List String) : Except Fault Unit :=
        (value.splitOn ',').forM fun v =>
          if choices.any fun c => c.toList == v then .ok () else .error (.badChoice kind v)
      if !settingNames.contains name then throw (.unrecognized w)
      if name = "conv" then among "conversion" conversions
      else if name = "iflag" then among "input flag" uses
      else if name = "oflag" then among "output flag" uses
      else if name = "status" then among "status level" ["none", "noxfer", "progress"]
      else if name != "if" && name != "of" then
        match count? value with
        | none => throw (.badNumber value)
        | some 0 => if name.endsWith "bs" then throw (.badNumber value)
        | some _ => pure ()
      return (name, value)

/-- The last value of a setting. -/
def value? (s : Settings) (name : String) : Option Text :=
  s.reverse.lookup name

/-- The number that is set under one of two names. -/
def number? (s : Settings) (name other : String) : Option Nat :=
  (s.reverse.find? fun p => p.1 = name || p.1 = other).bind fun p => count? p.2

/-- Whether a word is among those of a setting. -/
def chosen (s : Settings) (name word : String) : Bool :=
  s.any fun p => p.1 = name && (p.2.splitOn ',').any (· == word.toList)

/-- A text with the octets of each pair exchanged. -/
def swapped : Text → Text
  | a :: b :: t => b :: a :: swapped t
  | t => t

/-- A block after the changes that are asked for. -/
def converted (s : Settings) (size : Nat) (block : Text) : Text :=
  let has := chosen s "conv"
  let block := if has "swab" then swapped block else block
  let block := if has "lcase" then lower block else block
  let block := if has "ucase" then block.map Char.toUpper else block
  if has "sync" then padRight size '\x00' block else block

/-- The numbers of whole blocks and of others. -/
def recordText (size : Nat) (blocks : List Text) (way : String) : Text :=
  let whole := (blocks.filter fun b => b.length = size).length
  ofNat whole ++ '+' :: ofNat (blocks.length - whole) ++ " records ".toList ++ way.toList ++ ['\n']

/-- A number of octets in the units that people read. -/
def sizeText (n : Nat) : Text :=
  ofNat n ++ (if n = 1 then " byte" else " bytes").toList ++ " copied, 0 s, Infinity B/s\n".toList

/-- Octets with some of them replaced from a position on. -/
def overwritten (old : Text) (position : Nat) (t : Text) (keepsEnd : Bool) : Text :=
  padRight position '\x00' (old.take position) ++ t ++
    if keepsEnd then old.drop (position + t.length) else []

end Blocks

/-- Copy blocks of octets. -/
def Tools.dd : Tool Nat :=
  withOptions ⟨"", [], true⟩ 1 fun _ operands => do
    match Blocks.settings operands with
    | .error fault => if fault.offersHelp then misuse fault.message 1 else fail fault.message 1
    | .ok s =>
      let both := Blocks.number? s "bs" "bs"
      let size := (both.orElse fun _ => Blocks.number? s "ibs" "ibs").getD 512
      let outSize := (both.orElse fun _ => Blocks.number? s "obs" "obs").getD 512
      let octetsOf (flag : String) (n : Nat) : Nat :=
        if Blocks.chosen s "iflag" flag then n else n * size
      let skipped := octetsOf "skip_bytes" ((Blocks.number? s "skip" "iseek").getD 0)
      let limit := (Blocks.number? s "count" "count").map (octetsOf "count_bytes")
      let source ← match Blocks.value? s "if" with
        | some file => (do
          match ← contents file with
          | .ok t => return .ok (t.length, match limit with
              | some n => (t.drop skipped).take n
              | none => t.drop skipped)
          | .error fault => return .error (file, fault))
        | none => (do
          let t ← takeInput (fun t => min t.length (skipped + limit.getD t.length)) false
          return .ok (t.length, t.drop skipped) : Tool (Except (Text × Fault) (Nat × Text)))
      let name := (Blocks.value? s "if").getD (quotedPlain "standard input".toList)
      match source with
      | .error (file, .isADirectory) =>
        complain ("error reading ".toList ++ about (quotedPlain file) .isADirectory)
        report "0+0 records in\n0+0 records out\n".toList
        report (Blocks.sizeText 0)
        return 1
      | .error (file, fault) => fail ("failed to open ".toList ++ about (quotedPlain file) fault) 1
      | .ok (length, t) =>
        if length < skipped then complain (name ++ ": cannot skip to specified offset".toList)
        let blocks := chunks size t
        let changed := blocks.map (Blocks.converted s size)
        let result := changed.flatten
        let target ← match Blocks.value? s "of" with
          | none => (do
            say result
            return none)
          | some file => (do
            let position := (Blocks.number? s "seek" "oseek").getD 0 *
              (if Blocks.chosen s "oflag" "seek_bytes" then 1 else outSize)
            let old := (← contents file).toOption.getD []
            let keeps := Blocks.chosen s "conv" "notrunc"
            let old := if keeps then old else old.take position
            match ← writeFile file (Blocks.overwritten old position result keeps) with
            | .ok () => return none
            | .error fault => return some (file, fault) : Tool (Option (Text × Fault)))
        match target with
        | some (file, fault) => fail ("failed to open ".toList ++ about (quotedPlain file) fault) 1
        | none =>
          let status := (Blocks.value? s "status").map String.ofList
          if status != some "none" then
            report (Blocks.recordText size blocks "in")
            report (Blocks.recordText outSize
              (if both.isSome then changed else chunks outSize result)
              "out")
            if status != some "noxfer" then report (Blocks.sizeText result.length)
          return 0

/-! ### Parts in files of their own -/

namespace Blocks

/-- The characters that number the parts of a file. -/
def suffixSigns (has : Char → Bool) : Text :=
  if has 'd' then "0123456789".toList
  else if has 'x' then "0123456789abcdef".toList
  else "abcdefghijklmnopqrstuvwxyz".toList

/-- A number in a row of signs. -/
def suffix (signs : Text) : Nat → Nat → Text
  | 0, _ => []
  | width + 1, n => suffix signs width (n / signs.length) ++ (signs[n % signs.length]?).toList

/-- The parts of a text with equally many lines. -/
def byLines (n : Nat) (t : Text) : List Text :=
  (chunks n (linesEnded t)).map List.flatten

/-- A text in a number of parts that are equally long, but for one octet that the first ones may
have more. -/
def inParts (n : Nat) (t : Text) : List Text :=
  let size := t.length / n
  let start (i : Nat) : Nat := i * size + min i (t.length % n)
  (List.range n).map fun i => (t.drop (start i)).take (start (i + 1) - start i)

/-- How a file is to be split. -/
def parts (options : List GivenOption) (t : Text) : Except Text (List Text) :=
  let positive (kind value : Text) (use : Nat → List Text) : Except Text (List Text) :=
    match count? value with
    | some (n + 1) => .ok (use (n + 1))
    | _ => .error ("invalid number of ".toList ++ kind ++ ": ".toList ++ quotedPlain value)
  match (options.reverse.find? fun o => ['l', 'b', 'n'].any (· == o.1)) with
  | some ('b', value) => positive "bytes".toList value fun n => chunks n t
  | some ('n', value) => positive "chunks".toList value fun n => inParts n t
  | some (_, value) => positive "lines".toList value fun n => byLines n t
  | none => .ok (byLines 1000 t)

/-- The arguments with an old option for the number of lines in its new form. -/
def withoutOldLines (arguments : List Text) : List Text :=
  arguments.map fun w =>
    match w with
    | '-' :: c :: t => if c.isDigit && t.all Char.isDigit then '-' :: 'l' :: c :: t else w
    | w => w

end Blocks

/-- Write the parts of a file to files of their own. -/
def Tools.split : Tool Nat := fun job =>
  let tool : Tool Nat :=
    withOptions ⟨"l:b:n:a:dxe", [("lines", 'l', .always), ("bytes", 'b', .always),
      ("number", 'n', .always), ("suffix-length", 'a', .always),
      ("numeric-suffixes", 'd', .attached),
      ("hex-suffixes", 'x', .attached), ("additional-suffix", 'S', .always),
      ("elide-empty-files", 'e', .never), ("verbose", 'v', .never)], true⟩ 1
      fun options operands => do
      match operands with
      | _ :: _ :: extra :: _ => extraOperand extra
      | operands =>
        let file := operands.head?.getD ['-']
        let start := (operands.drop 1).head?.getD ['x']
        match Blocks.parts options [] with
        | .error message => fail message 1
        | .ok _ =>
          match ← operand file with
          | .error fault =>
            fail
              ("cannot open ".toList ++ about (quotedPlain file ++ " for reading".toList) fault) 1
          | .ok t =>
            let parts := (Blocks.parts options t).toOption.getD []
            let parts := if given options 'e' then parts.filter fun p => !p.isEmpty else parts
            let signs := Blocks.suffixSigns (given options)
            let width := ((valueOf? options 'a').bind nat?).getD 2
            parts.zipIdx.foldlM (fun code (part, i) => do
              if Nat.pow signs.length width ≤ i then
                if code = 0 then fail "output file suffixes exhausted".toList 1 else return code
              else
                let name := start ++ Blocks.suffix signs width i ++
                  (valueOf? options 'S').getD []
                if given options 'v' then
                  say ("creating file ".toList ++ quotedPlain name ++ ['\n'])
                match ← writeFile name part with
                | .ok () => return code
                | .error fault => fail (about name fault) 1) 0
  tool { job with arguments := Blocks.withoutOldLines job.arguments }

/-! ### Other lengths -/

namespace Blocks

/-- The length that a text asks for, given the one that there is. -/
def length? (t : Text) (now : Nat) : Option Nat :=
  match t with
  | '+' :: u => (count? u).map (now + ·)
  | '-' :: u => (count? u).map (now - ·)
  | '<' :: u => (count? u).map (min now)
  | '>' :: u => (count? u).map (max now)
  | '/' :: u => (count? u).map fun n => now / n * n
  | '%' :: u => (count? u).map fun n => (now + n - 1) / n * n
  | u => count? u

end Blocks

/-- Give files another length. -/
def Tools.truncate : Tool Nat :=
  withOptions ⟨"cos:r:", [("no-create", 'c', .never), ("size", 's', .always),
    ("reference", 'r', .always), ("io-blocks", 'o', .never)], true⟩ 1 fun options operands => do
    match valueOf? options 's', valueOf? options 'r' with
    | none, none => misuse "you must specify either '--size' or '--reference'".toList 1
    | size, reference =>
      let model ← match reference with
        | some file => contents file
        | none => pure (.ok [])
      let size := size.getD (ofNat (model.toOption.getD []).length)
      match Blocks.length? size 0 with
      | none => fail ("Invalid number: ".toList ++ quotedPlain size) 1
      | some _ =>
        if operands.isEmpty then misuse "missing file operand".toList 1
        else
          forOperands operands (fun name => do
            let old ← contents name
            if given options 'c' && old.toOption.isNone then return none
            else
              let t := old.toOption.getD []
              let length := (Blocks.length? size t.length).getD t.length
              match ← writeFile name (padRight length '\x00' (t.take length)) with
              | .ok () => return none
              | .error fault =>
                return some ("cannot open ".toList ++ about (quotedPlain name ++
                  " for writing".toList) fault)) 1

end ComponentFile
