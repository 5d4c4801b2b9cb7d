import ComponentFile.Regex.Reader
import ComponentFile.Tools.Copy

/-!
# Tools for characters and columns

## Main definitions

* `Tools.tr` : replace, delete and squeeze characters.
* `Tools.cut`, `Tools.paste` : parts of lines, and lines side by side.
* `Tools.fold`, `Tools.expand`, `Tools.unexpand` : the width of lines and tabs.
-/

namespace ComponentFile.Tools

open Text Tool

/-! ### Sets of characters -/

/-- A part of a set of characters as it is written. -/
inductive SetPart where
  | chars (cs : List Char)
  | repeated (c : Char) (count : Nat)
  | fill (c : Char)

/-- The characters of a class, in their order. -/
def classMembers? (name : Text) : Option (List Char) :=
  (CharSet.classRanges? name).map fun ranges =>
    ((List.range 256).map Char.ofNat).filter (CharSet.covers ⟨false, ranges⟩)

/-- The character at the front of a set, which may be an escape, and the text behind it. -/
def setChar (t : Text) : Option (Char × Text) :=
  match t with
  | [] => none
  | '\\' :: c :: u =>
    match Regex.numbered? 8 3 (c :: u) with
    | some found => some found
    | none =>
      match Regex.control? c with
      | some d => some (d, u)
      | none => some (if c = 'b' then '\x08' else c, u)
  | c :: u => some (c, u)

/-- A repetition such as `[x*3]` at the front of a set, and the text behind it. -/
def repetition? (t : Text) : Option (SetPart × Text) :=
  match t with
  | '[' :: u =>
    match setChar u with
    | some (c, '*' :: v) =>
      match cut? [']'] v with
      | some (digits, rest) =>
        if digits.isEmpty then some (.fill c, rest)
        else
          let radix := if digits.head? = some '0' then 8 else 10
          (natIn? radix digits).map fun n =>
            (if n = 0 then .fill c else .repeated c n, rest)
      | none => none
    | _ => none
  | _ => none

/-- The parts of a set, put in front of those that are known in reverse. -/
def setParts (done : List SetPart) : Nat → Text → Except Text (List SetPart)
  | 0, _ => .ok done.reverse
  | fuel + 1, t =>
    match t with
    | [] => .ok done.reverse
    | '[' :: ':' :: u =>
      match cut? ":]".toList u with
      | some (name, rest) =>
        match classMembers? name with
        | some cs => setParts (.chars cs :: done) fuel rest
        | none => .error ("invalid character class ".toList ++ quotedPlain name)
      | none => setParts (.chars ['['] :: done) fuel (':' :: u)
    | '[' :: '=' :: c :: '=' :: ']' :: u => setParts (.chars [c] :: done) fuel u
    | _ =>
      match repetition? t with
      | some (part, rest) => setParts (part :: done) fuel rest
      | none =>
        match setChar t with
        | none => .ok done.reverse
        | some (a, '-' :: rest) =>
          match setChar rest with
          | none => setParts (.chars [a] :: done) fuel ['-']
          | some (b, rest) =>
            if b < a then
              .error ("range-endpoints of ".toList ++ quotedPlain [a, '-', b] ++
                " are in reverse collating sequence order".toList)
            else
              let cs := (List.range (b.toNat + 1 - a.toNat)).map fun i => Char.ofNat (a.toNat + i)
              setParts (.chars cs :: done) fuel rest
        | some (a, rest) => setParts (.chars [a] :: done) fuel rest

/-- The characters of a set that has to be as long as another one. -/
def setMembers (length : Nat) (parts : List SetPart) : List Char :=
  let known := parts.foldl (fun n part =>
    n + match part with
      | .chars cs => cs.length
      | .repeated _ k => k
      | .fill _ => 0) 0
  parts.flatMap fun
    | .chars cs => cs
    | .repeated c k => List.replicate k c
    | .fill c => List.replicate (length - known) c

/-- What becomes of each of the 256 characters. -/
def exchange (source target : List Char) : Array Char :=
  let last := target.getLast?.getD ' '
  let pairs := source.zip (target ++ List.replicate (source.length - target.length) last)
  pairs.foldl (fun table pair => table.setIfInBounds pair.1.toNat pair.2)
    ((List.range 256).map Char.ofNat).toArray

/-- Which of the 256 characters are in a set. -/
def memberTable (cs : List Char) : Array Bool :=
  cs.foldl (fun table c => table.setIfInBounds c.toNat true) (Array.replicate 256 false)

/-- Whether a table of members holds a character. -/
def isIn (table : Array Bool) (c : Char) : Bool :=
  table[c.toNat]?.getD false

/-- A text without a character that repeats the one before it, as far as the table holds it. -/
def squeeze (table : Array Bool) (done : Text) : Text → Text
  | [] => done.reverse
  | c :: t =>
    if done.head? = some c && isIn table c then squeeze table done t
    else squeeze table (c :: done) t

/-- Why the operands of `tr` are refused. -/
def trFault? (deletes squeezes : Bool) (operands : List Text) : Option Text :=
  match operands with
  | [] => some "missing operand".toList
  | [a] =>
    if deletes == squeezes then
      some ("missing operand after ".toList ++ quotedPlain a ++
        (if deletes then "\nTwo strings must be given when both deleting and squeezing repeats."
          else "\nTwo strings must be given when translating.").toList)
    else none
  | [_, b] =>
    if deletes && !squeezes then
      some ("extra operand ".toList ++ quotedPlain b ++
        "\nOnly one string may be given when deleting without squeezing repeats.".toList)
    else none
  | _ :: _ :: c :: _ => some ("extra operand ".toList ++ quotedPlain c)

/-- Replace, delete or squeeze characters. -/
def tr : Tool Nat :=
  withOptions ⟨"cCdst", [("complement", 'c', .never), ("delete", 'd', .never),
    ("squeeze-repeats", 's', .never), ("truncate-set1", 't', .never)], false⟩ 1
    fun options operands => do
    let deletes := given options 'd'
    let squeezes := given options 's'
    match trFault? deletes squeezes operands with
    | some message => misuse message 1
    | none =>
      let parts (t : Text) := setParts [] (t.length + 1) t
      match parts (operands.head?.getD []), parts (operands[1]?.getD []) with
      | .error message, _ => fail message 1
      | _, .error message => fail message 1
      | .ok first, .ok second =>
        let listed := setMembers 0 first
        let source := if given options 'c' || given options 'C' then
            let table := memberTable listed
            ((List.range 256).map Char.ofNat).filter fun c => !isIn table c
          else listed
        let target := setMembers source.length second
        let translates := operands.length = 2 && !deletes
        if translates && target.isEmpty && !given options 't' && !source.isEmpty then
          fail "when not truncating set1, string2 must be non-empty".toList 1
        else
          let t ← input
          let t := if deletes then
              let table := memberTable source
              t.filter fun c => !isIn table c
            else if translates then
              let source := if given options 't' then source.take target.length else source
              let table := exchange source target
              t.map fun c => table[c.toNat]?.getD c
            else t
          let t := if squeezes then
              squeeze (memberTable (if operands.length = 2 then target else source)) [] t
            else t
          say t
          return 0

/-! ### Parts of lines -/

/-- A range of places, the last one of which may be open. -/
abbrev Span := Nat × Option Nat

/-- The range that a text stands for. -/
def span? (t : Text) : Option Span :=
  match t.splitOn '-' with
  | [a] => (nat? a).map fun n => (n, some n)
  | [a, b] =>
    match nat? a, nat? b with
    | some n, some m => if m < n then none else some (n, some m)
    | some n, none => if b.isEmpty then some (n, none) else none
    | none, some m => if a.isEmpty then some (1, some m) else none
    | none, none => none
  | _ => none

/-- The ranges that a text lists. -/
def spans? (t : Text) : Option (List Span) :=
  (t.splitOnP fun c => c == ',' || c == ' ').mapM fun part =>
    (span? part).filter fun s => s.1 > 0

/-- Whether a place is in one of the ranges. -/
def inSpans (spans : List Span) (n : Nat) : Bool :=
  spans.any fun s => s.1 ≤ n && s.2.all (n ≤ ·)

/-- The members of a list at places that are wanted. -/
def atPlaces {α : Type} (wanted : Nat → Bool) (xs : List α) : List α :=
  (xs.zipIdx.filter fun x => wanted (x.2 + 1)).map Prod.fst

/-- Runs of members at places that are wanted. -/
def runsAt {α : Type} (wanted : Nat → Bool) (xs : List α) : List (List α) :=
  let step (done : List (List α) × Bool) (x : α × Nat) : List (List α) × Bool :=
    if wanted (x.2 + 1) then
      match done with
      | (run :: rest, true) => ((x.1 :: run) :: rest, true)
      | (runs, _) => ([x.1] :: runs, true)
    else (done.1, false)
  ((xs.zipIdx.foldl step ([], false)).1.map List.reverse).reverse

/-- Why a list of ranges is refused. -/
def spanFault (inFields : Bool) (t : Text) : Text :=
  let bad := (t.splitOnP fun c => c == ',' || c == ' ').find? fun part =>
    ((span? part).filter fun s => s.1 > 0).isNone
  let part := bad.getD []
  let numbers := part.splitOn '-'
  if numbers.any fun n => nat? n == some 0 then
    if inFields then "fields are numbered from 1".toList
    else "byte/character positions are numbered from 1".toList
  else if part = ['-'] then "invalid range with no endpoint: -".toList
  else if numbers.length = 2 && numbers.all fun n => (nat? n).isSome then
    "invalid decreasing range".toList
  else (if inFields then "invalid field value " else
    "invalid byte/character position ").toList ++ quotedPlain part

/-- Print parts of lines. -/
def cut : Tool Nat :=
  withOptions ⟨"b:c:d:f:nsz", [("bytes", 'b', .always), ("characters", 'c', .always),
    ("delimiter", 'd', .always), ("fields", 'f', .always), ("only-delimited", 's', .never),
    ("complement", '1', .never), ("output-delimiter", '2', .always)], true⟩ 1
    fun options operands => do
    let lists := options.filter fun o => ['b', 'c', 'f'].contains o.1
    match lists with
    | [] => misuse "you must specify a list of bytes, characters, or fields".toList 1
    | _ :: _ :: _ => misuse "only one list may be specified".toList 1
    | [(kind, list)] =>
      let delimiter := (valueOf? options 'd').getD ['\t']
      if kind ≠ 'f' && given options 'd' then
        misuse "an input delimiter may be specified only when operating on fields".toList 1
      else if kind ≠ 'f' && given options 's' then
        misuse
          "suppressing non-delimited lines makes sense\n\tonly when operating on fields".toList 1
      else if delimiter.length > 1 then
        misuse "the delimiter must be a single character".toList 1
      else
        match spans? list with
        | none => misuse (spanFault (kind == 'f') list) 1
        | some spans =>
          let wanted (n : Nat) : Bool := inSpans spans n != given options '1'
          let between := valueOf? options '2'
          let d := delimiter.head?.getD '\x00'
          let part (line : Text) : Option Text :=
            if kind = 'f' then
              let fields := line.splitOn d
              if fields.length = 1 then if given options 's' then none else some line
              else some ((between.getD [d]).intercalate (atPlaces wanted fields))
            else
              match between with
              | none => some (atPlaces wanted line)
              | some b => some (b.intercalate (runsAt wanted line))
          forFiles operands fun _ t => say (joinLines ((splitLines t).filterMap part))

/-- The delimiters of `paste`. -/
def delimiters (t : Text) : List Text :=
  match t with
  | '\\' :: 'n' :: u => ['\n'] :: delimiters u
  | '\\' :: 't' :: u => ['\t'] :: delimiters u
  | '\\' :: '0' :: u => [] :: delimiters u
  | '\\' :: c :: u => [c] :: delimiters u
  | c :: u => [c] :: delimiters u
  | [] => []

/-- Texts with delimiters between them, which are taken in turn. -/
def joinWith (ds : List Text) (ts : List Text) : Text :=
  (ts.zipIdx.map fun t =>
    if t.2 = 0 then t.1 else (ds[(t.2 - 1) % (max ds.length 1)]?.getD []) ++ t.1).flatten

/-- Rows of lines side by side, put behind those that are known in reverse.  Columns with the same
source take their lines from it in turn.  Sources are known by their names. -/
def pasteRows (ds : List Text) (columns done : List Text) :
    Nat → List (Text × List Text) → List Text
  | 0, _ => done.reverse
  | fuel + 1, sources =>
    if columns.all fun name => (sources.lookup name).all List.isEmpty then done.reverse
    else
      let (row, sources) := columns.foldl (fun (done : List Text × List (Text × List Text)) name =>
        match done.2.lookup name with
        | some (line :: rest) =>
          (line :: done.1, done.2.map fun s => if s.1 = name then (name, rest) else s)
        | _ => ([] :: done.1, done.2)) ([], sources)
      pasteRows ds columns (joinWith ds row.reverse :: done) fuel sources

/-- Put the lines of files side by side. -/
def paste : Tool Nat :=
  withOptions ⟨"d:sz", [("delimiters", 'd', .always), ("serial", 's', .never)], true⟩ 1
    fun options operands => do
    let ds := delimiters ((valueOf? options 'd').getD ['\t'])
    let columns := if operands.isEmpty then [['-']] else operands
    if given options 's' then
      forFiles columns fun _ t => say (joinWith ds (splitLines t) ++ ['\n'])
    else
      let mut sources : List (Text × List Text) := []
      let mut keys : List Text := []
      for (name, i) in columns.zipIdx do
        let key := if name = ['-'] then name else ofNat i ++ '/' :: name
        keys := keys ++ [key]
        if (sources.lookup key).isNone then
          match ← operand name with
          | .ok t => sources := sources ++ [(key, splitLines t)]
          | .error fault =>
            complain (about name fault)
            return 1
      let count := sources.foldl (fun n s => n + s.2.length) 0
      say (joinLines (pasteRows ds keys [] (count + 1) sources))
      return 0

/-! ### Width -/

/-- The column behind a character that stands in a column. -/
def nextColumn (inOctets : Bool) (column : Nat) (c : Char) : Nat :=
  if inOctets then column + 1
  else if c = '\t' then (column / 8 + 1) * 8
  else if c = '\x08' then column - 1
  else if c = '\x0d' then 0
  else column + 1

/-- The width of a text that begins in column zero. -/
def textWidth (inOctets : Bool) (t : Text) : Nat :=
  t.foldl (nextColumn inOctets) 0

/-- The lines of a line that are at most `width` wide.  The one that is being read is kept in
reverse. -/
def foldLine (width : Nat) (inOctets atBlanks : Bool) : Text → Nat → Text → List Text
  | line, _, [] => [line.reverse]
  | line, column, c :: t =>
    let after := nextColumn inOctets column c
    if after > width && !line.isEmpty then
      let tail := if atBlanks && line.any isGap then line.takeWhile fun d => !isGap d else []
      let done := line.drop tail.length
      let column := textWidth inOctets tail.reverse
      done.reverse :: foldLine width inOctets atBlanks (c :: tail) (nextColumn inOctets column c) t
    else foldLine width inOctets atBlanks (c :: line) after t

/-- Break lines that are too wide. -/
def fold : Tool Nat := fun job =>
  let arguments := match job.arguments with
    | ('-' :: c :: t) :: rest =>
      if (c :: t).all Char.isDigit then ("-w".toList ++ c :: t) :: rest else job.arguments
    | arguments => arguments
  (withOptions ⟨"bsw:", [("bytes", 'b', .never), ("spaces", 's', .never), ("width", 'w', .always)],
    true⟩ 1 fun options operands => do
    let value := (valueOf? options 'w').getD "80".toList
    match (nat? value).filter (· > 0) with
    | none => fail ("invalid number of columns: ".toList ++ quotedPlain value) 1
    | some width =>
      forFiles operands fun _ t =>
        say ((linesEnded t).flatMap fun line =>
          let parts := foldLine width (given options 'b') (given options 's') [] 0 (chomp line)
          ['\n'].intercalate parts ++ if line.getLast? = some '\n' then ['\n'] else []))
    { job with arguments := arguments }

/-- The place of the next tab stop behind a column. -/
def nextStop (stops : List Nat) (column : Nat) : Nat :=
  match stops with
  | [n] => (column / n + 1) * n
  | _ => (stops.find? (· > column)).getD (column + 1)

/-- The tab stops that a text lists. -/
def tabStops? (t : Text) : Option (List Nat) :=
  ((t.splitOnP fun c => c == ',' || c == ' ').mapM nat?).filter fun stops => !stops.contains 0

/-- A line with spaces in the place of tabs, put in front of what is known in reverse. -/
def expandLine (stops : List Nat) (initial : Bool) : Bool → Nat → Text → Text → Text
  | _, _, done, [] => done.reverse
  | leading, column, done, c :: t =>
    if c = '\t' && (leading || !initial) then
      let stop := nextStop stops column
      expandLine stops initial leading stop (List.replicate (stop - column) ' ' ++ done) t
    else
      expandLine stops initial (leading && isGap c) (if c = '\x08' then column - 1 else column + 1)
        (c :: done) t

/-- Turn tabs into spaces. -/
def expand : Tool Nat :=
  withOptions ⟨"it:", [("initial", 'i', .never), ("tabs", 't', .always)], true⟩ 1
    fun options operands => do
    let value := (valueOf? options 't').getD ['8']
    match tabStops? value with
    | none => fail ("tab size contains invalid character(s): ".toList ++ quotedPlain value) 1
    | some stops =>
      forFiles operands fun _ t =>
        say ((linesEnded t).flatMap (expandLine stops (given options 'i') true 0 []))

/-- A line with tabs in the place of spaces before tab stops, given the spaces that wait to be
written and the column. -/
def unexpandLine (stops : List Nat) (everywhere : Bool) : Bool → Nat → Nat → Text → Text → Text
  | _, waiting, _, done, [] => (List.replicate waiting ' ' ++ done).reverse
  | leading, waiting, column, done, c :: t =>
    if leading && c = ' ' then
      let stop := nextStop stops column
      if column + 1 = stop && (waiting > 0 || t.head?.any isGap) then
        unexpandLine stops everywhere leading 0 stop ('\t' :: done) t
      else unexpandLine stops everywhere leading (waiting + 1) (column + 1) done t
    else if leading && c = '\t' then
      unexpandLine stops everywhere leading 0 (nextStop stops column) ('\t' :: done) t
    else
      unexpandLine stops everywhere everywhere 0 (column + 1)
        (c :: (List.replicate waiting ' ' ++ done)) t

/-- Turn spaces into tabs. -/
def unexpand : Tool Nat :=
  withOptions ⟨"at:", [("all", 'a', .never), ("tabs", 't', .always), ("first-only", 'f', .never)],
    true⟩ 1 fun options operands => do
    let value := (valueOf? options 't').getD ['8']
    match tabStops? value with
    | none => fail ("tab size contains invalid character(s): ".toList ++ quotedPlain value) 1
    | some stops =>
      let everywhere := (given options 'a' || given options 't') && !given options 'f'
      forFiles operands fun _ t =>
        say ((linesEnded t).flatMap (unexpandLine stops everywhere true 0 0 []))

end ComponentFile.Tools
