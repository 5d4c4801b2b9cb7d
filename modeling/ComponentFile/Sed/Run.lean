import ComponentFile.Sed.Reader
import ComponentFile.Tools.Copy

/-!
# Running editing scripts

Each line of the input goes into the pattern space, the commands of the script that are for it are
run, and what is then in the pattern space is printed.

## Main definitions

* `Sed.Space` : the state of a run.
* `Sed.Space.step` : the effect of a command.
* `Sed.Space.runAll` : the effect of a script on all lines.
* `Tools.sed` : the tool that edits files.
-/

namespace ComponentFile

namespace Sed

open Text

/-- A line of the input, whether it has an end, and whether it is the last one of its file. -/
structure InputLine where
  origin : Text
  text : Text
  ended : Bool
  isLast : Bool

/-- What has been written to a file, in pieces with the last one first, and whether the last line
still lacks its end. -/
structure Output where
  pieces : List Text
  unended : Bool

/-- Write a line. -/
def Output.line (o : Output) (stop : Char) (ended : Bool) (t : Text) : Output :=
  let before := if o.unended then [[stop]] else []
  ⟨(if ended then t ++ [stop] else t) :: (before ++ o.pieces), !ended⟩

/-- Write text that brings its own line ends. -/
def Output.raw (o : Output) (stop : Char) (t : Text) : Output :=
  if t.isEmpty then o
  else ⟨t :: ((if o.unended then [[stop]] else []) ++ o.pieces), false⟩

/-- Everything that has been written. -/
def Output.all (o : Output) : Text :=
  o.pieces.reverse.flatten

/-- Something that is printed at the end of a cycle. -/
inductive Queued where
  | text (t : Text)
  | file (name : Text)
  | line (t : Text)

/-- How far a range of lines has come. -/
inductive Range where
  | inactive
  | upTo (line : Nat)
  | untilStop
  | finished

/-- What a run does not change. -/
structure Setting where
  script : Script
  silent : Bool
  separate : Bool
  stop : Char
  contents : Text → Option Text

/-- The state of a run. -/
structure Space where
  origin : Text
  pattern : Text
  hold : Text
  number : Nat
  ended : Bool
  atLast : Bool
  input : List InputLine
  queue : List Queued
  changed : Bool
  ranges : Array Range
  lastPattern : Option Pattern
  out : Output
  files : List (Text × Output)
  readers : List (Text × List Text)
  exit : Option Nat
  fault : Option Text

/-- What comes after a command: the command with a number, the end of the cycle, the end without
printing, or the next cycle without a new line. -/
inductive After where
  | go (place : Nat)
  | endCycle
  | endSilently
  | restart

namespace Space

/-- Whether there is no line behind the one that is being worked on. -/
def isAtLast (s : Space) (g : Setting) : Bool :=
  s.input.isEmpty || (g.separate && s.atLast)

/-- Write a line to a file. -/
def writeTo (s : Space) (g : Setting) (name : Text) (t : Text) : Space :=
  if name = "/dev/stdout".toList then { s with out := s.out.line g.stop s.ended t }
  else
    { s with files := s.files.map fun f =>
        if f.1 = name then (name, f.2.line g.stop s.ended t) else f }

/-- Print a line. -/
def put (s : Space) (g : Setting) (t : Text) : Space :=
  { s with out := s.out.line g.stop s.ended t }

/-- Print text that brings its own line ends. -/
def putRaw (s : Space) (g : Setting) (t : Text) : Space :=
  { s with out := s.out.raw g.stop t }

/-- Print what has been queued. -/
def flush (s : Space) (g : Setting) : Space :=
  let s := s.queue.reverse.foldl (fun (s : Space) q =>
    match q with
    | .text t => s.putRaw g t
    | .file name => s.putRaw g ((g.contents name).getD [])
    | .line t => { s with out := s.out.line g.stop true t }) s
  { s with queue := [] }

/-- Take the next line of the input. -/
def advance (s : Space) : Option (InputLine × Space) :=
  match s.input with
  | [] => none
  | l :: rest =>
    some (l, { s with
      origin := l.origin, input := rest, number := s.number + 1, ended := l.ended,
      atLast := l.isLast })

/-- The pattern that is meant, which is the one that was used last unless one is given. -/
def patternOf (s : Space) (f : Option Pattern) : Option Pattern :=
  f.orElse fun _ => s.lastPattern

/-- Remember the pattern that was used last. -/
def use (s : Space) (f : Option Pattern) : Space :=
  match s.patternOf f with
  | some f => { s with lastPattern := some f }
  | none => { s with fault := some "no previous regular expression".toList }

/-- Whether an address is that of the current line. -/
def isAt (s : Space) (g : Setting) : Address → Bool
  | .line n => s.number = n
  | .last => s.isAtLast g
  | .pattern f => (s.patternOf f).any fun f => f.isIn s.pattern
  | .every first step => s.number ≥ first && (s.number - first) % step = 0

/-- The state after an address has been looked at. -/
def looked (s : Space) : Address → Space
  | .pattern f => s.use f
  | _ => s

/-- Whether a command is for the current line, and the state behind that question. -/
def selects (s : Space) (g : Setting) (place : Nat) : Lines → Bool × Space
  | .all => (true, s)
  | .one a => (s.isAt g a, s.looked a)
  | .range first stop =>
    let put (s : Space) (r : Range) : Space := { s with ranges := s.ranges.setIfInBounds place r }
    let isZero := match first with
      | .line 0 => true
      | _ => false
    let enter (s : Space) : Bool × Space :=
      let s := s.looked first
      match stop with
      | .at (.line n) =>
        (true, put s (if n ≤ s.number then .inactive else .upTo n))
      | .after n => (true, put s (if n = 0 then .inactive else .upTo (s.number + n)))
      | .multiple n =>
        (true, put s (if n = 0 || s.number % n = 0 then .inactive
          else .upTo ((s.number / n + 1) * n)))
      | .at _ => (true, put s .untilStop)
    match s.ranges[place]?.getD .inactive with
    | .finished => (false, s)
    | .inactive =>
      if isZero && s.number = 1 then
        match stop with
        | .at a => (true, put (s.looked a) (if s.isAt g a then .finished else .untilStop))
        | _ => (true, s)
      else if isZero then (false, s)
      else if s.isAt g first then enter s
      else (false, s.looked first)
    | .upTo n =>
      if s.number < n then (true, s)
      else
        let isPast := s.number > n
        let closed := put s .inactive
        if isPast then
          if s.isAt g first then enter closed else (false, closed)
        else (true, closed)
    | .untilStop =>
      match stop with
      | .at a =>
        (true, put (s.looked a) (if s.isAt g a then
          if isZero then .finished else .inactive else .untilStop))
      | _ => (true, s)

/-! ### Substitution -/

/-- A text with its letters changed, given how all letters and the next one are changed. -/
def cased (all : Casing) (next : Option Casing) (t : Text) : Text :=
  let whole := match all with
    | .upper => t.map Char.toUpper
    | .lower => t.map Char.toLower
    | _ => t
  match next, whole with
  | some .upperNext, c :: rest => c.toUpper :: rest
  | some .lowerNext, c :: rest => c.toLower :: rest
  | _, u => u

/-- The text of a replacement. -/
def replaced (parts : List Part) (whole : Text) (captures : Captures) : Text :=
  let step (done : List Text × Casing × Option Casing) (part : Part) :
      List Text × Casing × Option Casing :=
    let (texts, all, next) := done
    let add (t : Text) : List Text × Casing × Option Casing :=
      if t.isEmpty then done else (cased all next t :: texts, all, none)
    match part with
    | .text t => add t
    | .group 0 => add whole
    | .group n => add ((captures.lookup n).getD [])
    | .casing .upperNext => (texts, all, some .upperNext)
    | .casing .lowerNext => (texts, all, some .lowerNext)
    | .casing c => (texts, c, none)
  (parts.foldl step ([], .plain, none)).1.reverse.flatten

/-- The text with matches replaced, put behind what is known in reverse, and whether there were
any.  An empty match directly behind another one does not count. -/
def substituteFrom (f : Pattern) (s : Substitution) (needsGroups : Bool) (done : List Text)
    (any : Bool) (count : Nat) (lastStop : Option Nat) : Nat → Cursor → List Text × Bool
  | 0, p => (p.rest :: done, any)
  | fuel + 1, p =>
    match f.find? p needsGroups with
    | none => (p.rest :: done, any)
    | some found =>
      let before := p.upTo found.start
      let start := p.skip (found.start - p.index)
      let whole := start.upTo found.stop.index
      let isEmpty := found.stop.index = found.start
      if isEmpty && lastStop = some found.start then
        match start.rest with
        | [] => (before :: done, any)
        | c :: _ =>
          substituteFrom f s needsGroups ([c] :: before :: done) any count none fuel start.next
      else
        let count := count + 1
        let wanted := count ≥ s.nth
        let piece := if wanted then replaced s.parts whole found.captures else whole
        let done := piece :: before :: done
        let any := any || wanted
        if wanted && !s.all then (found.stop.rest :: done, any)
        else if isEmpty then
          match found.stop.rest with
          | [] => (done, any)
          | c :: _ =>
            substituteFrom f s needsGroups ([c] :: done) any count none fuel found.stop.next
        else
          substituteFrom f s needsGroups done any count (some found.stop.index) fuel found.stop

/-- The effect of a substitution. -/
def substitute (s : Space) (g : Setting) (sub : Substitution) : Space :=
  let s := s.use sub.pattern
  match s.lastPattern with
  | none => s
  | some f =>
    let needsGroups := sub.parts.any fun
      | .group n => n > 0
      | _ => false
    let (pieces, any) := substituteFrom f sub needsGroups [] false 0 none
      (s.pattern.length + 2) (.start s.pattern)
    if any then
      let s := { s with pattern := pieces.reverse.flatten, changed := true }
      let s := (List.range sub.prints).foldl (fun s _ => s.put g s.pattern) s
      match sub.file with
      | some name => s.writeTo g name s.pattern
      | none => s
    else s

/-! ### Commands -/

/-- A character as `l` shows it. -/
def shownChar (c : Char) : Text :=
  match c with
  | '\\' => ['\\', '\\']
  | '\x07' => ['\\', 'a']
  | '\x08' => ['\\', 'b']
  | '\x0c' => ['\\', 'f']
  | '\n' => ['\\', 'n']
  | '\x0d' => ['\\', 'r']
  | '\t' => ['\\', 't']
  | '\x0b' => ['\\', 'v']
  | _ =>
    if 32 ≤ c.toNat && c.toNat < 127 then [c]
    else '\\' :: padLeft 3 '0' (Nat.toDigits 8 c.toNat)

/-- A text as `l` shows it, broken at a width unless that is at most one. -/
def shownText (width : Nat) (t : Text) : Text :=
  let step (done : List Text × Nat) (c : Char) : List Text × Nat :=
    let u := shownChar c
    if width > 1 && done.2 + u.length > width - 1 then (u :: ['\\', '\n'] :: done.1, u.length)
    else (u :: done.1, done.2 + u.length)
  (t.foldl step ([], 0)).1.reverse.flatten ++ ['$', '\n']

/-- The first line of the pattern space. -/
def firstLine (s : Space) : Text :=
  s.pattern.takeWhile (· != '\n')

/-- The place of a label, or the end of the script. -/
def placeOf (g : Setting) (name : Text) : After :=
  if name.isEmpty then .endCycle
  else
    match g.script.findIdx? fun c =>
        match c.action with
        | .label n => n == name
        | _ => false with
    | some place => .go place
    | none => .endCycle

/-- Whether the range of a command goes on behind the current line. -/
def rangeGoesOn (s : Space) (place : Nat) : Bool :=
  match s.ranges[place]?.getD .inactive with
  | .upTo _ => true
  | .untilStop => true
  | _ => false

/-- The effect of a command at a place, which is for the current line. -/
def act (s : Space) (g : Setting) (place : Nat) (c : Command) : Space × After :=
  let on (s : Space) : Space × After := (s, .go (place + 1))
  match c.action with
  | .block _ => on s
  | .close => on s
  | .label _ => on s
  | .jump .always name => (s, placeOf g name)
  | .jump .changed name =>
    if s.changed then ({ s with changed := false }, placeOf g name) else on s
  | .jump .unchanged name =>
    if s.changed then on { s with changed := false } else (s, placeOf g name)
  | .append t => on { s with queue := .text t :: s.queue }
  | .insert t => on (s.putRaw g t)
  | .change t =>
    let waits := match c.lines with
      | .range _ _ => !c.negated && s.rangeGoesOn place
      | _ => false
    (if waits then s else s.putRaw g t, .endSilently)
  | .delete => (s, .endSilently)
  | .deleteFirst =>
    if s.pattern.any (· == '\n') then
      ({ s with pattern := (s.pattern.dropWhile (· != '\n')).drop 1 }, .restart)
    else (s, .endSilently)
  | .print => on (s.put g s.pattern)
  | .printFirst => on { s with out := s.out.line g.stop true s.firstLine }
  | .get => on { s with pattern := s.hold }
  | .getMore => on { s with pattern := s.pattern ++ '\n' :: s.hold }
  | .hold => on { s with hold := s.pattern }
  | .holdMore => on { s with hold := s.hold ++ '\n' :: s.pattern }
  | .exchange => on { s with pattern := s.hold, hold := s.pattern }
  | .next =>
    if s.input.isEmpty then ({ s with exit := some 0 }, .endCycle)
    else
      let printed := if g.silent then s else s.put g s.pattern
      match (printed.flush g).advance with
      | some (l, s) => on { s with pattern := l.text }
      | none => (s, .endCycle)
  | .nextMore =>
    if s.input.isEmpty then ({ s with exit := some 0 }, .endCycle)
    else
      let before := s.pattern
      match (s.flush g).advance with
      | some (l, s) => on { s with pattern := before ++ '\n' :: l.text }
      | none => (s, .endCycle)
  | .list width => on (s.putRaw g (shownText (width.getD 70) s.pattern))
  | .number => on (s.putRaw g (ofNat s.number ++ ['\n']))
  | .quit code => ({ s with exit := some code }, .endCycle)
  | .quitSilently code => ({ s with exit := some code }, .endSilently)
  | .readFile name => on { s with queue := .file name :: s.queue }
  | .readLine name =>
    let lines := (s.readers.lookup name).getD (splitLines ((g.contents name).getD []))
    let readers := (name, lines.drop 1) :: s.readers.filter fun r => r.1 != name
    match lines with
    | [] => on s
    | l :: _ => on { s with queue := .line l :: s.queue, readers := readers }
  | .writeFile name => on (s.writeTo g name s.pattern)
  | .writeFirst name => on (s.writeTo g name s.firstLine)
  | .substitute sub => on (s.substitute g sub)
  | .translate pairs =>
    on { s with pattern := s.pattern.map fun d => (pairs.lookup d).getD d }
  | .fileName => on (s.putRaw g (s.origin ++ ['\n']))
  | .clear => on { s with pattern := [] }

/-- The effect of the command at a place. -/
def step (s : Space) (g : Setting) (place : Nat) : Space × After :=
  match g.script[place]? with
  | none => (s, .endCycle)
  | some c =>
    let (selected, s) := s.selects g place c.lines
    if s.fault.isSome then ({ s with exit := some 1 }, .endSilently)
    else if selected != c.negated then
      let (s, after) := s.act g place c
      if s.fault.isSome then ({ s with exit := some 1 }, .endSilently) else (s, after)
    else
      match c.action with
      | .block stop => (s, .go stop)
      | _ => (s, .go (place + 1))

/-- The effect of the commands from a place on. -/
def cycle (g : Setting) : Nat → Space → Nat → Space × After
  | 0, s, _ => ({ s with exit := some 1 }, .endSilently)
  | fuel + 1, s, place =>
    match s.step g place with
    | (s, .go next) => cycle g fuel s next
    | ended => ended

/-- The effect of the script on all lines, one cycle after the other.  A cycle that is repeated
works on what is left in the pattern space. -/
def cycles (g : Setting) (fuel : Nat) : Nat → Bool → Space → Space
  | 0, _, s => s
  | rounds + 1, keeps, s =>
    let start := if keeps then some s else
      s.advance.map fun found => { found.2 with pattern := found.1.text, changed := false }
    match start with
    | none => s
    | some s =>
      let (s, after) := cycle g fuel s 0
      let printed := match after with
        | .endCycle => if g.silent then s else s.put g s.pattern
        | _ => s
      let s := printed.flush g
      if s.exit.isSome then s
      else
        match after with
        | .restart => cycles g fuel rounds true s
        | _ => cycles g fuel rounds false s

/-- The greatest number of commands in one cycle. -/
def budget : Nat := 10000000

/-- The state before the first line. -/
def start (script : Script) (input : List InputLine) : Space where
  origin := ['-']
  pattern := []
  hold := []
  number := 0
  ended := true
  atLast := false
  input := input
  queue := []
  changed := false
  ranges := Array.replicate script.size .inactive
  lastPattern := none
  out := ⟨[], false⟩
  files := (writtenFiles script).eraseDups.map fun name => (name, ⟨[], false⟩)
  readers := []
  exit := none
  fault := none

/-- The effect of a script on all lines. -/
def runAll (g : Setting) (input : List InputLine) : Space :=
  cycles g budget (budget) false (start g.script input)

end Space

/-- The lines of a file with a name. -/
def inputLines (name : Text) (stop : Char) (t : Text) : List InputLine :=
  let parts := t.splitOn stop
  let ended := parts.dropLast.map fun p => (⟨name, p, true, false⟩ : InputLine)
  let last := (parts.getLast?.filter fun p => !p.isEmpty).map fun p =>
    (⟨name, p, false, true⟩ : InputLine)
  match last, ended.reverse with
  | some l, _ => ended ++ [l]
  | none, l :: rest => (({ l with isLast := true } : InputLine) :: rest).reverse
  | none, [] => []

end Sed

namespace Tools

open Tool Text

/-- The options of `sed`. -/
def sedOptions : OptionSet :=
  ⟨"ne:f:Ersi::zul:b", [("quiet", 'n', .never), ("silent", 'n', .never),
    ("expression", 'e', .always), ("file", 'f', .always), ("regexp-extended", 'E', .never),
    ("separate", 's', .never), ("in-place", 'i', .attached), ("null-data", 'z', .never),
    ("zero-terminated", 'z', .never), ("unbuffered", 'u', .never), ("line-length", 'l', .always),
    ("posix", '1', .never), ("debug", '2', .never), ("sandbox", '3', .never)], true⟩

/-- How `sed` is used. -/
def sedUsage : Text :=
  ("Usage: sed [OPTION]... \x7bscript-only-if-no-other-script\x7d [input-file]...\n").toList

/-- A part of a script: what it is called in messages, and its text. -/
abbrev ScriptPart := Text × Text

/-- The parts of a script that options give. -/
def scriptParts (options : List GivenOption) : Tool (Except Text (List ScriptPart)) := do
  let wanted := options.filter fun o => o.1 == 'e' || o.1 == 'f'
  let (parts, _, fault) ← wanted.foldlM (fun (done : List ScriptPart × Nat × Option Text) o => do
    let (parts, n, fault) := done
    if o.1 = 'e' then
      return (("-e expression #".toList ++ ofNat n, o.2) :: parts, n + 1, fault)
    else
      match ← operand o.2 with
      | .ok t => return (("file ".toList ++ o.2, chomp t) :: parts, n, fault)
      | .error f =>
        return (parts, n, fault.orElse fun _ =>
          some ("couldn't open file ".toList ++ about o.2 f))) (([] : List ScriptPart), 1, none)
  match fault with
  | some message => return .error message
  | none => return .ok parts.reverse

/-- The wording of a problem: where it is in the parts of a script, and what it is. -/
def problemText (parts : List ScriptPart) (total : Nat) (problem : Sed.Problem) : Text :=
  let place := total - problem.left
  let rec locate (place : Nat) : List ScriptPart → Text × Nat
    | [] => ([], place)
    | [p] => (p.1, place)
    | p :: rest => if place ≤ p.2.length + 1 then (p.1, min place p.2.length) else
      locate (place - p.2.length - 1) rest
  let (name, n) := locate place parts
  if startsWith "file " name then
    name ++ " line 1: ".toList ++ problem.message
  else name ++ ", char ".toList ++ ofNat n ++ ": ".toList ++ problem.message

/-- Edit the contents of files one behind the other. -/
def sedRun (g : Sed.Setting) (names : List Text) : Tool Nat := do
  let (groups, code) ← names.foldlM (fun found name => do
    match ← operand name with
    | .ok t => return (Sed.inputLines name g.stop t :: found.1, found.2)
    | .error fault =>
      complain (if fault = .isADirectory then "read error on ".toList ++ about name fault
        else "can't read ".toList ++ about name fault)
      return (found.1, if fault = .isADirectory then 4 else 2))
    (([] : List (List Sed.InputLine)), 0)
  let lines := groups.reverse.flatten
  let s := Sed.Space.runAll g lines
  if s.exit.isSome && names = [['-']] then
    giveBack
      ((lines.take (lines.length - s.input.length)).foldl (fun n l => n + l.text.length + 1) 0)
      4096 (s.input.flatMap fun l => l.text ++ if l.ended then [g.stop] else [])
  say s.out.all
  s.files.forM fun f => do
    if f.1 = "/dev/stderr".toList then report f.2.all
    else
      let _ ← writeFile f.1 f.2.all
  match s.fault with
  | some message => fail ("-e expression #1, char 0: ".toList ++ message) 1
  | none => return (s.exit.filter (· > 0)).getD code

/-- Edit files and write them back. -/
def sedInPlace (g : Sed.Setting) (suffix : Text) (names : List Text) : Tool Nat :=
  names.foldlM (fun code name => do
    match ← contents name with
    | .error .isADirectory =>
      complain ("couldn't edit ".toList ++ name ++ ": not a regular file".toList)
      return 4
    | .error fault =>
      complain ("can't read ".toList ++ about name fault)
      return 2
    | .ok t =>
      let s := Sed.Space.runAll g (Sed.inputLines name g.stop t)
      let rest := s.input.flatMap fun l => l.text ++ if l.ended then [g.stop] else []
      if !suffix.isEmpty then
        let _ ← writeFile (name ++ suffix) t
      let _ ← writeFile name (s.out.all ++ rest)
      return (s.exit.filter (· > 0)).getD code) 0

/-- Edit files. -/
def sed : Tool Nat := do
  match sedOptions.read (← read).arguments with
  | .error fault =>
    complain fault.message
    report sedUsage
    return 1
  | .ok (options, operands) =>
    match ← scriptParts options with
    | .error message => fail message 4
    | .ok listed =>
      let own := if listed.isEmpty then
          (operands.head?.map fun t => ("-e expression #1".toList, t)).toList
        else listed
      let names := if listed.isEmpty then operands.drop 1 else operands
      if own.isEmpty then
        report sedUsage
        return 1
      else
        let source := unlines (own.map Prod.snd)
        let extended := given options 'E' || given options 'r'
        match Sed.read extended source with
        | .error problem => fail (problemText own source.length problem) 1
        | .ok script =>
          match Sed.missingLabel? script with
          | some name => fail ("can't find label for jump to \x60".toList ++ name ++ ['\'']) 4
          | none =>
            let files ← script.toList.filterMapM fun c => do
              match c.action with
              | .readFile name => return (← operand name).toOption.map fun t => (name, t)
              | .readLine name => return (← operand name).toOption.map fun t => (name, t)
              | _ => return none
            let inPlace := given options 'i'
            let g : Sed.Setting := ⟨script, given options 'n' || startsWith "#n\n" source,
              given options 's' || inPlace, if given options 'z' then '\x00' else '\n',
              fun name => files.lookup name⟩
            if inPlace then sedInPlace g ((valueOf? options 'i').getD []) names
            else sedRun g (if names.isEmpty then [['-']] else names)

end Tools

end ComponentFile
