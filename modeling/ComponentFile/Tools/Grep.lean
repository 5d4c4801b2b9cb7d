import ComponentFile.Regex.Reader
import ComponentFile.Regex.Search
import ComponentFile.Shell.Glob
import ComponentFile.Tools.Copy

/-!
# Searching lines

## Main definitions

* `Grep.Search` : what is searched for.
* `Grep.Search.first?` : the first match in a line.
* `Tools.grep` : the tool that prints lines with matches.
-/

namespace ComponentFile

open Text Tool

namespace Grep

/-- What is searched for: patterns, and whether a match has to be whole words or a whole line. -/
structure Search where
  patterns : List Pattern
  wholeWords : Bool
  wholeLine : Bool

/-- Whether a match between two places is one that is wanted. -/
def Search.accepts (s : Search) (p q : Cursor) : Bool :=
  (!s.wholeLine || (p.index = 0 && q.rest.isEmpty)) &&
    (!s.wholeWords ||
      (!Pattern.isWordChar p.before && !Pattern.isWordChar q.rest.head?))

/-- The place behind the longest match of a pattern that begins at a place. -/
def Search.endOf? (s : Search) (f : Pattern) (p : Cursor) : Option Cursor :=
  let stops := if f.regex.refers then (f.trails f.regex (p, [])).map Prod.fst
    else f.ends f.regex p
  stops.find? (s.accepts p)

/-- The place behind the longest match that begins at a place. -/
def Search.longest? (s : Search) (p : Cursor) : Option Cursor :=
  s.patterns.foldl (fun best f =>
    match best, s.endOf? f p with
    | some b, some q => if q.index > b.index then some q else some b
    | none, found => found
    | found, none => found) none

/-- The first match at a place or behind it, by the places at its two ends. -/
def Search.firstFrom? (s : Search) (p : Cursor) : Nat → Option (Cursor × Cursor)
  | 0 => none
  | fuel + 1 =>
    match s.longest? p with
    | some q => some (p, q)
    | none => if p.rest.isEmpty then none else s.firstFrom? p.next fuel

/-- The first match at a place or behind it. -/
def Search.first? (s : Search) (p : Cursor) : Option (Cursor × Cursor) :=
  s.firstFrom? p (p.rest.length + 1)

/-- All matches in a line that are not empty, with their places. -/
def Search.all (s : Search) : Nat → Cursor → List (Nat × Text)
  | 0, _ => []
  | fuel + 1, p =>
    match s.first? p with
    | none => []
    | some (a, b) =>
      if b.index > a.index then (a.index, a.upTo b.index) :: s.all fuel b
      else if b.rest.isEmpty then []
      else s.all fuel b.next

/-- The options of the tool. -/
def options : OptionSet :=
  ⟨"EFGPivcnlLoqswxhHrRabzUm:e:f:A:B:C:d:TZ0", [("null", 'Z', .never),
    ("label", '3', .always), ("include", '4', .always), ("exclude", '5', .always),
    ("no-group-separator", '6', .never), ("directories", 'd', .always),
    ("extended-regexp", 'E', .never),
    ("fixed-strings", 'F', .never), ("basic-regexp", 'G', .never), ("perl-regexp", 'P', .never),
    ("ignore-case", 'i', .never),
    ("invert-match", 'v', .never), ("count", 'c', .never), ("line-number", 'n', .never),
    ("files-with-matches", 'l', .never), ("files-without-match", 'L', .never),
    ("only-matching", 'o', .never), ("quiet", 'q', .never), ("silent", 'q', .never),
    ("no-messages", 's', .never), ("word-regexp", 'w', .never), ("line-regexp", 'x', .never),
    ("no-filename", 'h', .never), ("with-filename", 'H', .never), ("recursive", 'r', .never),
    ("text", 'a', .never), ("byte-offset", 'b', .never), ("null-data", 'z', .never),
    ("max-count", 'm', .always), ("regexp", 'e', .always), ("file", 'f', .always),
    ("after-context", 'A', .always), ("before-context", 'B', .always), ("context", 'C', .always),
    ("color", '1', .attached), ("colour", '1', .attached), ("line-buffered", '2', .never)], true⟩

/-- What happens to the lines of a file. -/
structure Plan where
  search : Search
  options : List GivenOption
  named : Bool
  limit : Option Nat
  before : Nat
  after : Nat

/-- What ends a line. -/
def Plan.stop (plan : Plan) : Char :=
  if given plan.options 'z' then '\x00' else '\n'

/-- A line without what ends it. -/
def Plan.bare (plan : Plan) (l : Text) : Text :=
  if l.getLast? = some plan.stop then l.dropLast else l

/-- Whether a line is selected. -/
def Plan.selects (plan : Plan) (line : Text) : Bool :=
  (plan.search.first? (.start line)).isSome != given plan.options 'v'

/-- A line with what is printed in front of it. -/
structure Row where
  number : Nat
  offset : Nat
  line : Text
  selected : Bool

/-- The rows of a file, up to the limit of selected ones, put behind those that are known in
reverse. -/
def Plan.rows (plan : Plan) (done : List Row) (limit : Option Nat) (number offset : Nat) :
    List Text → List Row
  | [] => done.reverse
  | l :: rest =>
    if limit = some 0 then
      if plan.after = 0 then done.reverse
      else
        plan.rows (⟨number, offset, plan.bare l, false⟩ :: done) limit (number + 1)
          (offset + l.length) rest
    else
      let selected := plan.selects (plan.bare l)
      plan.rows (⟨number, offset, plan.bare l, selected⟩ :: done)
        (if selected then limit.map (· - 1) else limit) (number + 1) (offset + l.length) rest

/-- What is printed in front of a line. -/
def Plan.label (plan : Plan) (name : Text) (row : Row) (mark : Char) : Text :=
  (if plan.named then name ++ [mark] else []) ++
    (if given plan.options 'n' then ofNat row.number ++ [mark] else []) ++
    if given plan.options 'b' then ofNat row.offset ++ [mark] else []

/-- The rows that are printed: selected ones, and those around them. -/
def Plan.shown (plan : Plan) (rows : List Row) : List Row :=
  if plan.before = 0 && plan.after = 0 then rows.filter Row.selected
  else
    let hits := (rows.filter Row.selected).map Row.number
    rows.filter fun row => hits.any fun n =>
      n ≤ row.number + plan.before && row.number ≤ n + plan.after

/-- The printed form of rows, with a line between those that do not follow each other. -/
def Plan.render (plan : Plan) (name : Text) (done : List Text) (last : Option Nat) :
    List Row → List Text
  | [] => done.reverse
  | row :: rest =>
    let hasContext := plan.before > 0 || plan.after > 0
    let gap : List Text :=
      if hasContext && !given plan.options '6' && last.any fun n => n + 1 < row.number then
        ["--\n".toList]
      else []
    let printed : List Text :=
      if given plan.options 'o' then
        if row.selected && !given plan.options 'v' then
          (plan.search.all (row.line.length + 1) (.start row.line)).map fun found =>
            plan.label name { row with offset := row.offset + found.1 } ':' ++ found.2 ++
              [plan.stop]
        else []
      else [plan.label name row (if row.selected then ':' else '-') ++ row.line ++ [plan.stop]]
    plan.render name (printed.reverse ++ gap ++ done) (some row.number) rest

/-- The parts of a text that are ended by null characters, each with the one that ends it. -/
def piecesEnded (t : Text) : List Text :=
  let parts := t.splitOn '\x00'
  parts.dropLast.map (· ++ ['\x00']) ++ (parts.getLast?.filter fun p => !p.isEmpty).toList

/-- Search the contents of a file; whether a line was selected. -/
def Plan.file (plan : Plan) (name t : Text) : Tool Bool := do
  let has := given plan.options
  let rows := plan.rows [] plan.limit 1 0 (if has 'z' then piecesEnded t else linesEnded t)
  let count := (rows.filter Row.selected).length
  let found := count > 0
  if has 'q' then return found
  else if has 'l' then
    if found then say (name ++ [if has 'Z' then '\x00' else '\n'])
    return found
  else if has 'L' then
    if !found then say (name ++ [if has 'Z' then '\x00' else '\n'])
    return found
  else if has 'c' then
    say ((if plan.named then name ++ [':'] else []) ++ ofNat count ++ ['\n'])
    return found
  else if t.any (· == '\x00') && !has 'a' && !has 'z' then
    if found then
      say ((← read).name ++ ": ".toList ++ name ++ ": binary file matches\n".toList)
    return found
  else
    say (plan.render name [] none (plan.shown rows)).flatten
    return found

/-- The patterns that lines are, each with the operators that have nothing before them. -/
def readPatterns (kind : Char) (ignoreCase : Bool) (ts : List Text) :
    Except Regex.Fault (List (Pattern × List Text)) :=
  ts.mapM fun line =>
    if kind = 'F' then .ok (⟨Regex.literal line, ignoreCase, false⟩, [])
    else
      let spelling : Regex.Spelling :=
        { extended := kind != 'G', escapes := kind == 'P', lenient := true, digits := kind == 'P' }
      (Regex.readNoting spelling line).map fun r => (⟨r.1, ignoreCase, false⟩, r.2)

/-- The files below a directory, by their paths. -/
def filesBelow (path : Text) : Tool (List Text) := do
  let tree ← tree
  match tree.follow (← read).place ⟨ofOctets path⟩ with
  | .error _ => return []
  | .ok place =>
    let found := tree.entries.entries.filterMap fun
      | (q, .file _ _) =>
        if place.isPrefixOf q then
          some (['/'].intercalate ((q.drop place.length).map fun n => octets n.text))
        else none
      | _ => none
    return (found.mergeSort fun a b => Text.le a b).map fun t => path ++ '/' :: t

/-- Whether a file is one of those that are searched below a directory. -/
def Plan.includes (plan : Plan) (path : Text) : Bool :=
  let name := (path.splitOn '/').getLast?.getD []
  let fits (letter : Char) : List Bool :=
    (plan.options.filter fun o => o.1 == letter).map fun o =>
      (Shell.Glob.ofMarked { dialect := .plain } (o.2.map fun c => (c, false))).isMatch name
  let wanted := fits '4'
  (wanted.isEmpty || wanted.any id) && !(fits '5').any id

/-- Search all files that operands name, with a code as if each of them had to be searched. -/
def run (plan : Plan) (operands : List Text) : Tool Nat := do
  let has := given plan.options
  let (found, failed) ← operands.foldlM (fun (done : Bool × Bool) name => do
    if done.1 && has 'q' then return done
    match ← operand name with
    | .ok t =>
      let shown := if name = ['-'] then
          (valueOf? plan.options '3').getD "(standard input)".toList
        else name
      return ((← plan.file shown t) || done.1, done.2)
    | .error fault =>
      if fault = .isADirectory && (has 'r' || has 'R') then
        let files := (← filesBelow name).filter plan.includes
        let foundBelow ← files.foldlM (fun b file => do
          match ← contents file with
          | .ok t => return (← plan.file file t) || b
          | .error _ => return b) false
        return (foundBelow || done.1, done.2)
      else
        let skips := fault = .isADirectory &&
          (valueOf? plan.options 'd').any fun t => t = "skip".toList
        if skips then return done
        if !has 's' then complain (about name fault)
        return (done.1, true)) (false, false)
  return if failed && !(found && has 'q') then 2 else if found then 0 else 1

/-- Say how the tool is used. -/
def usage : Tool Nat := do
  report "Usage: grep [OPTION]... PATTERNS [FILE]...\n".toList
  suggestHelp
  return 2

end Grep

/-- Print the lines that match patterns, which are written in the given way unless an option says
otherwise. -/
def Tools.grep (kind : Char) : Tool Nat := do
  match Grep.options.read (← read).arguments with
  | .error fault =>
    complain fault.message
    Grep.usage
  | .ok (options, operands) =>
    let asked := (options.filter fun o => o.1 == 'e').map Prod.snd
    let files := (options.filter fun o => o.1 == 'f').map Prod.snd
    let fromFiles ← files.mapM fun name => do
      match ← operand name with
      | .ok t => return Except.ok (if t.isEmpty then [] else (chomp t).splitOn '\n')
      | .error fault => return Except.error (about name fault)
    match fromFiles.mapM id with
    | .error message => fail message 2
    | .ok listed =>
      let isGiven := !(asked.isEmpty && files.isEmpty)
      let explicit := asked.flatMap (fun t => t.splitOn '\n') ++ listed.flatten
      match if isGiven then some explicit else operands.head?.map fun t => t.splitOn '\n' with
      | none =>
        Grep.usage
      | some source =>
        let operands := if isGiven then operands else operands.drop 1
        let kind := ((options.filter fun o => ['E', 'F', 'G', 'P'].contains o.1).getLast?.map
          Prod.fst).getD kind
        match Grep.readPatterns kind (given options 'i') source with
        | .error fault => fail fault.message.toList 2
        | .ok found =>
          let patterns := found.map Prod.fst
          (found.flatMap Prod.snd).forM fun sign =>
            complain ("warning: ".toList ++ sign ++ " at start of expression".toList)
          let badLength := options.find? fun o =>
            ['A', 'B', 'C'].contains o.1 && (nat? o.2).isNone
          let badCount := options.find? fun o => o.1 == 'm' && (int? o.2).isNone
          match badLength, badCount with
          | some o, _ => fail (o.2 ++ ": invalid context length argument".toList) 2
          | _, some _ => fail "invalid max count".toList 2
          | none, none =>
            let number (letter : Char) : Option Nat := (valueOf? options letter).bind nat?
            let recursive := given options 'r' || given options 'R'
            let operands := if operands.isEmpty then if recursive then [['.']] else [['-']]
              else operands
            let context := (number 'C').getD 0
            let plan : Grep.Plan := ⟨⟨patterns, given options 'w', given options 'x'⟩, options,
              (operands.length > 1 || given options 'H' || recursive) && !given options 'h',
              number 'm', (number 'B').getD context, (number 'A').getD context⟩
            Grep.run plan operands

end ComponentFile
