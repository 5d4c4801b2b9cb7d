import ComponentFile.Text.Changes
import ComponentFile.Tools.Files

/-!
# Differences between files

## Main definitions

* `Difference.Manner` : how differences are written.
* `Difference.plainText`, `Difference.unifiedText`, `Difference.contextText` : changes in writing.
* `Tools.diff` : the tool that compares files.
-/

namespace ComponentFile

open Text Tool Tools

namespace Difference

/-- How differences are written: change by change, together with the lines around them, or only that
there are some. -/
inductive Manner where
  | plain
  | unified (context : Nat)
  | around (context : Nat)
  | brief

/-- The number of lines that are shown around changes. -/
def Manner.context : Manner → Nat
  | unified n => n
  | around n => n
  | _ => 0

/-- A line as it is compared. -/
def key (has : Char → Bool) (line : Text) : Text :=
  let line := if has 'i' then lower line else line
  if has 'w' then line.filter fun c => !isWhite c
  else if has 'b' then
    let ended := (line.reverse.dropWhile isWhite).reverse
    (ended.foldl (fun (done : Text) c =>
      if isWhite c then (if done.head? = some ' ' then done else ' ' :: done) else c :: done)
      []).reverse
  else if has 'Z' then (line.reverse.dropWhile isWhite).reverse
  else line

/-- A line behind a mark, with a note if it has no end. -/
def marked (mark : String) (line : Text) : Text :=
  if line.getLast? = some '\n' then mark.toList ++ line
  else mark.toList ++ line ++ "\n\\ No newline at end of file\n".toList

/-- Some of the lines of a list. -/
def slice (lines : List Text) (start count : Nat) : List Text :=
  (lines.drop start).take count

/-! ### Change by change -/

/-- The numbers of some lines behind `before` others. -/
def range (before count : Nat) : Text :=
  if count ≤ 1 then ofNat (before + count) else
    ofNat (before + 1) ++ ',' :: ofNat (before + count)

/-- A change in writing. -/
def changeText (left right : List Text) (c : Change) : Text :=
  let letter := if c.deleted = 0 then 'a' else if c.inserted = 0 then 'd' else 'c'
  range c.left c.deleted ++ letter :: range c.right c.inserted ++ '\n' ::
    (slice left c.left c.deleted).flatMap (marked "< ") ++
    (if letter = 'c' then "---\n".toList else []) ++
    (slice right c.right c.inserted).flatMap (marked "> ")

/-- Changes in writing. -/
def plainText (left right : List Text) (changes : List Change) : Text :=
  changes.flatMap (changeText left right)

/-! ### Together with the lines around -/

/-- Changes in groups whose lines around them would touch. -/
def groups (context : Nat) (group : List Change) : List Change → List (List Change)
  | [] => if group.isEmpty then [] else [group.reverse]
  | c :: rest =>
    match group with
    | [] => groups context [c] rest
    | last :: _ =>
      if c.left ≤ last.left + last.deleted + 2 * context then groups context (c :: group) rest
      else group.reverse :: groups context [c] rest

/-- A group of changes with the lines around them: the numbers of lines before and in it. -/
structure Hunk where
  changes : List Change
  left : Nat
  leftCount : Nat
  right : Nat
  rightCount : Nat

/-- The hunk of a group of changes. -/
def Hunk.ofChanges (context leftSize rightSize : Nat) (changes : List Change) : Hunk :=
  match changes.head?, changes.getLast? with
  | some first, some last =>
    let left := first.left - context
    let right := first.right - context
    let leftEnd := min leftSize (last.left + last.deleted + context)
    let rightEnd := min rightSize (last.right + last.inserted + context)
    ⟨changes, left, leftEnd - left, right, rightEnd - right⟩
  | _, _ => ⟨[], 0, 0, 0, 0⟩

/-- The hunks of changes. -/
def hunks (context : Nat) (left right : List Text) (changes : List Change) : List Hunk :=
  (groups context [] changes).map (Hunk.ofChanges context left.length right.length)

/-- The numbers of the lines of a hunk as a first number and a count. -/
def counted (before count : Nat) : Text :=
  match count with
  | 0 => ofNat before ++ ",0".toList
  | 1 => ofNat (before + 1)
  | n => ofNat (before + 1) ++ ',' :: ofNat n

/-- The lines of a hunk from a line on, with those that are changed. -/
def bodyText (left right : List Text) (stop : Nat) : Nat → List Change → Text
  | i, [] => (slice left i (stop - i)).flatMap (marked " ")
  | i, c :: rest =>
    (slice left i (c.left - i)).flatMap (marked " ") ++
      (slice left c.left c.deleted).flatMap (marked "-") ++
      (slice right c.right c.inserted).flatMap (marked "+") ++
      bodyText left right stop (c.left + c.deleted) rest

/-- Changes in writing, each with the lines around it once. -/
def unifiedText (context : Nat) (left right : List Text) (changes : List Change) : Text :=
  (hunks context left right changes).flatMap fun h =>
    "@@ -".toList ++ counted h.left h.leftCount ++ " +".toList ++ counted h.right h.rightCount ++
      " @@\n".toList ++ bodyText left right (h.left + h.leftCount) h.left h.changes

/-- The numbers of the first and the last line of a hunk. -/
def spanned (before count : Nat) : Text :=
  if count ≤ 1 then ofNat (before + count)
  else ofNat (before + 1) ++ ',' :: ofNat (before + count)

/-- The lines of one side of a hunk from a line on. -/
def sideText (lines : List Text) (mark : String) (stop : Nat) :
    Nat → List (Nat × Nat × Bool) → Text
  | i, [] => (slice lines i (stop - i)).flatMap (marked "  ")
  | i, (start, count, both) :: rest =>
    (slice lines i (start - i)).flatMap (marked "  ") ++
      (slice lines start count).flatMap (marked (if both then "! " else mark)) ++
      sideText lines mark stop (start + count) rest

/-- Changes in writing, with the lines around them on both sides. -/
def contextText (context : Nat) (left right : List Text) (changes : List Change) : Text :=
  (hunks context left right changes).flatMap fun h =>
    let isBoth (c : Change) : Bool := c.deleted > 0 && c.inserted > 0
    let leftParts := h.changes.map fun c => (c.left, c.deleted, isBoth c)
    let rightParts := h.changes.map fun c => (c.right, c.inserted, isBoth c)
    "***************\n*** ".toList ++ spanned h.left h.leftCount ++ " ****\n".toList ++
      (if h.changes.any fun c => c.deleted > 0 then
        sideText left "- " (h.left + h.leftCount) h.left leftParts else []) ++
      "--- ".toList ++ spanned h.right h.rightCount ++ " ----\n".toList ++
      (if h.changes.any fun c => c.inserted > 0 then
        sideText right "+ " (h.right + h.rightCount) h.right rightParts else [])

/-- How options ask for differences to be written. -/
def mannerOf (options : List GivenOption) : Manner :=
  let context (letter : Char) : Option Nat := (valueOf? options letter).map fun t =>
    (nat? t).getD 3
  if given options 'q' then .brief
  else if given options 'u' then .unified 3
  else match context 'U', given options 'c', context 'C' with
    | some n, _, _ => .unified n
    | none, true, _ => .around 3
    | none, false, some n => .around n
    | none, false, none => .plain

/-- The options of `diff`. -/
def optionSet : OptionSet :=
  ⟨"abBcC:iqrNsuU:wZL:tT", [("brief", 'q', .never), ("report-identical-files", 's', .never),
    ("ignore-case", 'i', .never), ("ignore-all-space", 'w', .never),
    ("ignore-space-change", 'b', .never), ("ignore-trailing-space", 'Z', .never),
    ("ignore-blank-lines", 'B', .never), ("unified", 'U', .attached), ("context", 'C', .attached),
    ("label", 'L', .always), ("text", 'a', .never), ("new-file", 'N', .never),
    ("recursive", 'r', .never), ("normal", '1', .never), ("color", '2', .attached),
    ("strip-trailing-cr", 'S', .never)], true⟩

/-- Compare the contents of two files.  `title` stands before differences. -/
def compareContents (options : List GivenOption) (title a b s t : Text) : Tool Nat := do
  let has := given options
  let ended (t : Text) : List Text := (linesEnded t).map fun line =>
    if has 'S' && ['\n', '\r'].isPrefixOf line.reverse then
      (line.take (line.length - 2)) ++ ['\n'] else line
  let manner := mannerOf options
  let left := ended s
  let right := ended t
  let changes := Changes.between (key has) manner.context left right
  let isBlank (c : Change) : Bool :=
    (slice left c.left c.deleted).all (· == ['\n']) &&
      (slice right c.right c.inserted).all (· == ['\n'])
  let changes := if has 'B' then changes.filter fun c => !isBlank c else changes
  let labels := (options.filter fun o => o.1 = 'L').map (·.2)
  let files := "iles ".toList ++ labels[0]?.getD a ++ " and ".toList ++ labels[1]?.getD b
  if changes.isEmpty then
    if has 's' then say ('F' :: files ++ " are identical\n".toList)
    return 0
  else
    let stamp := "\t1970-01-01 00:00:00.000000000 +0000".toList
    let label (i : Nat) (path : Text) : Text := labels[i]?.getD (path ++ stamp)
    let heading (first second : String) : Text :=
      title ++ first.toList ++ label 0 a ++ '\n' :: second.toList ++ label 1 b ++ ['\n']
    if (s ++ t).any (· == '\x00') && !has 'a' then
      say ("Binary f".toList ++ files ++ " differ\n".toList)
    else
      match manner with
      | .brief => say ('F' :: files ++ " differ\n".toList)
      | .plain => say (title ++ plainText left right changes)
      | .unified n => say (heading "--- " "+++ " ++ unifiedText n left right changes)
      | .around n => say (heading "*** " "--- " ++ contextText n left right changes)
    return 1

/-- Compare two files, or all the files in two directories, of which at most `depth` lie in one
another. -/
def compareFiles (options : List GivenOption) (title : Text → Text → Text) :
    Nat → Text → Text → Tool Nat
  | 0, _, _ => return 2
  | depth + 1, a, b => do
    let has := given options
    let tree ← tree
    let cwd := (← read).place
    let isDirectory (path : Text) : Bool := path != ['-'] && tree.isDirectory cwd (pathOf path)
    if isDirectory a && isDirectory b then
      let namesIn (path : Text) : List Text :=
        match tree.follow cwd (pathOf path) with
        | .ok place => (tree.namesIn place).map fun n => octets n.text
        | .error _ => []
      let left := namesIn a
      let right := namesIn b
      let names := (left ++ right.filter fun n => !left.any (· == n)).mergeSort Text.le
      names.foldlM (fun code name => do
        let below (path : Text) : Text := withoutSlashes path ++ '/' :: name
        let inLeft := left.any (· == name)
        let inRight := right.any (· == name)
        if has 'N' || (inLeft && inRight) then
          match isDirectory (below a), isDirectory (below b) with
          | true, true =>
            if has 'r' then
              return max code (← compareFiles options title depth (below a) (below b))
            else
              say ("Common subdirectories: ".toList ++ below a ++ " and ".toList ++ below b ++
                ['\n'])
              return code
          | false, false =>
            return max code (← compareFiles options title depth (below a) (below b))
          | isLeft, _ =>
            let kind (b : Bool) : Text := (if b then "directory" else "regular file").toList
            say ("File ".toList ++ below a ++ " is a ".toList ++ kind isLeft ++
              " while file ".toList ++ below b ++ " is a ".toList ++ kind (!isLeft) ++ ['\n'])
            return max code 1
        else
          say ("Only in ".toList ++ (if inLeft then a else b) ++ ": ".toList ++ name ++ ['\n'])
          return max code 1) 0
    else
      let found (path : Text) : Tool (Except Fault Text) := do
        match ← operand path with
        | .error .notFound => return if has 'N' then .ok [] else .error .notFound
        | result => return result
      let inside (directory file : Text) : Text :=
        if isDirectory directory && file != ['-'] then
          withoutSlashes directory ++ '/' :: lastPart file else directory
      let (a, b) := (inside a b, inside b a)
      match ← found a, ← found b with
      | .error fault, .ok _ => fail (about a fault) 2
      | .ok _, .error fault => fail (about b fault) 2
      | .error fault, .error other =>
        complain (about a fault)
        fail (about b other) 2
      | .ok s, .ok t => compareContents options (title a b) a b s t

/-- Say what is wrong with the arguments. -/
def advise (message : Text) : Tool Nat := do
  complain message
  let name := (← read).name
  fail ("Try '".toList ++ name ++ " --help' for more information.".toList) 2

end Difference

/-- Compare two files line by line. -/
def Tools.diff : Tool Nat := do
  let job ← read
  match Difference.optionSet.read job.arguments with
  | .error fault => Difference.advise fault.message
  | .ok (options, operands) =>
    match operands with
    | [] => Difference.advise "missing operand after 'diff'".toList
    | [one] => Difference.advise ("missing operand after ".toList ++ quotedPlain one)
    | _ :: _ :: extra :: _ => Difference.advise ("extra operand ".toList ++ quotedPlain extra)
    | [a, b] =>
      let tree ← tree
      let areDirectories := [a, b].all fun path => tree.isDirectory job.place (pathOf path)
      let switches := job.arguments.filter fun w => w.head? = some '-' && w != ['-']
      let title (a b : Text) : Text :=
        if areDirectories then
          spacedWords (["diff".toList] ++ switches ++ [a, b]) ++ ['\n']
        else []
      Difference.compareFiles options title 200 a b

end ComponentFile
