import ComponentFile.Decimal.Layout
import ComponentFile.Tools.Copy

/-!
# Tools for sorted lines

## Main definitions

* `Tools.SortKey`, `Tools.compareKeys` : the parts of lines that are compared, and their order.
* `Tools.sort`, `Tools.uniq`, `Tools.comm` : sorting, and comparing sorted lines.
-/

namespace ComponentFile.Tools

open Text Tool

/-! ### Keys -/

/-- How keys are compared: as numbers, without blanks at the front, without characters that do not
count, in upper case, and turned around. -/
structure KeyOrder where
  kind : Option Char
  skipsBlanks : Bool
  skipsBlanksAtEnd : Bool
  dictionary : Bool
  printable : Bool
  folds : Bool
  reverse : Bool
  deriving DecidableEq, Repr

/-- The order that no option has changed. -/
def KeyOrder.plain : KeyOrder := ⟨none, false, false, false, false, false, false⟩

/-- The order after one more option letter. -/
def KeyOrder.option (o : KeyOrder) (atEnd : Bool) (c : Char) : KeyOrder :=
  match c with
  | 'b' => if atEnd then { o with skipsBlanksAtEnd := true } else { o with skipsBlanks := true }
  | 'd' => { o with dictionary := true }
  | 'f' => { o with folds := true }
  | 'i' => { o with printable := true }
  | 'r' => { o with reverse := true }
  | _ => if ['n', 'g', 'h', 'M', 'V'].contains c then { o with kind := some c } else o

/-- A part of a line: the fields and characters to skip before it, the fields and characters up
to its end, and its order. -/
structure SortKey where
  startField : Nat
  startChar : Nat
  stop : Option (Nat × Nat)
  order : KeyOrder

/-- The number at the front of a text, and the text behind it. -/
def readCount (t : Text) : Option (Nat × Text) :=
  let digits := t.takeWhile Char.isDigit
  (nat? digits).map fun n => (n, t.drop digits.length)

/-- A field, a character in it if one is given, option letters, and the text behind them. -/
def readPlace (atEnd : Bool) (order : KeyOrder) (t : Text) :
    Option (Nat × Nat × KeyOrder × Text) := do
  let (field, t) ← readCount t
  let (char, t) ← match t with
    | '.' :: u => readCount u
    | _ => some (if atEnd then 0 else 1, t)
  let letters := t.takeWhile Char.isAlpha
  return (field, char, letters.foldl (fun o c => o.option atEnd c) order, t.drop letters.length)

/-- The key that a text stands for. -/
def sortKey? (t : Text) : Option SortKey := do
  let (field, char, order, t) ← readPlace false .plain t
  if field = 0 || char = 0 then none
  else
    match t with
    | [] => return ⟨field - 1, char - 1, none, order⟩
    | ',' :: u =>
      let (stop, stopChar, order, rest) ← readPlace true order u
      if stop = 0 || !rest.isEmpty then none
      else return ⟨field - 1, char - 1, some (stop - 1, stopChar), order⟩
    | _ => none

/-- The text behind fields, which end at a separator or are runs of blanks and what follows. -/
def skipFields (separator : Option Char) : Nat → Text → Text
  | 0, t => t
  | n + 1, t =>
    match separator with
    | some c => skipFields separator n ((t.dropWhile (· != c)).drop 1)
    | none =>
      skipFields separator n ((t.dropWhile isGap).dropWhile fun d => !isGap d)

/-- The text behind the end of a key: `fields` whole fields and `chars` characters of the next. -/
def keyEnd (separator : Option Char) (skipsBlanks : Bool) (fields chars : Nat) (t : Text) : Text :=
  if chars > 0 then
    let rest := skipFields separator fields t
    (if skipsBlanks then rest.dropWhile isGap else rest).drop chars
  else
    match separator with
    | some c => (skipFields separator fields t).dropWhile (· != c)
    | none => skipFields separator (fields + 1) t

/-- The part of a line that a key stands for. -/
def SortKey.part (key : SortKey) (separator : Option Char) (line : Text) : Text :=
  let start := skipFields separator key.startField line
  let start := (if key.order.skipsBlanks then start.dropWhile isGap else start).drop key.startChar
  match key.stop with
  | none => start
  | some (fields, chars) =>
    let behind := keyEnd separator key.order.skipsBlanksAtEnd fields chars line
    start.take (start.length - behind.length)

/-! ### Order -/

/-- The order of texts, in which the first characters that differ decide. -/
def compareTexts : Text → Text → Ordering
  | [], [] => .eq
  | [], _ :: _ => .lt
  | _ :: _, [] => .gt
  | a :: s, b :: t => if a = b then compareTexts s t else compare a.toNat b.toNat

/-- The number at the front of a text as a quotient; zero if there is none. -/
def leadingNumber (t : Text) : Int × Nat :=
  let t := t.dropWhile isGap
  let (negative, t) := match t with
    | '-' :: u => (true, u)
    | u => (false, u)
  let whole := t.takeWhile Char.isDigit
  let fraction := match t.drop whole.length with
    | '.' :: u => u.takeWhile Char.isDigit
    | _ => []
  let n : Int := (nat? (whole ++ fraction)).getD 0
  (if negative then -n else n, Nat.pow 10 fraction.length)

/-- The order of two quotients. -/
def compareQuotients (a b : Int × Nat) : Ordering :=
  compare (a.1 * b.2) (b.1 * a.2)

/-- The rank of the unit behind a number such as `2K`. -/
def unitRank (t : Text) : Nat :=
  let behind := (t.dropWhile isGap).dropWhile fun c => c.isDigit || c == '.' || c == '-'
  match behind.head? with
  | some c => (("KMGTPEZY".toList.idxOf? c.toUpper).map (· + 1)).getD 0
  | none => 0

/-- The place of a month in the year, by the first letters of its name. -/
def monthRank (t : Text) : Nat :=
  let name := ((t.dropWhile isGap).take 3).map Char.toUpper
  let names := ["JAN", "FEB", "MAR", "APR", "MAY", "JUN", "JUL", "AUG", "SEP", "OCT", "NOV",
    "DEC"].map String.toList
  ((names.idxOf? name).map (· + 1)).getD 0

/-- The rank of a character in versions: a tilde, then the end, then letters, then others. -/
def versionRank (c : Option Char) : Nat :=
  match c with
  | none => 1
  | some '~' => 0
  | some c => if c.isDigit then 1 else if c.isAlpha then c.toNat + 1 else c.toNat + 256

/-- The order of versions, in which runs of digits count as numbers. -/
def compareVersions : Nat → Text → Text → Ordering
  | 0, _, _ => .eq
  | fuel + 1, s, t =>
    let a := s.takeWhile fun c => !c.isDigit
    let b := t.takeWhile fun c => !c.isDigit
    let ranks (u : Text) : List Nat := u.map fun c => versionRank (some c)
    let width := max a.length b.length + 1
    let padded (u : List Nat) : List Nat := u ++ List.replicate (width - u.length) 1
    match compare (padded (ranks a)) (padded (ranks b)) with
    | .eq =>
      let s := s.drop a.length
      let t := t.drop b.length
      if s.isEmpty && t.isEmpty then .eq
      else
        match compare (leadingNat s) (leadingNat t) with
        | .eq => compareVersions fuel (s.dropWhile Char.isDigit) (t.dropWhile Char.isDigit)
        | o => o
    | o => o

/-- The order of general numbers, in which texts that are no numbers come first. -/
def compareGeneral (s t : Text) : Ordering :=
  let value (u : Text) : Nat × Int × Nat :=
    match Quantity.read (u.dropWhile isWhite) with
    | none => (0, 0, 1)
    | some (.undefined _, _) => (1, 0, 1)
    | some (.infinite negative, _) => (if negative then 2 else 4, 0, 1)
    | some (.finite negative num den, _) => (3, if negative then -(num : Int) else num, den)
  let (a, x) := value s
  let (b, y) := value t
  (compare a b).then (compareQuotients x y)

/-- The order of two parts of lines. -/
def KeyOrder.compare (o : KeyOrder) (s t : Text) : Ordering :=
  let found := match o.kind with
    | some 'n' => compareQuotients (leadingNumber s) (leadingNumber t)
    | some 'g' => compareGeneral s t
    | some 'h' =>
      (Ord.compare (unitRank s) (unitRank t)).then
        (compareQuotients (leadingNumber s) (leadingNumber t))
    | some 'M' => Ord.compare (monthRank s) (monthRank t)
    | some _ => compareVersions (s.length + t.length + 1) s t
    | none =>
      let kept (u : Text) : Text :=
        let u := if o.dictionary then u.filter fun c => c.isAlphanum || isGap c else u
        let u := if o.printable then u.filter fun c => 32 ≤ c.toNat && c.toNat < 127 else u
        if o.folds then u.map Char.toUpper else u
      compareTexts (kept s) (kept t)
  if o.reverse then found.swap else found

/-- The order of two lines by their keys. -/
def compareKeys (separator : Option Char) : List SortKey → Text → Text → Ordering
  | [], _, _ => .eq
  | key :: rest, s, t =>
    match key.order.compare (key.part separator s) (key.part separator t) with
    | .eq => compareKeys separator rest s t
    | o => o

/-! ### Sorting -/

/-- The options of `sort`. -/
def sortOptions : OptionSet :=
  ⟨"bcCdfghik:mMno:rRsS:t:T:uVyz", [("ignore-leading-blanks", 'b', .never),
    ("dictionary-order", 'd', .never), ("ignore-case", 'f', .never), ("key", 'k', .always),
    ("numeric-sort", 'n', .never), ("general-numeric-sort", 'g', .never),
    ("human-numeric-sort", 'h', .never), ("month-sort", 'M', .never),
    ("version-sort", 'V', .never), ("output", 'o', .always), ("reverse", 'r', .never),
    ("stable", 's', .never), ("field-separator", 't', .always), ("unique", 'u', .never),
    ("check", 'c', .attached), ("merge", 'm', .never), ("ignore-nonprinting", 'i', .never)], true⟩

/-- The first line that is out of order, with its number. -/
def firstDisorder? (isBad : Text → Text → Bool) (n : Nat) : List Text → Option (Nat × Text)
  | a :: b :: rest =>
    if isBad a b then some (n + 1, b) else firstDisorder? isBad (n + 1) (b :: rest)
  | _ => none

/-- The lines without those that are equal to the one before. -/
def dropEqual (same : Text → Text → Bool) (done : List Text) : List Text → List Text
  | [] => done.reverse
  | l :: rest =>
    if done.head?.any fun d => same d l then dropEqual same done rest
    else dropEqual same (l :: done) rest

/-- Sort lines. -/
def sort : Tool Nat :=
  withOptions sortOptions 2 fun options operands => do
    let order := options.foldl (fun o g =>
      if g.1 = 'b' then (o.option false 'b').option true 'b' else o.option false g.1) .plain
    let specs := (options.filter fun o => o.1 == 'k').map Prod.snd
    match specs.find? fun t => (sortKey? t).isNone with
    | some bad => fail ("invalid number at field start: invalid count at start of ".toList ++
        quotedPlain bad) 2
    | none =>
      let inherit (key : SortKey) : SortKey :=
        if key.order = .plain then { key with order := order } else key
      let keys := (specs.filterMap sortKey?).map inherit
      let keys :=
        if keys.isEmpty && order ≠ .plain && order ≠ { KeyOrder.plain with reverse := true }
        then [⟨0, 0, none, order⟩] else keys
      let separator := (valueOf? options 't').bind List.head?
      let byKeys := compareKeys separator keys
      let whole (s t : Text) : Ordering :=
        if order.reverse then (compareTexts s t).swap else compareTexts s t
      let stable := given options 's' || given options 'u'
      let full (s t : Text) : Ordering :=
        if keys.isEmpty then whole s t
        else if stable then byKeys s t else (byKeys s t).then (whole s t)
      let files := if operands.isEmpty then [['-']] else operands
      let mut parts : List (List Text) := []
      for name in files do
        match ← operand name with
        | .ok t => parts := splitLines t :: parts
        | .error fault =>
          complain ((if fault = .isADirectory then "read failed: " else "cannot read: ").toList ++
            about name fault)
          return 2
      let lines := parts.reverse.flatten
      if given options 'c' || given options 'C' then
        let isBad (a b : Text) : Bool :=
          full a b == .gt || (given options 'u' && full a b == .eq)
        match firstDisorder? isBad 1 lines with
        | none => return 0
        | some (n, line) =>
          if given options 'c' then
            complain ((files.head?.getD []) ++ ':' :: ofNat n ++ ": disorder: ".toList ++ line)
          return 1
      else
        let sorted := lines.mergeSort fun a b => full a b != .gt
        let sorted := if given options 'u' then dropEqual (fun a b => full a b == .eq) [] sorted
          else sorted
        match valueOf? options 'o' with
        | none =>
          say (joinLines sorted)
          return 0
        | some name =>
          match ← writeFile name (joinLines sorted) with
          | .ok _ => return 0
          | .error fault => fail ("open failed: ".toList ++ about name fault) 2

/-- Runs of equal lines, each with its first line and its length. -/
def lineRuns (same : Text → Text → Bool) (done : List (List Text)) : List Text → List (List Text)
  | [] => (done.map List.reverse).reverse
  | l :: rest =>
    match done with
    | run :: others =>
      if run.head?.any fun d => same d l then lineRuns same ((l :: run) :: others) rest
      else lineRuns same ([l] :: run :: others) rest
    | [] => lineRuns same [[l]] rest

/-- Print lines without those that repeat the one before. -/
def uniq : Tool Nat :=
  withOptions ⟨"cdDf:is:uw:z", [("count", 'c', .never), ("repeated", 'd', .never),
    ("all-repeated", 'D', .attached), ("skip-fields", 'f', .always), ("ignore-case", 'i', .never),
    ("skip-chars", 's', .always), ("unique", 'u', .never), ("check-chars", 'w', .always)], true⟩ 1
    fun options operands => do
    match operands with
    | _ :: _ :: extra :: _ => extraOperand extra
    | _ =>
      let number (letter : Char) : Option Nat := (valueOf? options letter).bind nat?
      let key (line : Text) : Text :=
        let t := skipFields none ((number 'f').getD 0) line
        let t := t.drop ((number 's').getD 0)
        let t := match number 'w' with
          | some n => t.take n
          | none => t
        if given options 'i' then lower t else t
      match ← operand (operands.head?.getD ['-']) with
      | .error fault => fail (about (operands.head?.getD []) fault) 1
      | .ok t =>
        let runs := lineRuns (fun a b => key a == key b) [] (splitLines t)
        let kept := runs.filter fun run =>
          (!given options 'd' || run.length > 1) && (!given options 'u' || run.length == 1) &&
            (!given options 'D' || run.length > 1)
        let printed := kept.flatMap fun run =>
          if given options 'D' then run
          else
            let line := run.head?.getD []
            if given options 'c' then [padLeft 7 ' ' (ofNat run.length) ++ ' ' :: line] else [line]
        match operands[1]? with
        | none =>
          say (joinLines printed)
          return 0
        | some name =>
          match ← writeFile name (joinLines printed) with
          | .ok _ => return 0
          | .error fault => fail (about name fault) 1

/-- A file that is compared line by line: what is left of it, the line before that, and whether it
is known not to be sorted. -/
structure Side where
  rest : List Text
  before : Option Text
  isUnsorted : Bool

/-- The file behind its next line.  Its order is looked at as soon as a line was found that only one
of the files has. -/
def Side.advance (s : Side) (looks : Bool) : Side :=
  match s.rest with
  | [] => s
  | line :: rest =>
    let falls := match rest.head?, s.before with
      | some next, _ => compareTexts line next == .gt
      | none, some old => compareTexts old line == .gt
      | none, none => false
    ⟨rest, some line, s.isUnsorted || (looks && falls)⟩

/-- What has been found by comparing: the lines in reverse, each with the number of its column, and
the numbers of the files that are not sorted in reverse. -/
structure Merged where
  lines : List (Nat × Text)
  unsorted : List Nat

/-- Compare two sorted files: lines are only in the first, only in the second, or in both. -/
def merged (done : Merged) (looks : Bool) : Nat → Side → Side → Merged
  | 0, _, _ => done
  | fuel + 1, a, b =>
    let step (column : Nat) (line : Text) : Merged :=
      let looks := looks || column != 3
      let next := if column = 2 then a else a.advance looks
      let other := if column = 1 then b else b.advance looks
      let new := (if next.isUnsorted && !a.isUnsorted then [1] else []) ++
        if other.isUnsorted && !b.isUnsorted then [2] else []
      merged ⟨(column, line) :: done.lines, new.reverse ++ done.unsorted⟩ looks fuel next other
    match a.rest, b.rest with
    | [], [] => done
    | line :: _, [] => step 1 line
    | [], line :: _ => step 2 line
    | x :: _, y :: _ =>
      match compareTexts x y with
      | .lt => step 1 x
      | .gt => step 2 y
      | .eq => step 3 y

/-- Compare two sorted files line by line. -/
def comm : Tool Nat :=
  withOptions ⟨"123z", [("output-delimiter", 'o', .always)], true⟩ 1 fun options operands => do
    match operands with
    | [] => missingOperand
    | [a] => misuse ("missing operand after ".toList ++ quotedPlain a) 1
    | _ :: _ :: extra :: _ => extraOperand extra
    | [a, b] =>
      let (first, failed) ← allFiles [a]
      if failed ≠ 0 then return 1
      let (second, failed) ← allFiles [b]
      if failed ≠ 0 then return 1
      let as := splitLines first
      let bs := splitLines second
      let hidden (n : Nat) : Bool := given options (Char.ofNat ('0'.toNat + n))
      let between := (valueOf? options 'o').getD ['\t']
      let tabs (n : Nat) : Text :=
        ((List.range (n - 1)).filter fun i => !hidden (i + 1)).flatMap fun _ => between
      let found := merged ⟨[], []⟩ false (as.length + bs.length + 1) ⟨as, none, false⟩
        ⟨bs, none, false⟩
      let rows := found.lines.reverse.filter fun row => !hidden row.1
      say (joinLines (rows.map fun row => tabs row.1 ++ row.2))
      found.unsorted.reverse.forM fun n =>
        complain ("file ".toList ++ ofNat n ++ " is not in sorted order".toList)
      if found.unsorted.isEmpty then return 0
      else fail "input is not in sorted order".toList 1

end ComponentFile.Tools
