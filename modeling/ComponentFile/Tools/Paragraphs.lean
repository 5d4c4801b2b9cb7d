import ComponentFile.Tools.Copy

/-!
# Paragraphs

The words of a paragraph are put into lines of about the same length.  Every line has a cost, which
grows with the square of what it lacks and depends on the words that it begins and ends with, and
the lines of least cost are chosen.

## Main definitions

* `Paragraph.Piece` : a word of a paragraph.
* `Paragraph.lines` : the words in lines of least cost.
* `Tools.fmt` : the tool that does this.
-/

namespace ComponentFile

open Text Tool Tools

namespace Paragraph

/-- A word, the number of spaces behind it, whether it begins with an opening mark, whether it ends
with a mark, whether it ends as sentences do, and whether a sentence ends there. -/
structure Piece where
  text : Text
  space : Nat
  opening : Bool
  marked : Bool
  period : Bool
  final : Bool

/-- How lines are filled: the greatest length of a line and the length it should have. -/
structure Measure where
  width : Nat
  goal : Nat

/-- The square of a number. -/
def square (n : Int) : Int := n * n

/-- What it costs to break a line before a word, given the words before it, the last one first. -/
def breakCost (p : Piece) : List Piece → Int
  | [] => square 70 + own
  | last :: rest =>
    let before : Int :=
      if last.period then (if last.final then -square 50 else square 600)
      else if last.marked then -square 40
      else if rest.head?.any (·.final) then square 200 / (last.text.length + 2)
      else 0
    square 70 + before + own
where
  /-- What the word adds. -/
  own : Int :=
    if p.opening then -square 40
    else if p.final then square 150 / (p.text.length + 2)
    else 0

/-- A way to put the words from one on into lines: its cost, the number of words in its first line,
the length of that line, and whether it is the last one. -/
structure Layout where
  cost : Int
  count : Nat
  length : Nat
  isLast : Bool

/-- What a line of a length costs before the layout of the words behind it. -/
def lineCost (m : Measure) (length : Nat) (next : Option Layout) : Int :=
  match next with
  | none => 0
  | some next =>
    square (((m.goal : Int) - length) * 10) +
      if next.isLast then 0 else square (((length : Int) - next.length) * 10) / 2

/-- The best layout of words, given the layouts of what is behind each of them, when `length`
columns are filled and `count` words are in the line. -/
def best (m : Measure) (found : Option Layout) (length count : Nat) :
    List Piece → List Layout → Option Layout
  | [], _ => found
  | p :: pieces, layouts =>
    let length := length + p.text.length
    let next := layouts.head?
    let cost := lineCost m length next + (next.map Layout.cost).getD 0
    let better := found.all fun f => cost < f.cost
    let found := if better then some ⟨cost, count + 1, length, next.isNone⟩ else found
    match pieces with
    | [] => found
    | q :: _ =>
      if length + p.space + q.text.length < m.width then
        best m found (length + p.space) (count + 1) pieces (layouts.drop 1)
      else found

/-- The layouts of all ends of a list of words, given the words before, the last one first. -/
def layouts (m : Measure) (firstIndent otherIndent : Nat) (before : List Piece) :
    List Piece → List Layout
  | [] => []
  | p :: pieces =>
    let behind := layouts m firstIndent otherIndent (p :: before) pieces
    let indent := if before.isEmpty then firstIndent else otherIndent
    match best m none indent 0 (p :: pieces) behind with
    | none => behind
    | some l => { l with cost := l.cost + breakCost p before } :: behind

/-- Some spaces from a column on, with tabs for those that reach an eighth column if they may be
used. -/
def gap (tabs : Bool) (column count : Nat) : Text :=
  let stop := column + count
  let last := stop / 8 * 8
  if tabs && column + 1 < last then
    List.replicate (last / 8 - column / 8) '\t' ++ List.replicate (stop - last) ' '
  else List.replicate count ' '

/-- The words of a line with the spaces between them, from a column on. -/
def lineText (tabs : Bool) (column : Nat) : List Piece → Text
  | [] => []
  | [p] => p.text
  | p :: rest =>
    let column := column + p.text.length
    p.text ++ gap tabs column p.space ++ lineText tabs (column + p.space) rest

/-- The words in lines of least cost, the first one and the others with indents. -/
def lines (m : Measure) (tabs : Bool) (firstIndent otherIndent : Nat) (pieces : List Piece) :
    List Text :=
  let found := layouts m firstIndent otherIndent [] pieces
  let rec go : Nat → Nat → List Piece → List Layout → List Text
    | 0, _, _, _ => []
    | _ + 1, _, _, [] => []
    | fuel + 1, indent, pieces, l :: layouts =>
      (gap tabs 0 indent ++ lineText tabs indent (pieces.take l.count)) ::
        go fuel otherIndent (pieces.drop l.count) ((l :: layouts).drop l.count)
  go (pieces.length + 1) firstIndent pieces found

/-! ### Reading paragraphs -/

/-- Whether a character is a mark. -/
def isMark (c : Char) : Bool :=
  ' ' < c && c < '\x7f' && !c.isAlphanum

/-- A word with what stands behind it: some spaces, and the end of the line or not. -/
def piece (uniform : Bool) (t : Text) (space : Nat) (ends : Bool) : Piece :=
  let tail := t.reverse
  let core := (tail.take (tail.length - 1)).dropWhile fun c => ")]'\"".toList.any (· == c)
  let last := if core.isEmpty then t.head? else core.head?
  let period := last.any fun c => ".?!".toList.any (· == c)
  let final := period && (ends || space > 1)
  { text := t, space := if ends || uniform then (if final then 2 else 1) else space,
    opening := t.head?.any fun c => c.toNat = 0x60 || "(['\"".toList.any (· == c),
    marked := tail.head?.any isMark, period, final }

/-- The column behind blanks that begin at a column. -/
def columnBehind (column : Nat) (blanks : Text) : Nat :=
  blanks.foldl (fun n c => if c = '\t' then (n / 8 + 1) * 8 else n + 1) column

/-- The words of a line from a column on, at most as many as it has characters. -/
def piecesOf (uniform : Bool) : Nat → Nat → Text → List Piece
  | 0, _, _ => []
  | fuel + 1, column, t =>
    let word := t.takeWhile fun c => !isWhite c
    if word.isEmpty then []
    else
      let column := column + word.length
      let rest := t.drop word.length
      let behind := rest.dropWhile isWhite
      let next := columnBehind column (rest.take (rest.length - behind.length))
      piece uniform word (next - column) behind.isEmpty :: piecesOf uniform fuel next behind

/-- The number of columns in front of a line. -/
def indentOf (line : Text) : Nat :=
  columnBehind 0 (line.takeWhile isGap)

/-- Lines in paragraphs: lines with the same indent behind one another.  With `split` every line is
a paragraph of its own, and with `crown` the first line may have an indent of its own. -/
def paragraphs (split crown : Bool) (group : List Text) : List Text → List (List Text)
  | [] => if group.isEmpty then [] else [group.reverse]
  | line :: rest =>
    let isBlank := (line.dropWhile isWhite).isEmpty
    let close : List (List Text) := if group.isEmpty then [] else [group.reverse]
    if isBlank then close ++ [[]] ++ paragraphs split crown [] rest
    else
      match group with
      | [] => paragraphs split crown [line] rest
      | last :: before =>
        if !split && (indentOf last = indentOf line || (crown && before.isEmpty)) then
          paragraphs split crown (line :: group) rest
        else close ++ paragraphs split crown [line] rest

/-- Words the last of which ends a sentence. -/
def closed (pieces : List Piece) : List Piece :=
  match pieces.getLast? with
  | some p => pieces.dropLast ++ [{ p with period := true, final := true }]
  | none => []

/-- A paragraph with its words in lines. -/
def filled (m : Measure) (uniform tabs : Bool) (group : List Text) : List Text :=
  match group with
  | [] => [[]]
  | first :: rest =>
    let pieces := group.flatMap fun line =>
      piecesOf uniform line.length (indentOf line) (line.dropWhile isWhite)
    lines m tabs (indentOf first) (indentOf (rest.head?.getD first)) (closed pieces)

/-- Paragraphs with their words in lines.  Tabs are used when one has been seen. -/
def allFilled (m : Measure) (uniform : Bool) (tabs : Bool) : List (List Text) → List Text
  | [] => []
  | group :: rest =>
    let isTab (c : Char) : Bool := c == '\t'
    let front := ((rest.head?.bind List.head?).map fun line => line.takeWhile isGap).getD []
    let tabs := tabs || group.any (List.any · isTab) || front.any isTab
    filled m uniform tabs group ++ allFilled m uniform tabs rest

end Paragraph

/-- Put the words of paragraphs into lines. -/
def Tools.fmt : Tool Nat :=
  withOptions ⟨"csuw:g:", [("crown-margin", 'c', .never), ("split-only", 's', .never),
    ("uniform-spacing", 'u', .never), ("width", 'w', .always), ("goal", 'g', .always)], true⟩ 1
    fun options operands => do
    let width := valueOf? options 'w'
    match (width.map nat?).getD (some 75) with
    | none =>
      fail ("invalid width: ".toList ++ quotedPlain (width.getD [])) 1
    | some width =>
      if width > 2500 then fail ("invalid width: ".toList ++ quotedPlain (ofNat width)) 1
      else
        let goal := ((valueOf? options 'g').bind nat?).getD (width * 187 / 200)
        (if operands.isEmpty then [['-']] else operands).foldlM (fun code name => do
          match ← operand name with
          | .error fault =>
            fail
              ("cannot open ".toList ++ about (quotedPlain name ++ " for reading".toList) fault) 1
          | .ok t =>
            let groups :=
              Paragraph.paragraphs (given options 's') (given options 'c') [] (splitLines t)
            say (joinLines (Paragraph.allFilled ⟨width, goal⟩ (given options 'u') false groups))
            return code) 0

end ComponentFile
