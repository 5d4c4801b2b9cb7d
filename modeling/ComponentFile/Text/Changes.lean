import ComponentFile.Text.Basic

/-!
# Changes between two lists of lines

One list of lines becomes another when some lines are taken away and others are put in.  As few
lines as possible are changed.  A way from one list to the other is a path through a grid: a step
to the right takes a line away, a step down puts one in, and where two lines agree a step across
costs nothing.  Paths are followed from both ends until they meet.

## Main definitions

* `Changes.middle` : a point where the cheapest paths from both ends meet.
* `Changes.marks` : the lines that are changed.
* `Changes.settled` : the same with each run of changed lines moved to where it reads best.
* `Change`, `Changes.between` : the changes, in their order.
-/

namespace ComponentFile

open Text

/-- Some lines that are taken away in one list, and some that are put in in the other, each with the
number of lines before them. -/
structure Change where
  left : Nat
  right : Nat
  deleted : Nat
  inserted : Nat
  deriving DecidableEq, Repr

namespace Changes

/-- Two lists of lines. -/
structure Sides where
  left : Array Text
  right : Array Text

/-- A part of the grid: its lines on the left and on the right. -/
structure Box where
  left : Int
  leftEnd : Int
  right : Int
  rightEnd : Int

/-- The lines of both lists that are changed. -/
structure Marks where
  left : Array Bool
  right : Array Bool

/-- A line by its number. -/
def line? (lines : Array Text) (i : Int) : Option Text :=
  if i < 0 then none else lines[i.toNat]?

/-- Whether a line on the left agrees with one on the right. -/
def Sides.agree (s : Sides) (x y : Int) : Bool :=
  (line? s.left x).isSome && line? s.left x == line? s.right y

/-! ### Steps across -/

/-- The number of steps across that can be taken from a point, at most `bound`. -/
def stepsOn (s : Sides) (b : Box) (x y : Int) : Nat → Int
  | 0 => 0
  | bound + 1 =>
    if x < b.leftEnd && y < b.rightEnd && s.agree x y then
      1 + stepsOn s b (x + 1) (y + 1) bound
    else 0

/-- The number of steps across that can be taken back from a point, at most `bound`. -/
def stepsBack (s : Sides) (b : Box) (x y : Int) : Nat → Int
  | 0 => 0
  | bound + 1 =>
    if b.left < x && b.right < y && s.agree (x - 1) (y - 1) then
      1 + stepsBack s b (x - 1) (y - 1) bound
    else 0

/-! ### Paths from both ends -/

/-- How far paths of one cost reach: for each diagonal from `low` to `high` the line on the left
that is reached.  Diagonals are counted from `zero`, where the list of lines begins. -/
structure Front where
  low : Int
  high : Int
  zero : Int
  reach : Array Int

namespace Front

/-- The line that is reached on a diagonal. -/
def reached (f : Front) (d : Int) : Int :=
  f.reach.getD (d + f.zero).toNat 0

/-- Reach a line on a diagonal. -/
def put (f : Front) (d x : Int) : Front :=
  { f with reach := f.reach.setIfInBounds (d + f.zero).toNat x }

/-- One more diagonal on both sides, within the grid.  Diagonals behind the last ones are out of
reach, which `edge` stands for. -/
def widen (least greatest edge : Int) (f : Front) : Front :=
  let f := if f.low > least then { f.put (f.low - 2) edge with low := f.low - 1 }
    else { f with low := f.low + 1 }
  if f.high < greatest then { f.put (f.high + 2) edge with high := f.high + 1 }
  else { f with high := f.high - 1 }

/-- Whether a diagonal is among those of the front. -/
def covers (f : Front) (d : Int) : Bool :=
  f.low ≤ d && d ≤ f.high

end Front

/-- Go on by one step on each diagonal from `d` down, or find where the paths meet. -/
def goOn (s : Sides) (b : Box) (meets : Bool) (back : Front) :
    Nat → Int → Front → Except (Int × Int) Front
  | 0, _, f => .ok f
  | bound + 1, d, f =>
    if d < f.low then .ok f
    else
      let below := f.reached (d - 1)
      let above := f.reached (d + 1)
      let x := if below < above then above else below + 1
      let x := x + stepsOn s b x (x - d) (b.leftEnd - x).toNat
      if meets && back.covers d && back.reached d ≤ x then .error (x, x - d)
      else goOn s b meets back bound (d - 2) (f.put d x)

/-- Go back by one step on each diagonal from `d` down, or find where the paths meet. -/
def goBack (s : Sides) (b : Box) (meets : Bool) (ahead : Front) :
    Nat → Int → Front → Except (Int × Int) Front
  | 0, _, f => .ok f
  | bound + 1, d, f =>
    if d < f.low then .ok f
    else
      let below := f.reached (d - 1)
      let above := f.reached (d + 1)
      let x := if below < above then below else above - 1
      let x := x - stepsBack s b x (x - d) (x - b.left).toNat
      if meets && ahead.covers d && x ≤ ahead.reached d then .error (x, x - d)
      else goBack s b meets ahead bound (d - 2) (f.put d x)

/-- A point where paths from both ends meet that cost no more than they must. -/
def meeting (s : Sides) (b : Box) (odd : Bool) : Nat → Front → Front → Int × Int
  | 0, _, _ => (b.left, b.right)
  | bound + 1, ahead, back =>
    let least := b.left - b.rightEnd
    let greatest := b.leftEnd - b.right
    let ahead := ahead.widen least greatest (-1)
    let size := (b.leftEnd - b.left + (b.rightEnd - b.right) + 2).toNat
    match goOn s b odd back size ahead.high ahead with
    | .error point => point
    | .ok ahead =>
      let back := back.widen least greatest (b.leftEnd + b.rightEnd + 2)
      match goBack s b (!odd) ahead size back.high back with
      | .error point => point
      | .ok back => meeting s b odd bound ahead back

/-- A point where the cheapest paths from both ends of a part of the grid meet. -/
def middle (s : Sides) (b : Box) : Int × Int :=
  let size := (b.leftEnd - b.left + (b.rightEnd - b.right)).toNat
  let zero := b.rightEnd - b.left + 2
  let start := b.left - b.right
  let goal := b.leftEnd - b.rightEnd
  let none := Array.replicate (size + 5) (0 : Int)
  let ahead := Front.put ⟨start, start, zero, none⟩ start b.left
  let back := Front.put ⟨goal, goal, zero, none⟩ goal b.leftEnd
  meeting s b ((start - goal) % 2 != 0) (size + 1) ahead back

/-! ### Marking changed lines -/

/-- Mark the lines between two numbers. -/
def markRange (marks : Array Bool) (first last : Int) : Array Bool :=
  (List.range (last - first).toNat).foldl (fun m i =>
    m.setIfInBounds (first.toNat + i) true) marks

/-- Mark the lines of a part of the grid that are changed. -/
def mark (s : Sides) : Nat → Box → Marks → Marks
  | 0, _, m => m
  | bound + 1, b, m =>
    let front := stepsOn s b b.left b.right (b.leftEnd - b.left).toNat
    let b := { b with left := b.left + front, right := b.right + front }
    let behind := stepsBack s b b.leftEnd b.rightEnd (b.leftEnd - b.left).toNat
    let b := { b with leftEnd := b.leftEnd - behind, rightEnd := b.rightEnd - behind }
    if b.left = b.leftEnd || b.right = b.rightEnd then
      ⟨markRange m.left b.left b.leftEnd, markRange m.right b.right b.rightEnd⟩
    else
      let (x, y) := middle s b
      mark s bound { b with left := x, right := y }
        (mark s bound { b with leftEnd := x, rightEnd := y } m)

/-- The numbers of the lines that also occur in the other list. -/
def shared (lines others : Array Text) : Array Nat :=
  ((List.range lines.size).filter fun i =>
    (lines[i]?).any fun line => others.contains line).toArray

/-- The lines that are changed.  Lines that do not occur in the other list are changed in any case,
and are left out before paths are looked for. -/
def marks (s : Sides) : Marks :=
  let left := shared s.left s.right
  let right := shared s.right s.left
  let rest : Sides := ⟨left.filterMap fun i => s.left[i]?, right.filterMap fun i => s.right[i]?⟩
  let all := (left.size + right.size + 1 : Nat)
  let none : Marks := ⟨Array.replicate left.size false, Array.replicate right.size false⟩
  let m := mark rest all ⟨0, left.size, 0, right.size⟩ none
  let spread (count : Nat) (numbers : Array Nat) (marks : Array Bool) : Array Bool :=
    (numbers.zip marks).foldl (fun a p => a.setIfInBounds p.1 p.2) (Array.replicate count true)
  ⟨spread s.left.size left m.left, spread s.right.size right m.right⟩

/-! ### Moving runs of changed lines -/

/-- Whether a line is marked. -/
def isMarked (marks : Array Bool) (i : Int) : Bool :=
  0 ≤ i && marks.getD i.toNat false

/-- Mark a line, or take its mark away. -/
def setMark (marks : Array Bool) (i : Int) (b : Bool) : Array Bool :=
  marks.setIfInBounds i.toNat b

/-- The first line from one on that is not marked. -/
def skip (marks : Array Bool) (i : Int) : Int :=
  let rec go : Nat → Int → Int
    | 0, i => i
    | bound + 1, i => if isMarked marks i then go bound (i + 1) else i
  go (marks.size + 1) i

/-- The first line from one down that is not marked. -/
def skipBack (marks : Array Bool) (i : Int) : Int :=
  let rec go : Nat → Int → Int
    | 0, i => i
    | bound + 1, i => if isMarked marks i then go bound (i - 1) else i
  go (marks.size + 1) i

/-- A run of marked lines from `start` up to `stop`, the line of the other list that it stands at,
and all marks. -/
structure Run where
  start : Int
  stop : Int
  other : Int
  marks : Array Bool

/-- Move a run back by one line, and past the marked lines that it meets. -/
def Run.back (others : Array Bool) (r : Run) : Run :=
  let marks := setMark (setMark r.marks (r.start - 1) true) (r.stop - 1) false
  ⟨skipBack marks (r.start - 2) + 1, r.stop - 1, skipBack others (r.other - 1), marks⟩

/-- Move a run back as far as it goes. -/
def Run.farBack (lines : Array Text) (others : Array Bool) : Nat → Run → Run
  | 0, r => r
  | bound + 1, r =>
    if r.start > 0 && line? lines (r.start - 1) == line? lines (r.stop - 1) then
      farBack lines others bound (r.back others)
    else r

/-- Move a run on as far as it goes.  `corresponding` is where it ended last when it stood at a run
in the other list. -/
def Run.farOn (lines : Array Text) (others : Array Bool) : Nat → Int → Run → Int × Run
  | 0, corresponding, r => (corresponding, r)
  | bound + 1, corresponding, r =>
    if r.stop != lines.size && line? lines r.start == line? lines r.stop then
      let marks := setMark (setMark r.marks r.start false) r.stop true
      let stop := skip marks (r.stop + 1)
      let other := skip others (r.other + 1)
      let corresponding := if other > r.other + 1 then stop else corresponding
      farOn lines others bound corresponding ⟨r.start + 1, stop, other, marks⟩
    else (corresponding, r)

/-- Move a run back and on until it no longer grows. -/
def Run.grow (lines : Array Text) (others : Array Bool) : Nat → Run → Int × Run
  | 0, r => (r.stop, r)
  | bound + 1, r =>
    let back := r.farBack lines others lines.size
    let corresponding := if isMarked others (back.other - 1) then back.stop else lines.size
    let (corresponding, moved) := back.farOn lines others lines.size corresponding
    if r.stop - r.start = moved.stop - moved.start then (corresponding, moved)
    else grow lines others bound moved

/-- Move a run back to where it stood at a run in the other list. -/
def Run.settle (others : Array Bool) (corresponding : Int) : Nat → Run → Run
  | 0, r => r
  | bound + 1, r =>
    if corresponding < r.stop then
      let marks := setMark (setMark r.marks (r.start - 1) true) (r.stop - 1) false
      settle others corresponding bound
        ⟨r.start - 1, r.stop - 1, skipBack others (r.other - 1), marks⟩
    else r

/-- Move each run of marked lines from a line on to the end of the lines that it can be taken from,
or to a run in the other list. -/
def settleFrom (lines : Array Text) (others : Array Bool) :
    Nat → Int → Int → Array Bool → Array Bool
  | 0, _, _, marks => marks
  | bound + 1, i, other, marks =>
    if i ≥ lines.size then marks
    else if !isMarked marks i then
      settleFrom lines others bound (i + 1) (skip others other + 1) marks
    else
      let run : Run := ⟨i, skip marks (i + 1), skip others other, marks⟩
      let (corresponding, run) := run.grow lines others (lines.size + 1)
      let run := run.settle others corresponding lines.size
      settleFrom lines others bound run.stop run.other run.marks

/-- The lines that are changed, with each run of them moved to where it reads best. -/
def settled (s : Sides) (m : Marks) : Marks :=
  let left := settleFrom s.left m.right (2 * s.left.size + 1) 0 0 m.left
  let right := settleFrom s.right left (2 * s.right.size + 1) 0 0 m.right
  ⟨left, right⟩

/-! ### Changes -/

/-- The changes from two lines on. -/
def collect (m : Marks) : Nat → Nat → Nat → List Change
  | 0, _, _ => []
  | bound + 1, i, j =>
    if i ≥ m.left.size && j ≥ m.right.size then []
    else if isMarked m.left i || isMarked m.right j then
      let deleted := (skip m.left i).toNat - i
      let inserted := (skip m.right j).toNat - j
      ⟨i, j, deleted, inserted⟩ :: collect m bound (i + deleted) (j + inserted)
    else collect m bound (i + 1) (j + 1)

/-- The length of the longest common front of two lists. -/
def commonFront : List Text → List Text → Nat
  | a :: s, b :: t => if a = b then commonFront s t + 1 else 0
  | _, _ => 0

/-- The changes between two lists of lines, which agree where their keys do.  Of the lines that both
lists begin and end with, at most `context` take part. -/
def between (key : Text → Text) (context : Nat) (left right : List Text) : List Change :=
  let front := commonFront left right
  let behind := commonFront (left.drop front).reverse (right.drop front).reverse
  let start := front - context
  let cut (ls : List Text) : Array Text :=
    (((ls.take (ls.length - (behind - context))).drop start).map key).toArray
  let sides : Sides := ⟨cut left, cut right⟩
  let m := settled sides (marks sides)
  (collect m (m.left.size + m.right.size + 1) 0 0).map fun c =>
    { c with left := c.left + start, right := c.right + start }

end Changes

end ComponentFile
