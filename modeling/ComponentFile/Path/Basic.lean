import ComponentFile.Text.Basic

/-!
# Paths

A path is a text, and it stays the text that was given; what it leads to depends only on its
parts.  Repeated slashes, a slash at the end and the segment `.` make no part, except that a
relative path may begin with the part `.`; the segment `..` is a part like any name.

## Main definitions

* `Path` : a path as written.
* `Path.Part`, `Path.parts` : the parts of a path.
* `Path.relativeTo?` : the remainder of a path below another one.
* `Path.parent?`, `Path.join` : the path above, and one path continued by another.
* `Path.le` : the order of paths, part by part.
-/

namespace ComponentFile

/-- A path as written. -/
structure Path where
  text : Text
  deriving DecidableEq, Repr

namespace Path

/-! ### Parts -/

/-- A step of a path: to the root, to stay, to go up, or to go to a name. -/
inductive Part where
  | root
  | current
  | parent
  | name (text : Text)
  deriving DecidableEq, Repr

/-- Whether a segment between slashes makes no part. -/
def isIdle (segment : Text) : Bool :=
  segment.isEmpty || segment == ['.']

/-- The part that a segment makes. -/
def Part.ofSegment? (segment : Text) : Option Part :=
  if isIdle segment then none
  else if segment = ['.', '.'] then some .parent
  else some (.name segment)

/-- The text of a part in a path. -/
def Part.segment : Part → Text
  | root => []
  | current => ['.']
  | parent => ['.', '.']
  | name t => t

/-- How a path begins: like any relative path, at the root, or with the segment `.`. -/
inductive Lead where
  | relative
  | root
  | current
  deriving DecidableEq, Repr

/-- The part that the beginning of a path makes. -/
def Lead.parts : Lead → List Part
  | relative => []
  | root => [.root]
  | current => [.current]

/-- The segments of a path between slashes. -/
def segments (p : Path) : List Text :=
  p.text.splitOn '/'

/-- How the path begins. -/
def lead (p : Path) : Lead :=
  if p.text.head? = some '/' then .root
  else if p.segments.head? = some ['.'] then .current
  else .relative

/-- Whether the path begins at the root. -/
def isAbsolute (p : Path) : Bool :=
  p.lead == .root

/-- The segments behind the beginning. -/
def body (p : Path) : List Text :=
  match p.lead with
  | .relative => p.segments
  | _ => p.segments.drop 1

/-- The parts of the path. -/
def parts (p : Path) : List Part :=
  p.lead.parts ++ p.body.filterMap Part.ofSegment?

/-- The path with a given beginning and the given segments behind it. -/
def ofBody (lead : Lead) (body : List Text) : Path :=
  let joined := ['/'].intercalate body
  match lead with
  | .relative => ⟨joined⟩
  | .root => ⟨'/' :: joined⟩
  | .current => if body.isEmpty then ⟨['.']⟩ else ⟨'.' :: '/' :: joined⟩

/-! ### Taking paths apart -/

/-- The segments without those at the end that make no part. -/
def trimEnd (body : List Text) : List Text :=
  (body.reverse.dropWhile isIdle).reverse

/-- The segments behind the first `n` parts. -/
def dropParts : Nat → List Text → List Text
  | 0, body => body
  | n + 1, body => dropParts n ((body.dropWhile isIdle).drop 1)

/-- The path without slashes and dots at its end that make no part. -/
def trimmed (p : Path) : Path :=
  ofBody p.lead (trimEnd p.body)

/-- A relative path of the same parts, with one slash between any two of them. -/
def plain (p : Path) : Path :=
  ⟨['/'].intercalate (p.parts.map Part.segment)⟩

/-- The remainder of a path whose first parts are the parts of `base`.  Slashes and dots that make
no part are left out at its two ends and kept inside. -/
def relativeTo? (p base : Path) : Option Path :=
  if base.parts.isPrefixOf p.parts then
    if base.parts.isEmpty then some p.trimmed
    else
      let count := base.parts.length - p.lead.parts.length
      some (ofBody .relative (trimEnd ((dropParts count p.body).dropWhile isIdle)))
  else none

/-- The remainder of a path below `base`, and the whole path when it does not lie there. -/
def relativeTo (p base : Path) : Path :=
  (p.relativeTo? base).getD p

/-- The path without its last part; there is none above the root and above the empty path. -/
def parent? (p : Path) : Option Path :=
  match (trimEnd p.body).reverse with
  | _ :: outer => some (ofBody p.lead (trimEnd outer.reverse))
  | [] =>
    match p.lead with
    | .current => some ⟨[]⟩
    | _ => none

/-- The path `q` seen from `p`: an absolute path is not changed by that. -/
def join (p q : Path) : Path :=
  if q.isAbsolute then q
  else if p.text.isEmpty || p.text.getLast? = some '/' then ⟨p.text ++ q.text⟩
  else ⟨p.text ++ '/' :: q.text⟩

/-! ### Order -/

/-- The kinds of parts in their order: the root, then `.`, then `..`, then names. -/
def Part.rank : Part → Nat
  | root => 0
  | current => 1
  | parent => 2
  | name _ => 3

/-- The name of a part; empty for parts that are no names. -/
def Part.nameText : Part → Text
  | name t => t
  | _ => []

/-- The order of parts: by kind, and names by their characters. -/
def Part.le (a b : Part) : Bool :=
  if a.rank = b.rank then Text.le a.nameText b.nameText else decide (a.rank ≤ b.rank)

/-- The order of lists of parts, in which the first parts that differ decide. -/
def partsLe : List Part → List Part → Bool
  | [], _ => true
  | _ :: _, [] => false
  | a :: as, b :: bs => if a = b then partsLe as bs else a.le b

/-- The order of paths by their parts. -/
def le (p q : Path) : Bool :=
  partsLe p.parts q.parts

end Path

end ComponentFile
