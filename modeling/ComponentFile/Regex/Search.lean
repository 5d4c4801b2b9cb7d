import ComponentFile.Regex.Basic

/-!
# Matching regular expressions

A match begins as far to the left as it can and is then as long as it can be.  Its groups are as
long as they can be one after the other.

## Main definitions

* `Cursor` : a place in a text.
* `Pattern.ends` : the places where matches that begin at a place may end.
* `Pattern.assign` : what the groups of a match hold.
* `Pattern.find?`, `Pattern.matches` : the first match in a text.
-/

namespace ComponentFile

/-- A place in a text: the number of characters before it, the last one of them, and the text
behind it. -/
structure Cursor where
  index : Nat
  before : Option Char
  rest : Text
  deriving Repr

namespace Cursor

/-- The place at the start of a text. -/
def start (t : Text) : Cursor := ⟨0, none, t⟩

/-- The place behind the next character. -/
def next (p : Cursor) : Cursor :=
  match p.rest with
  | [] => p
  | c :: t => ⟨p.index + 1, some c, t⟩

/-- The text between two places. -/
def upTo (p : Cursor) (stop : Nat) : Text :=
  p.rest.take (stop - p.index)

/-- The place some characters further on. -/
def skip (p : Cursor) : Nat → Cursor
  | 0 => p
  | n + 1 => p.next.skip n

/-- All places in either list, each list going from behind to the front. -/
def union : List Cursor → List Cursor → List Cursor
  | [], qs => qs
  | p :: ps, [] => p :: ps
  | p :: ps, q :: qs =>
    if p.index > q.index then p :: union ps (q :: qs)
    else if p.index < q.index then q :: union (p :: ps) qs
    else p :: union ps qs
termination_by ps qs => ps.length + qs.length

/-- The places of a list that are not in another one. -/
def without (ps qs : List Cursor) : List Cursor :=
  ps.filter fun p => !qs.any fun q => q.index == p.index

/-- All places to which a step leads from places. -/
def advance (step : Cursor → List Cursor) (ps : List Cursor) : List Cursor :=
  ps.foldl (fun found p => union found (step p)) []

end Cursor

/-- What the groups of a match hold. -/
abbrev Captures := List (Nat × Text)

namespace Pattern

/-- Whether a character is part of a word. -/
def isWordChar (c : Option Char) : Bool :=
  c.any Text.isNameChar

/-- Whether an anchor holds at a place. -/
def holds (f : Pattern) (p : Cursor) : Anchor → Bool
  | .lineStart => p.index = 0 || (f.multiline && p.before = some '\n')
  | .lineEnd => p.rest.isEmpty || (f.multiline && p.rest.head? = some '\n')
  | .textStart => p.index = 0
  | .textEnd => p.rest.isEmpty
  | .wordEdge => isWordChar p.before != isWordChar p.rest.head?
  | .noWordEdge => isWordChar p.before == isWordChar p.rest.head?
  | .wordStart => !isWordChar p.before && isWordChar p.rest.head?
  | .wordEnd => isWordChar p.before && !isWordChar p.rest.head?

/-- The characters that a regular expression for single characters matches. -/
def single? (f : Pattern) : Regex → Option (Char → Bool)
  | .char c => some fun d =>
    d == c || (f.ignoreCase && d.toLower == c.toLower)
  | .any => some fun _ => true
  | .set s => some (s.contains f.ignoreCase)
  | _ => none

/-- The places behind up to `limit` characters of a class, put in front of those that are known. -/
def run (isMember : Char → Bool) : Option Nat → List Cursor → Cursor → Text → List Cursor
  | some 0, found, p, _ => p :: found
  | _, found, p, [] => p :: found
  | limit, found, p, c :: t =>
    if isMember c then
      run isMember (limit.map (· - 1)) (p :: found) ⟨p.index + 1, some c, t⟩ t
    else p :: found

/-- The places to which any number of steps lead from the places in `frontier`, at most `limit`
steps if there is a limit, besides those that are known. -/
def closure (step : Cursor → List Cursor) : Nat → Option Nat → List Cursor → List Cursor →
    List Cursor
  | 0, _, _, known => known
  | _ + 1, some 0, _, known => known
  | fuel + 1, limit, frontier, known =>
    let new := Cursor.without (Cursor.advance step frontier) known
    if new.isEmpty then known
    else closure step fuel (limit.map (· - 1)) new (Cursor.union new known)

/-- The places to which a number of steps lead. -/
def steps (step : Cursor → List Cursor) : Nat → List Cursor → List Cursor
  | 0, ps => ps
  | n + 1, ps => if ps.isEmpty then [] else steps step n (Cursor.advance step ps)

/-- The places where matches that begin at a place may end, from behind to the front. -/
def ends (f : Pattern) : Regex → Cursor → List Cursor
  | .nothing, p => [p]
  | .anchor a, p => if f.holds p a then [p] else []
  | .group _ r, p => ends f r p
  | .reference _, p => [p]
  | .sequence a b, p => Cursor.advance (ends f b) (ends f a p)
  | .either a b, p => Cursor.union (ends f a p) (ends f b p)
  | .loop r low high, p =>
    match f.single? r with
    | some isMember =>
      (run isMember high [] p p.rest).filter fun q => q.index ≥ p.index + low
    | none =>
      let start := steps (ends f r) low [p]
      closure (ends f r) (p.rest.length + 1) (high.map (· - low)) start start
  | r, p =>
    match f.single? r, p.rest with
    | some isMember, c :: t => if isMember c then [⟨p.index + 1, some c, t⟩] else []
    | _, _ => []

/-- Whether one of the places has an index. -/
def reaches (ps : List Cursor) (stop : Nat) : Bool :=
  ps.any fun p => p.index == stop

/-- What the groups hold after the steps of a loop from a place up to `stop`. -/
def assignLoop (step : Cursor → List Cursor) (assign : Cursor → Nat → Captures → Captures)
    (stop : Nat) : Nat → Nat → Cursor → Captures → Captures
  | 0, _, _, found => found
  | fuel + 1, low, p, found =>
    if p.index = stop && low = 0 then found
    else
      let goesOn (q : Cursor) : Bool :=
        (q.index > p.index || low > 0) &&
          (q.index = stop ||
            reaches (closure step (q.rest.length + 1) none [q] [q]) stop)
      match (step p).find? goesOn with
      | some q => assignLoop step assign stop fuel (low - 1) q (assign p q.index found)
      | none => found

/-- What the groups of a match hold that begins at a place and ends at `stop`. -/
def assign (f : Pattern) : Regex → Cursor → Nat → Captures → Captures
  | .group n r, p, stop, found => assign f r p stop ((n, p.upTo stop) :: found)
  | .sequence a b, p, stop, found =>
    match (ends f a p).find? fun q => reaches (ends f b q) stop with
    | some q => assign f b q stop (assign f a p q.index found)
    | none => found
  | .either a b, p, stop, found =>
    if reaches (ends f a p) stop then assign f a p stop found else assign f b p stop found
  | .loop r low _, p, stop, found =>
    if r.groups = 0 then found
    else assignLoop (ends f r) (assign f r) stop (stop - p.index + low + 1) low p found
  | _, _, _, found => found

/-! ### References -/

/-- A place together with what the groups hold there. -/
abbrev Trail := Cursor × Captures

/-- The trails of a loop, longer ones first: any number of steps, at most `limit` if there is a
limit, and at least `low`. -/
def trailLoop (step : Trail → List Trail) : Nat → Nat → Option Nat → Trail → List Trail
  | 0, _, _, t => [t]
  | fuel + 1, low, limit, t =>
    let own := if low = 0 then [t] else []
    if limit = some 0 then own
    else
      ((step t).filter fun u => low > 0 || u.1.index > t.1.index).flatMap
        (trailLoop step fuel (low - 1) (limit.map (· - 1))) ++ own

/-- The trails of a regular expression that refers to its groups, preferred ones first. -/
def trails (f : Pattern) : Regex → Trail → List Trail
  | .nothing, t => [t]
  | .anchor a, t => if f.holds t.1 a then [t] else []
  | .group n r, t =>
    (trails f r t).map fun u => (u.1, (n, t.1.upTo u.1.index) :: u.2)
  | .reference n, t =>
    match t.2.lookup n with
    | none => []
    | some held =>
      let same : Bool :=
        if f.ignoreCase then Text.lower held == Text.lower (t.1.rest.take held.length)
        else held.isPrefixOf t.1.rest
      if same then [(t.1.skip held.length, t.2)] else []
  | .sequence a b, t => (trails f a t).flatMap (trails f b)
  | .either a b, t => trails f a t ++ trails f b t
  | .loop r low high, t =>
    trailLoop (trails f r) (t.1.rest.length + low + 1) low high t
  | r, t => (ends f r t.1).map fun p => (p, t.2)

/-- The longest trail, the first one of several. -/
def longest : List Trail → Option Trail
  | [] => none
  | t :: rest =>
    rest.foldl (fun best u =>
      if best.any fun b => u.1.index > b.1.index then some u else best) (some t)

/-! ### Searching -/

/-- A match: where it begins, the place behind it, and what its groups hold. -/
structure Found where
  start : Nat
  stop : Cursor
  captures : Captures

/-- The match that begins at a place, with what its groups hold if `wanted`. -/
def matchAt (f : Pattern) (refers wanted : Bool) (p : Cursor) : Option Found :=
  if refers then
    (longest (f.trails f.regex (p, []))).map fun t => ⟨p.index, t.1, t.2⟩
  else
    match f.ends f.regex p with
    | [] => none
    | stop :: _ =>
      some ⟨p.index, stop, if wanted then f.assign f.regex p stop.index [] else []⟩

/-- The first match at a place or behind it. -/
def findFrom (f : Pattern) (refers wanted : Bool) (index : Nat) (before : Option Char) :
    Text → Option Found
  | [] => f.matchAt refers wanted ⟨index, before, []⟩
  | c :: t =>
    match f.matchAt refers wanted ⟨index, before, c :: t⟩ with
    | some found => some found
    | none => findFrom f refers wanted (index + 1) (some c) t

/-- The first match at a place or behind it. -/
def find? (f : Pattern) (p : Cursor) (wanted : Bool) : Option Found :=
  f.findFrom f.regex.refers wanted p.index p.before p.rest

/-- Whether there is a match in a text. -/
def isIn (f : Pattern) (t : Text) : Bool :=
  (f.find? (.start t) false).isSome

end Pattern

end ComponentFile
