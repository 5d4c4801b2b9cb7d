import ComponentFile.Files.Machine
import ComponentFile.Regex.Basic
import ComponentFile.Shell.Syntax

/-!
# Patterns

A pattern is matched by keeping, for the part of the text that has been read, all the parts of the
pattern that the rest of the text may match.  A pattern with groups is matched item by item: what is
kept are the places in the text which the items up to this one may end at.

## Main definitions

* `Shell.GlobRules` : how patterns are read, and which names they stand for.
* `Shell.Glob`, `Shell.Glob.ofMarked` : patterns, and how they are read.
* `Shell.Glob.ends` : where the matches of a pattern with groups end.
* `Shell.Glob.isMatch` : whether a pattern matches a whole text.
* `Shell.Glob.prefixLength?`, `Shell.Glob.suffixLength?` : how much of a text a pattern matches.
* `Shell.Glob.paths` : the paths that a pattern stands for.
-/

namespace ComponentFile.Shell

open Text

/-- A character, and whether it stands for itself. -/
abbrev MarkedChar := Char × Bool

/-- How often one of the alternatives of a group is matched, or that none of them is. -/
inductive GroupCount where
  | once
  | atMostOnce
  | atLeastOnce
  | freely
  | never
  deriving DecidableEq, Repr

/-- An element of a pattern. -/
inductive GlobItem where
  | char (c : Char)
  | any
  | set (s : CharSet)
  | star
  | group (count : GroupCount) (alternatives : List (List GlobItem))

/-- A pattern. -/
abbrev Glob := List GlobItem

/-- How patterns are read, and which names they stand for: whether they may have groups, whether
they match names that begin with a dot, and whether two stars stand for directories at any depth. -/
structure GlobRules where
  dialect : Dialect
  groups : Bool := false
  dots : Bool := false
  deep : Bool := false

namespace GlobItem

/-- Whether an item is a star. -/
def isStar : GlobItem → Bool
  | star => true
  | _ => false

/-- Whether an item is a certain character. -/
def isChar (item : GlobItem) (c : Char) : Bool :=
  match item with
  | char d => c == d
  | _ => false

/-- Whether an item is a group. -/
def isGroup : GlobItem → Bool
  | group _ _ => true
  | _ => false

end GlobItem

/-- The count of a group that a sign in front of its parenthesis stands for. -/
def GroupCount.ofSign? : Char → Option GroupCount
  | '@' => some once
  | '?' => some atMostOnce
  | '+' => some atLeastOnce
  | '*' => some freely
  | '!' => some never
  | _ => none

namespace Glob

/-! ### Reading patterns -/

/-- The members of a set up to the bracket that ends it, and what stands behind the bracket. -/
def readMembers (ranges : List (Char × Char)) :
    Nat → Bool → List MarkedChar → Option (List (Char × Char) × List MarkedChar)
  | 0, _, _ => none
  | fuel + 1, first, t =>
    match t with
    | [] => none
    | ('/', _) :: _ => none
    | (']', false) :: rest => if first then readRange fuel ']' rest else some (ranges, rest)
    | ('[', false) :: (':', false) :: rest =>
      let name := (rest.takeWhile fun c => c.1.isAlpha).map Prod.fst
      match rest.drop name.length, CharSet.classRanges? name with
      | (':', _) :: (']', _) :: rest, some found => readMembers (found ++ ranges) fuel false rest
      | _, _ => readRange fuel '[' ((':', false) :: rest)
    | (c, _) :: rest => readRange fuel c rest
where
  /-- A member that begins with a character. -/
  readRange (fuel : Nat) (c : Char) (rest : List MarkedChar) :
      Option (List (Char × Char) × List MarkedChar) :=
    match rest with
    | ('-', false) :: (d, marked) :: more =>
      if d = ']' && !marked then readMembers ((c, c) :: ranges) fuel false rest
      else readMembers ((c, d) :: ranges) fuel false more
    | _ => readMembers ((c, c) :: ranges) fuel false rest

/-- Whether a sign at the front of a set stands for all other characters. -/
def negates (dialect : Dialect) (c : Char) : Bool :=
  c == '!' || (c == '^' && dialect == .extended)

/-- The set behind an opening bracket, and what stands behind it. -/
def readBracket (dialect : Dialect) (t : List MarkedChar) : Option (CharSet × List MarkedChar) :=
  let negated := match t with
    | (c, false) :: _ => negates dialect c
    | _ => false
  let members := if negated then t.drop 1 else t
  (readMembers [] (members.length + 1) true members).map fun found =>
    (⟨negated, found.1⟩, found.2)

/-- The alternatives of a group, behind its opening parenthesis, and what stands behind the closing
one: `depth` counts the open parentheses inside of it. -/
def readAlternatives (depth : Nat) (done : List (List MarkedChar)) (part : List MarkedChar) :
    List MarkedChar → Option (List (List MarkedChar) × List MarkedChar)
  | [] => none
  | c :: rest =>
    if c = (')', false) then
      match depth with
      | 0 => some ((part.reverse :: done).reverse, rest)
      | n + 1 => readAlternatives n done (c :: part) rest
    else if c = ('|', false) && depth = 0 then
      readAlternatives depth (part.reverse :: done) [] rest
    else readAlternatives (if c = ('(', false) then depth + 1 else depth) done (c :: part) rest

/-- The count and the alternatives of the group at the front of marked characters, and what stands
behind it. -/
def readGroup? (rules : GlobRules) (t : List MarkedChar) :
    Option (GroupCount × List (List MarkedChar) × List MarkedChar) :=
  match t with
  | (sign, false) :: ('(', false) :: rest =>
    if rules.groups then
      (GroupCount.ofSign? sign).bind fun count =>
        (readAlternatives 0 [] [] rest).map fun found => (count, found)
    else none
  | _ => none

/-- The pattern that marked characters are, put behind the items that are known in reverse. -/
def ofMarkedFrom (rules : GlobRules) : Nat → Glob → List MarkedChar → Glob
  | 0, done, _ => done.reverse
  | fuel + 1, done, t =>
    match readGroup? rules t with
    | some (count, parts, rest) =>
      let alternatives := parts.map fun part => ofMarkedFrom rules fuel [] part
      ofMarkedFrom rules fuel (.group count alternatives :: done) rest
    | none =>
      match t with
      | [] => done.reverse
      | ('*', false) :: rest =>
        ofMarkedFrom rules fuel (if done.head?.any GlobItem.isStar then done else .star :: done)
          rest
      | ('?', false) :: rest => ofMarkedFrom rules fuel (.any :: done) rest
      | ('[', false) :: rest =>
        match readBracket rules.dialect rest with
        | some (s, rest) => ofMarkedFrom rules fuel (.set s :: done) rest
        | none => ofMarkedFrom rules fuel (.char '[' :: done) rest
      | ('\\', false) :: (c, _) :: rest => ofMarkedFrom rules fuel (.char c :: done) rest
      | (c, _) :: rest => ofMarkedFrom rules fuel (.char c :: done) rest

/-- The pattern that marked characters are. -/
def ofMarked (rules : GlobRules) (t : List MarkedChar) : Glob :=
  ofMarkedFrom rules (t.length + 1) [] t

/-- Whether marked characters can be more than a text. -/
def isPattern (rules : GlobRules) : List MarkedChar → Bool
  | [] => false
  | (_, true) :: rest => isPattern rules rest
  | (c, false) :: rest =>
    c == '*' || c == '?' || (c == '[' && rest.any (· == (']', false))) ||
      (readGroup? rules ((c, false) :: rest)).isSome || isPattern rules rest

/-! ### Matching -/

/-- Whether an item matches a character. -/
def GlobItem.isMatch (item : GlobItem) (c : Char) : Bool :=
  match item with
  | .char d => c == d
  | .any => true
  | .set s => s.contains false c
  | .star => true
  | .group _ _ => false

/-- The parts of a pattern that are left when stars match nothing, with the pattern itself. -/
def withoutStars : Glob → List Glob
  | .star :: rest => (.star :: rest) :: withoutStars rest
  | p => [p]

/-- Put a pattern into a list of rests unless it is there: rests of one pattern differ by their
lengths. -/
def insertRest (states : List Glob) (p : Glob) : List Glob :=
  if states.any fun q => q.length == p.length then states else p :: states

/-- What is left of patterns after a character. -/
def step (states : List Glob) (c : Char) : List Glob :=
  states.foldl (fun found p =>
    match p with
    | [] => found
    | .star :: _ => insertRest found p
    | item :: rest =>
      if GlobItem.isMatch item c then (withoutStars rest).foldl insertRest found else found) []
  |>.foldl (fun found p => (withoutStars p).foldl insertRest found) []

/-- The places of two lists. -/
def merge (a b : List Nat) : List Nat :=
  a ++ b.filter fun i => !a.contains i

/-- The places that are reached by any number of steps. -/
def closure (next : List Nat → List Nat) : Nat → List Nat → List Nat
  | 0, places => places
  | n + 1, places =>
    let more := merge places (next places)
    if more.length = places.length then places else closure next n more

mutual

/-- The places in a text where the matches of an item end that begin at one of some places. -/
def itemEnds (t : Text) (starts : List Nat) : GlobItem → List Nat
  | .group count alternatives =>
    let once (starts : List Nat) : List Nat := groupEnds t starts alternatives
    match count with
    | .once => once starts
    | .atMostOnce => merge starts (once starts)
    | .freely => closure once (t.length + 1) starts
    | .atLeastOnce => closure once (t.length + 1) (once starts)
    | .never =>
      starts.foldl (fun found i =>
        let others := once [i]
        merge found ((List.range' i (t.length + 1 - i)).filter fun j => !others.contains j)) []
  | .star => starts.foldl (fun found i => merge found (List.range' i (t.length + 1 - i))) []
  | item => starts.filterMap fun i =>
      match t[i]? with
      | some c => if GlobItem.isMatch item c then some (i + 1) else none
      | none => none

/-- The places in a text where the matches of a pattern end that begin at one of some places. -/
def ends (t : Text) (starts : List Nat) : List GlobItem → List Nat
  | [] => starts
  | item :: rest => ends t (itemEnds t starts item) rest

/-- The places in a text where the matches of one of some patterns end that begin at one of some
places. -/
def groupEnds (t : Text) (starts : List Nat) : List (List GlobItem) → List Nat
  | [] => []
  | p :: rest => merge (ends t starts p) (groupEnds t starts rest)

end

mutual

/-- An item that matches a text when the item matches it backwards. -/
def reversedItem : GlobItem → GlobItem
  | .group count alternatives => .group count (reversedAll alternatives)
  | item => item

/-- A pattern that matches a text when the pattern matches it backwards. -/
def reversed : List GlobItem → List GlobItem
  | [] => []
  | item :: rest => reversed rest ++ [reversedItem item]

/-- Patterns that match a text when the patterns match it backwards. -/
def reversedAll : List (List GlobItem) → List (List GlobItem)
  | [] => []
  | p :: rest => reversed p :: reversedAll rest

end

/-- Whether everything has been matched. -/
def isDone (states : List Glob) : Bool :=
  states.any List.isEmpty

/-- Whether a pattern matches a whole text. -/
def isMatch (p : Glob) (t : Text) : Bool :=
  if p.any GlobItem.isGroup then (ends t [0] p).contains t.length
  else matchFrom (withoutStars p) t
where
  /-- Whether one of the patterns matches a whole text. -/
  matchFrom (states : List Glob) : Text → Bool
    | [] => isDone states
    | c :: t => if states.isEmpty then false else matchFrom (step states c) t

/-- How many of the first characters of a text a pattern matches, the most or the fewest. -/
def prefixLength? (longest : Bool) (p : Glob) (t : Text) : Option Nat :=
  if p.any GlobItem.isGroup then
    let found := ends t [0] p
    if longest then found.max? else found.min?
  else lengthFrom (withoutStars p) 0 none t
where
  /-- The length for the rests of a pattern after `n` characters. -/
  lengthFrom (states : List Glob) (n : Nat) (best : Option Nat) (t : Text) : Option Nat :=
    let best := if isDone states then some n else best
    if best.isSome && !longest then best
    else
      match t with
      | [] => best
      | c :: t => if states.isEmpty then best else lengthFrom (step states c) (n + 1) best t

/-- How many of the last characters of a text a pattern matches, the most or the fewest. -/
def suffixLength? (longest : Bool) (p : Glob) (t : Text) : Option Nat :=
  prefixLength? longest (reversed p) t.reverse

/-! ### Paths -/

/-- The names in a directory that a pattern matches, in their order.  A dot at the front has to be
matched by a dot unless the rules say otherwise. -/
def namesAt (rules : GlobRules) (tree : FileTree) (place : Place) (p : Glob) : List Text :=
  let names := (tree.namesIn place).map fun name => octets name.text
  let dotted := p.head?.any fun item => item.isChar '.'
  let names := if dotted && rules.dialect = .plain then ['.'] :: ['.', '.'] :: names else names
  let found := names.filter fun name =>
    (dotted || rules.dots || name.head? != some '.') && p.isMatch name
  found.mergeSort Text.le

/-- The paths of the directories at any depth below a path that is written `base`, each with a slash
behind it. -/
def directoriesBelow (tree : FileTree) (cwd : Place) : Nat → Text → List Text
  | 0, _ => []
  | depth + 1, base =>
    match tree.follow cwd ⟨ofOctets (if base.isEmpty then ['.'] else base)⟩ with
    | .error _ => []
    | .ok place =>
      let names := namesAt { dialect := .plain } tree place [.star]
      names.flatMap fun name =>
        let path := base ++ name
        if tree.isDirectory cwd ⟨ofOctets path⟩ then
          (path ++ ['/']) :: directoriesBelow tree cwd depth (path ++ ['/'])
        else []

/-- The paths that segments of a pattern stand for below a path that is written `base`. -/
def pathsBelow (rules : GlobRules) (tree : FileTree) (cwd : Place) (base : Text) :
    List (List MarkedChar) → List Text
  | [] => [base]
  | segment :: rest =>
    let next (name : Text) : Text := base ++ name ++ if rest.isEmpty then [] else ['/']
    let path (t : Text) : Path := ⟨ofOctets t⟩
    if rules.deep && segment = [('*', false), ('*', false)] then
      let bases := base :: directoriesBelow tree cwd 100 base
      if rest.isEmpty then
        let below := bases.flatMap fun b => pathsOf rules tree cwd b [('*', false)]
        (if base.isEmpty then below else base :: below).mergeSort Text.le
      else
        let found := (bases.flatMap fun b => pathsBelow rules tree cwd b rest).mergeSort Text.le
        found.filter fun path => !path.isEmpty
    else if isPattern rules segment then
      let names := pathsOf rules tree cwd base segment
      if rest.isEmpty then names
      else
        let names := names.filter fun name => tree.isDirectory cwd (path name)
        names.flatMap fun name => pathsBelow rules tree cwd (name ++ ['/']) rest
    else
      let name := segment.map Prod.fst
      let reached := next name
      if rest.isEmpty && !name.isEmpty then
        if (tree.lookup cwd (path reached)).toOption.isSome then [reached] else []
      else pathsBelow rules tree cwd reached rest
where
  /-- The paths right below a path that a segment of a pattern stands for. -/
  pathsOf (rules : GlobRules) (tree : FileTree) (cwd : Place) (base : Text)
      (segment : List MarkedChar) : List Text :=
    let directory : Path := ⟨ofOctets (if base.isEmpty then ['.'] else base)⟩
    match tree.follow cwd directory with
    | .ok place =>
      if !(base.isEmpty || tree.isDirectory cwd directory) then []
      else (namesAt rules tree place (ofMarked rules segment)).map fun name => base ++ name
    | .error _ => []

/-- The segments of marked characters. -/
def segments (t : List MarkedChar) : List (List MarkedChar) :=
  t.splitOnP fun c => c.1 == '/'

/-- The paths that a pattern stands for. -/
def paths (rules : GlobRules) (tree : FileTree) (cwd : Place) (t : List MarkedChar) : List Text :=
  pathsBelow rules tree cwd [] (segments t)

end Glob

end ComponentFile.Shell
