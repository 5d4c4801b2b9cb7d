import ComponentFile.Text.Octets

/-!
# Regular expressions

## Main definitions

* `CharSet` : a set of characters, given by ranges.
* `Regex` : regular expressions with anchors, groups and references to groups.
* `Pattern` : a regular expression and how it is matched.
-/

namespace ComponentFile

/-- A set of characters: those in one of the ranges, or all others. -/
structure CharSet where
  negated : Bool
  ranges : List (Char × Char)
  deriving DecidableEq, Repr

namespace CharSet

/-- Whether one of the ranges holds a character. -/
def covers (s : CharSet) (c : Char) : Bool :=
  s.ranges.any fun r => r.1 ≤ c && c ≤ r.2

/-- Whether a set holds a character; when case does not count, whether it holds one of its
spellings. -/
def contains (s : CharSet) (ignoreCase : Bool) (c : Char) : Bool :=
  let found := s.covers c || (ignoreCase && (s.covers c.toLower || s.covers c.toUpper))
  found != s.negated

/-- The ranges of a class of characters. -/
def classRanges? (name : Text) : Option (List (Char × Char)) :=
  match String.ofList name with
  | "alpha" => some [('A', 'Z'), ('a', 'z')]
  | "digit" => some [('0', '9')]
  | "alnum" => some [('0', '9'), ('A', 'Z'), ('a', 'z')]
  | "upper" => some [('A', 'Z')]
  | "lower" => some [('a', 'z')]
  | "space" => some [('\t', '\r'), (' ', ' ')]
  | "blank" => some [('\t', '\t'), (' ', ' ')]
  | "punct" => some [('!', '/'), (':', '@'), ('[', '\x60'), ('\x7b', '~')]
  | "print" => some [(' ', '~')]
  | "graph" => some [('!', '~')]
  | "cntrl" => some [('\x00', '\x1f'), ('\x7f', '\x7f')]
  | "xdigit" => some [('0', '9'), ('A', 'F'), ('a', 'f')]
  | _ => none

/-- The characters of words. -/
def word (negated : Bool) : CharSet :=
  ⟨negated, [('0', '9'), ('A', 'Z'), ('_', '_'), ('a', 'z')]⟩

/-- White space. -/
def space (negated : Bool) : CharSet :=
  ⟨negated, [('\t', '\r'), (' ', ' ')]⟩

end CharSet

/-- A condition on a place in a text. -/
inductive Anchor where
  | lineStart
  | lineEnd
  | textStart
  | textEnd
  | wordEdge
  | noWordEdge
  | wordStart
  | wordEnd
  deriving DecidableEq, Repr

/-- A regular expression. -/
inductive Regex where
  | nothing
  | char (c : Char)
  | any
  | set (s : CharSet)
  | anchor (a : Anchor)
  | group (n : Nat) (r : Regex)
  | reference (n : Nat)
  | sequence (first second : Regex)
  | either (first second : Regex)
  | loop (r : Regex) (low : Nat) (high : Option Nat)
  deriving Repr

namespace Regex

/-- Whether a regular expression refers to what a group has matched. -/
def refers : Regex → Bool
  | reference _ => true
  | group _ r => r.refers
  | loop r _ _ => r.refers
  | sequence a b => a.refers || b.refers
  | either a b => a.refers || b.refers
  | _ => false

/-- The number of groups. -/
def groups : Regex → Nat
  | group _ r => r.groups + 1
  | loop r _ _ => r.groups
  | sequence a b => a.groups + b.groups
  | either a b => a.groups + b.groups
  | _ => 0

/-- The regular expression of a text that matches itself. -/
def literal (t : Text) : Regex :=
  t.foldr (fun c r => .sequence (.char c) r) .nothing

/-- One of several regular expressions. -/
def oneOf : List Regex → Regex
  | [] => .nothing
  | [r] => r
  | r :: rest => .either r (oneOf rest)

end Regex

/-- A regular expression, and whether case counts and whether lines are seen inside a text. -/
structure Pattern where
  regex : Regex
  ignoreCase : Bool
  multiline : Bool
  deriving Repr

end ComponentFile
