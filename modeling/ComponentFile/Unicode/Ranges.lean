import ComponentFile.Text.Basic

/-!
# Tables of code points

Properties of characters are kept in tables that are written as texts, with code points in
hexadecimal digits: a table lists its parts with spaces between them.

## Main definitions

* `Unicode.hexNumber` : the number that hexadecimal digits stand for.
* `Unicode.Ranges` : sets of code points, as ranges with both ends included.
* `Unicode.Ranges.ofRows`, `Unicode.Ranges.contains` : reading such a set, and asking it.
-/

namespace ComponentFile.Unicode

/-- The number that hexadecimal digits stand for. -/
def hexNumber (digits : Text) : Nat :=
  digits.foldl (fun n c => n * 16 + (Text.hexDigit? c).getD 0) 0

/-- The numbers before and behind the first sign `c`; the whole number twice if there is none. -/
def splitNumber (c : Char) (t : Text) : Nat × Nat :=
  match Text.cut? [c] t with
  | some (before, after) => (hexNumber before, hexNumber after)
  | none => (hexNumber t, hexNumber t)

/-- The parts of a table, which is given in rows. -/
def parts (table : List String) : List Text :=
  table.flatMap fun row => row.toList.splitOn ' '

/-- A set of code points, as ranges with both ends included. -/
abbrev Ranges := List (Nat × Nat)

namespace Ranges

/-- The ranges that a table lists: single code points, and pairs with a hyphen between them. -/
def ofRows (table : List String) : Ranges :=
  (parts table).map (splitNumber '-')

/-- Whether a code point lies in one of the ranges. -/
def contains (ranges : Ranges) (n : Nat) : Bool :=
  ranges.any fun range => range.1 ≤ n && n ≤ range.2

end Ranges

end ComponentFile.Unicode
