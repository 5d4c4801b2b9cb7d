import ComponentFile.Text.Octets

/-!
# Interpreters of scripts

A program file that begins with `#!` is a script.  The rest of its first line names the program that
interprets it, and at most one argument for that program.

## Main definitions

* `Shebang` : the interpreter that a script names, and its argument.
* `Shebang.ofOctets?` : what the octets of a program file name.
-/

namespace ComponentFile

open Text

/-- The interpreter that the first line of a program file names, and its argument. -/
structure Shebang where
  interpreter : Text
  argument : Option Text

namespace Shebang

/-- How much of a program file is looked at to find its interpreter. -/
def headLength : Nat := 255

/-- A text without the gaps at its end. -/
def trimGaps (t : Text) : Text :=
  (t.reverse.dropWhile isGap).reverse

/-- The interpreter of a program file with some octets.  A zero ends the line. -/
def ofOctets? (t : Text) : Option Shebang :=
  match t.take headLength with
  | '#' :: '!' :: rest =>
    let line := (rest.takeWhile fun c => c != '\n' && c != '\x00').dropWhile isGap
    let name := line.takeWhile fun c => !isGap c
    let behind := trimGaps ((line.drop name.length).dropWhile isGap)
    if name.isEmpty then none
    else some ⟨name, if behind.isEmpty then none else some behind⟩
  | _ => none

end Shebang

end ComponentFile
