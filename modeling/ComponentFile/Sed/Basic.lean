import ComponentFile.Regex.Search

/-!
# Editing scripts

An editing script is a list of commands, each with the lines that it is for.

## Main definitions

* `Sed.Address`, `Sed.Lines` : lines of the input.
* `Sed.Substitution`, `Sed.Action`, `Sed.Command` : commands.
* `Sed.Script` : a script, in which blocks know where they end.
-/

namespace ComponentFile.Sed

/-- A line: by its number, the last one, those with a match, or every so many lines from one on.  A
match may be one of the pattern that was used last. -/
inductive Address where
  | line (n : Nat)
  | last
  | pattern (f : Option Pattern)
  | every (first step : Nat)

/-- Where a range of lines ends: at a line, after so many lines, or at a multiple of a number. -/
inductive Stop where
  | at (a : Address)
  | after (n : Nat)
  | multiple (n : Nat)

/-- The lines that a command is for. -/
inductive Lines where
  | all
  | one (a : Address)
  | range (first : Address) (stop : Stop)

/-- How the letters of a replacement are changed. -/
inductive Casing where
  | upper
  | lower
  | upperNext
  | lowerNext
  | plain
  deriving DecidableEq

/-- A part of a replacement: text, what a group holds, or a change of letters. -/
inductive Part where
  | text (t : Text)
  | group (n : Nat)
  | casing (c : Casing)

/-- The replacement of matches: which of them, from the `nth` on if all, and what happens then. -/
structure Substitution where
  pattern : Option Pattern
  parts : List Part
  all : Bool
  nth : Nat
  prints : Nat
  file : Option Text

/-- When a jump is made. -/
inductive Jump where
  | always
  | changed
  | unchanged
  deriving DecidableEq

/-- What a command does. -/
inductive Action where
  | block (stop : Nat)
  | close
  | label (name : Text)
  | jump (kind : Jump) (name : Text)
  | append (t : Text)
  | insert (t : Text)
  | change (t : Text)
  | delete
  | deleteFirst
  | print
  | printFirst
  | get
  | getMore
  | hold
  | holdMore
  | exchange
  | next
  | nextMore
  | list (width : Option Nat)
  | number
  | quit (code : Nat)
  | quitSilently (code : Nat)
  | readFile (name : Text)
  | readLine (name : Text)
  | writeFile (name : Text)
  | writeFirst (name : Text)
  | substitute (s : Substitution)
  | translate (pairs : List (Char × Char))
  | fileName
  | clear

/-- A command. -/
structure Command where
  lines : Lines
  negated : Bool
  action : Action

/-- A script. -/
abbrev Script := Array Command

/-- The files that a script writes to. -/
def writtenFiles (script : Script) : List Text :=
  script.toList.filterMap fun c =>
    match c.action with
    | .writeFile name => some name
    | .writeFirst name => some name
    | .substitute s => s.file
    | _ => none

/-- The labels that a script jumps to without having them. -/
def missingLabel? (script : Script) : Option Text :=
  let labels := script.toList.filterMap fun c =>
    match c.action with
    | .label name => some name
    | _ => none
  script.toList.findSome? fun c =>
    match c.action with
    | .jump _ name => if name.isEmpty || labels.any (· == name) then none else some name
    | _ => none

end ComponentFile.Sed
