import ComponentFile.Text.Octets

/-!
# Programs of patterns and actions

A program of this kind goes through the records of its input; each of its rules has a pattern that
selects records and an action for them.

## Main definitions

* `Awk.Expr`, `Awk.Statement` : expressions and statements.
* `Awk.Rule`, `Awk.Procedure`, `Awk.Program` : programs.
-/

namespace ComponentFile.Awk

/-- An operator between two values. -/
inductive Binary where
  | add
  | subtract
  | multiply
  | divide
  | remainder
  | power
  | less
  | lessEqual
  | equal
  | notEqual
  | greater
  | greaterEqual
  | concat
  deriving DecidableEq, Repr

/-- Where a line is taken from: the input, a file, or a command. -/
inductive Origin where
  | input
  | file
  | command
  deriving DecidableEq, Repr

/-- An expression. -/
inductive Expr where
  | number (x : Float)
  | text (t : Text)
  | regex (t : Text)
  | name (n : Text)
  | field (e : Expr)
  | element (array : Text) (index : List Expr)
  | tuple (es : List Expr)
  | assign (op : Option Binary) (target value : Expr)
  | choose (condition a b : Expr)
  | both (a b : Expr)
  | either (a b : Expr)
  | not (e : Expr)
  | negate (e : Expr)
  | plus (e : Expr)
  | matching (negated : Bool) (e pattern : Expr)
  | member (index : List Expr) (array : Text)
  | binary (op : Binary) (a b : Expr)
  | step (before : Bool) (amount : Float) (target : Expr)
  | call (function : Text) (arguments : List Expr)
  | builtin (function : Text) (arguments : List Expr)
  | getline (origin : Origin) (source : Option Expr) (target : Option Expr)

/-- Where output goes: to a file from its start or to its end, or to a command. -/
inductive Outlet where
  | file
  | append
  | command
  deriving DecidableEq, Repr

/-- A statement. -/
inductive Statement where
  | expr (e : Expr)
  | print (es : List Expr) (outlet : Option (Outlet × Expr))
  | printf (es : List Expr) (outlet : Option (Outlet × Expr))
  | block (body : List Statement)
  | branch (condition : Expr) (yes : Statement) (no : Option Statement)
  | whileLoop (condition : Expr) (body : Statement)
  | doLoop (body : Statement) (condition : Expr)
  | forLoop (first : Option Statement) (condition : Option Expr) (next : Option Statement)
      (body : Statement)
  | forIn (name array : Text) (body : Statement)
  | next
  | exit (code : Option Expr)
  | return (value : Option Expr)
  | leave
  | goOn
  | delete (array : Text) (index : List Expr)

/-- What selects records: nothing at all, the start, the end, an expression, or two expressions for
the first and the last record of a range. -/
inductive Selector where
  | every
  | start
  | finish
  | one (e : Expr)
  | range (first last : Expr)

/-- A rule.  One without an action prints records. -/
structure Rule where
  selector : Selector
  action : Option Statement

/-- A function of the program. -/
structure Procedure where
  name : Text
  parameters : List Text
  body : Statement

/-- A program. -/
structure Program where
  rules : List Rule
  procedures : List Procedure

end ComponentFile.Awk
