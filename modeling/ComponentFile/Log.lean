import ComponentFile.Text.Basic

/-!
# Log records

## Main definitions

* `Log.Level`, `Log.Record` : what is logged.
* `Log.Level.isShown` : whether records of a level pass a threshold.
* `Log.Record.text` : a record as it is shown.
-/

namespace ComponentFile.Log

/-- The importance of a record. -/
inductive Level where
  | error
  | info
  | debug
  deriving DecidableEq, Repr

/-- The name of a level. -/
def Level.name : Level → Text
  | error => "ERROR".toList
  | info => "INFO".toList
  | debug => "DEBUG".toList

/-- Levels from the most to the least important. -/
def Level.rank : Level → Nat
  | error => 0
  | info => 1
  | debug => 2

/-- Whether records of this level are shown when `threshold` is the least important level that
is. -/
def Level.isShown (level threshold : Level) : Bool :=
  level.rank ≤ threshold.rank

/-- A record of the log. -/
structure Record where
  level : Level
  message : Text
  deriving DecidableEq, Repr

/-- A record as it is shown: its level and its message, whose further lines are indented. -/
def Record.text (r : Record) : Text :=
  r.level.name ++ ": ".toList ++ "\n    ".toList.intercalate (Text.lines r.message)

end ComponentFile.Log
