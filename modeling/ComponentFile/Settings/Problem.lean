import ComponentFile.Decimal.Shortest
import ComponentFile.Json.Value
import ComponentFile.Text.Quoted

/-!
# Problems of a settings file

## Main definitions

* `Settings.Found`, `Settings.Wanted` : what stands in a place, and what should stand there.
* `Settings.Problem` : why a settings file cannot be used.
* `Settings.Problem.message` : the wording of a problem with the data.
-/

namespace ComponentFile.Settings

open Json (Number)

/-- What was found in the place of something else. -/
inductive Found where
  | null
  | bool (value : Bool)
  | number (value : Number)
  | string (text : Text)
  | sequence
  | map
  deriving DecidableEq, Repr

/-- What should stand in a place. -/
inductive Wanted where
  | boolean
  | string
  | sequence
  | map
  | unit
  | settings
  | scriptSettings
  | styleSettings
  deriving DecidableEq, Repr

/-- Why a settings file cannot be used: it is not JSON, it gives a field twice, it names an
unknown place to read languages, or a value has the wrong type. -/
inductive Problem where
  | malformed
  | duplicateField (name : Text)
  | unknownVariant (name : Text)
  | wrongType (found : Found) (wanted : Wanted)
  deriving DecidableEq, Repr

/-- The wording of what was found. -/
def Found.message : Found → Text
  | null => "null".toList
  | bool b => "boolean `".toList ++ (if b then "true`" else "false`").toList
  | number (.integer i) => "integer `".toList ++ (toString i).toList ++ "`".toList
  | number (.double x) => "floating point `".toList ++ x.text ++ "`".toList
  | string t => "string ".toList ++ Text.quote t
  | sequence => "sequence".toList
  | map => "map".toList

/-- The wording of what was wanted. -/
def Wanted.message : Wanted → Text
  | boolean => "a boolean".toList
  | string => "a string".toList
  | sequence => "a sequence".toList
  | map => "a map".toList
  | unit => "unit".toList
  | settings => "struct Config".toList
  | scriptSettings => "struct ScriptConfig".toList
  | styleSettings => "struct StyleConfig".toList

/-- The wording of a problem with the data; a text that is not JSON has none. -/
def Problem.message : Problem → Option Text
  | malformed => none
  | duplicateField name => some ("duplicate field `".toList ++ name ++ "`".toList)
  | unknownVariant name =>
    some ("unknown variant `".toList ++ name ++ "`, expected `parsed` or `document`".toList)
  | wrongType found wanted =>
    some ("invalid type: ".toList ++ found.message ++ ", expected ".toList ++ wanted.message)

end ComponentFile.Settings
