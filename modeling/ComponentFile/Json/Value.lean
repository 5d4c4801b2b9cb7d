import ComponentFile.Dict
import ComponentFile.Json.Outline

/-!
# JSON values

Compiler options are JSON values.  The members of an object have distinct keys and keep the order
in which the keys first came.

## Main definitions

* `Json` : JSON values.
* `Json.Outline.value?` : the value of a complete outline.
-/

namespace ComponentFile

/-- A JSON value. -/
inductive Json where
  | null
  | bool (value : Bool)
  | number (value : Json.Number)
  | string (text : Text)
  | array (items : List Json)
  | object (members : List (Text × Json))
  deriving Repr, BEq

namespace Json

instance : Inhabited Json := ⟨null⟩

/-- The truth value that a value is. -/
def bool? : Json → Option Bool
  | bool b => some b
  | _ => none

/-- The text that a value is. -/
def string? : Json → Option Text
  | string t => some t
  | _ => none

/-- The items of an array. -/
def array? : Json → Option (List Json)
  | array items => some items
  | _ => none

/-- The value of a scalar: a number must not be too large, and a string must have a text. -/
def Scalar.value? : Scalar → Option Json
  | null => some .null
  | bool b => some (.bool b)
  | number n => n.value?.map .number
  | string t => t.map .string

/-- The members of a list with distinct keys: the last value of a key, at the place of its
first. -/
def distinct (members : List (Text × Json)) : List (Text × Json) :=
  members.foldl (fun done m => Entries.insert m.1 m.2 done) []

/-- The value of an outline in which at most `room` arrays and objects stand inside one another.
There is none when the outline is cut off somewhere, or holds a scalar without a value. -/
def Outline.value? : Nat → Outline → Option Json
  | _, scalar s => s.value?
  | room + 1, array items true => (items.mapM (Outline.value? room)).map .array
  | room + 1, object members true =>
    (members.mapM fun (member : Key × Outline) => do
      let key ← member.1.text?
      let value ← Outline.value? room member.2
      return (key, value)).map fun ms => .object (distinct ms)
  | _, _ => none

end Json

end ComponentFile
