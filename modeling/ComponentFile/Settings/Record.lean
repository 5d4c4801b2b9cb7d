import ComponentFile.Settings.Problem

/-!
# Reading records

A record is written as an object with named fields or as an array with the fields in a fixed
order.  Fields may be missing, and unknown fields are passed over.  All readers here go through an
outline from left to right and stop at its first problem; `room` is the number of arrays and
objects that may still stand inside one another.

## Main definitions

* `Settings.Field` : a named field of a record and how it is read.
* `Settings.readRecord` : the change that a written record makes to the default values.
* `Settings.readBool`, `readText`, `readTexts`, `readEntries` : plain values.
-/

namespace ComponentFile.Settings

open Json (Key Outline Scalar)

/-- What a settings reader answers. -/
abbrev Reading (α : Type) := Except Problem α

/-- Something other than the wanted value stands here.  A scalar is read to its end before it is
called unsuitable, an array or object is not. -/
def reject {α : Type} (wanted : Wanted) : Outline → Reading α
  | .scalar .null => .error (.wrongType .null wanted)
  | .scalar (.bool b) => .error (.wrongType (.bool b) wanted)
  | .scalar (.number n) =>
    match n.value? with
    | some value => .error (.wrongType (.number value) wanted)
    | none => .error .malformed
  | .scalar (.string (some t)) => .error (.wrongType (.string t) wanted)
  | .scalar (.string none) => .error .malformed
  | .array _ _ => .error (.wrongType .sequence wanted)
  | .object _ _ => .error (.wrongType .map wanted)
  | .broken => .error .malformed

/-- The result `a` of a part that has been read, if the part also ends. -/
def ending {α : Type} (closed : Bool) (a : α) : Reading α :=
  if closed then .ok a else .error .malformed

/-- A value that only has to exist. -/
def required {α : Type} : Option α → Reading α
  | some a => .ok a
  | none => .error .malformed

/-! ### Plain values -/

/-- A truth value. -/
def readBool : Outline → Reading Bool
  | .scalar (.bool b) => .ok b
  | o => reject .boolean o

/-- A text. -/
def readText : Outline → Reading Text
  | .scalar (.string (some t)) => .ok t
  | o => reject .string o

/-- A list of texts. -/
def readTexts : Nat → Outline → Reading (List Text)
  | 0, .array _ _ => .error .malformed
  | _ + 1, .array items closed => do
    let texts ← items.mapM readText
    ending closed texts
  | _, o => reject .sequence o

/-- The entries of an object, each value read by `read`. -/
def readMembers {α : Type} (read : Outline → Reading α) :
    List (Key × Outline) → Reading (List (Text × α))
  | [] => .ok []
  | (key, o) :: rest => do
    let key ← required key.text?
    let value ← read o
    let entries ← readMembers read rest
    return (key, value) :: entries

/-- A dictionary.  A key may come more than once. -/
def readEntries {α : Type} (read : Nat → Outline → Reading α) : Nat → Outline → Reading (Dict α)
  | 0, .object _ _ => .error .malformed
  | room + 1, .object members closed => do
    let entries ← readMembers (read room) members
    ending closed (OrderedMap.ofList entries)
  | _, o => reject .map o

/-- Any value. -/
def readAny (room : Nat) (o : Outline) : Reading Json :=
  required (o.value? room)

/-! ### Records -/

/-- A field of a record of type `σ`: its name, other names for it, and how its value changes the
record. -/
structure Field (σ : Type) where
  name : Text
  aliases : List Text
  read : Nat → Outline → Reading (σ → σ)

variable {σ : Type}

/-- The field that a key names. -/
def fieldNamed? (fields : List (Field σ)) (key : Text) : Option (Field σ) :=
  fields.find? fun field => field.name == key || field.aliases.contains key

/-- The fields of an object, with the names of the fields that have been seen. -/
def readFields (fields : List (Field σ)) (room : Nat) :
    List Text → List (Key × Outline) → σ → Reading σ
  | _, [], s => .ok s
  | seen, (key, o) :: rest, s => do
    let key ← required key.text?
    match fieldNamed? fields key with
    | some field =>
      if seen.contains field.name then .error (.duplicateField field.name)
      else
        let change ← field.read room o
        readFields fields room (field.name :: seen) rest (change s)
    | none =>
      if o.isComplete then readFields fields room seen rest s else .error .malformed

/-- The fields of an array, in their order.  There must not be more items than fields. -/
def readPositions (room : Nat) : List (Field σ) → List Outline → σ → Reading σ
  | _, [], s => .ok s
  | [], _ :: _, _ => .error .malformed
  | field :: fields, o :: rest, s => do
    let change ← field.read room o
    readPositions room fields rest (change s)

/-- A record with the given fields; those that are not written keep the values of `s`. -/
def readRecord (fields : List (Field σ)) (wanted : Wanted) (s : σ) : Nat → Outline → Reading σ
  | 0, .object _ _ => .error .malformed
  | 0, .array _ _ => .error .malformed
  | room + 1, .object members closed => do
    let result ← readFields fields room [] members s
    ending closed result
  | room + 1, .array items closed => do
    let result ← readPositions room fields items s
    ending closed result
  | _, o => reject wanted o

end ComponentFile.Settings
