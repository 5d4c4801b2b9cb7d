import ComponentFile.Settings.Basic
import ComponentFile.Settings.Record

/-!
# Reading settings

A settings file is a JSON text.  Its fields have the names below, two of them also a name in camel
case, and an array in the place of a record gives the fields in the order in which they are listed
here.

## Main definitions

* `Settings.ofOutline` : the settings that an outline describes.
* `Settings.ofText` : the settings that a text describes.
-/

namespace ComponentFile.Settings

open Json (Outline Scalar)

/-- The greatest number of arrays and objects inside one another. -/
def maxDepth : Nat := 127

/-- The name of a place where languages are read. -/
def modeNamed (name : Text) : Reading DetectionMode :=
  if name = "parsed".toList then .ok .parsed
  else if name = "document".toList then .ok .document
  else .error (.unknownVariant name)

/-- The place where languages are read: its name, or an object whose only key is the name and
whose value is null. -/
def readMode : Nat → Outline → Reading DetectionMode
  | _, .scalar (.string (some name)) => modeNamed name
  | _ + 1, .object ((.text name, o) :: rest) closed => do
    let mode ← modeNamed name
    match o with
    | .scalar .null => if rest.isEmpty then ending closed mode else .error .malformed
    | o => reject .unit o
  | _, _ => .error .malformed

/-- The fields of the settings for coffee scripts. -/
def scriptFields : List (Field ScriptSettings) :=
  [{ name := "compile".toList
     aliases := []
     read := fun _ o => (readBool o).map fun b s => { s with compile := b } },
   { name := "command".toList
     aliases := []
     read := fun room o => (readTexts room o).map fun c s => { s with command := c } },
   { name := "options".toList
     aliases := []
     read := fun room o => (readEntries readAny room o).map fun d s => { s with options := d } }]

/-- The fields of the settings for sass styles. -/
def styleFields : List (Field StyleSettings) :=
  [{ name := "compile".toList
     aliases := []
     read := fun _ o => (readBool o).map fun b s => { s with compile := b } },
   { name := "command".toList
     aliases := []
     read := fun room o => (readTexts room o).map fun c s => { s with command := c } },
   { name := "options".toList
     aliases := []
     read := fun room o => (readEntries readAny room o).map fun d s => { s with options := d } },
   { name := "replace".toList
     aliases := []
     read := fun room o =>
       (readEntries (fun _ => readText) room o).map fun d s => { s with replacements := d } }]

/-- The fields of the settings. -/
def fields : List (Field Settings) :=
  [{ name := "remove_blank_lines".toList
     aliases := ["removeBlankLines".toList]
     read := fun _ o => (readBool o).map fun b s => { s with removeBlankLines := b } },
   { name := "empty_export".toList
     aliases := ["emptyExport".toList]
     read := fun _ o => (readBool o).map fun b s => { s with stubScript := b } },
   { name := "directives".toList
     aliases := []
     read := fun room o => (readMode room o).map fun m s => { s with detection := m } },
   { name := "coffee".toList
     aliases := []
     read := fun room o =>
       (readRecord scriptFields .scriptSettings .default room o).map fun c s =>
         { s with coffee := c } },
   { name := "sass".toList
     aliases := []
     read := fun room o =>
       (readRecord styleFields .styleSettings .default room o).map fun c s =>
         { s with sass := c } }]

/-- The settings that an outline describes. -/
def ofOutline (o : Outline) : Reading Settings :=
  readRecord fields .settings .default maxDepth o

/-- The settings that a JSON text describes.  Nothing may follow the value. -/
def ofText (t : Text) : Reading Settings := do
  let (o, rest) := Outline.ofTokens (Json.tokens t)
  let settings ← ofOutline o
  ending rest.isEmpty settings

end ComponentFile.Settings
