import ComponentFile.Path.Name
import ComponentFile.Settings.Basic
import ComponentFile.Url.File

/-!
# Options for one file

Each block is compiled with options that belong to its file besides those of the settings.

## Main definitions

* `scriptOptions` : defaults, then the options of the settings, then what names the file.
* `styleOptions` : the place of the file, unless the options of the settings give another one.
-/

namespace ComponentFile

/-- The options of a script compiler unless the settings say otherwise. -/
def scriptDefaults (path : Path) : List (Text × Json) :=
  [("bare".toList, .bool false), ("header".toList, .bool false), ("sourceRoot".toList, .bool false),
    ("literate".toList, .bool path.isLiterate)]

/-- The options that name the script's file, its path below the base, and the file that is
generated from it. -/
def scriptFileOptions (path relative : Path) : List (Text × Json) :=
  [("filename".toList, .string path.text),
    ("sourceFiles".toList, .array [.string relative.text]),
    ("generatedFile".toList, .string relative.generated.text)]

/-- The options for the script of one file.  The options of the settings replace the defaults, but
not what names the file. -/
def scriptOptions (path relative : Path) (user : Options) : Options :=
  ((OrderedMap.ofList (scriptDefaults path)).insertAll user.entries).insertAll
    (scriptFileOptions path relative)

/-- The options for the style of one file, with relative paths seen from the directory `cwd`. -/
def styleOptions (cwd path : Path) (user : Options) : Options :=
  (OrderedMap.ofList [("url".toList, .string (path.fileUrl cwd))]).insertAll user.entries

end ComponentFile
