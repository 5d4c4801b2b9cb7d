import ComponentFile.Compiler.Failure
import ComponentFile.Settings.Basic
import ComponentFile.Url.File

/-!
# Arguments of the compilers

The compilers for coffee scripts and sass styles are programs that are told by their arguments
what the options say.

## Main definitions

* `coffeeArguments` : the arguments of the script compiler.
* `sassArgumentsFrom` : the arguments of the style compiler, unless the `url` option is no URL.
* `sassArguments` : the same by the reader of URLs that the program has.
-/

namespace ComponentFile

/-- Whether an option is the truth value `b`. -/
def hasFlag (options : Options) (key : String) (b : Bool) : Bool :=
  (options.get? key.toList).bind Json.bool? == some b

/-- An argument that is given only under a condition. -/
def argumentIf (condition : Bool) (argument : String) : List Text :=
  if condition then [argument.toList] else []

/-- The arguments of the script compiler. -/
def coffeeArguments (options : Options) : List Text :=
  ["--stdio".toList, "--print".toList] ++
    argumentIf (hasFlag options "bare" true) "--bare" ++
    argumentIf (!hasFlag options "header" true) "--no-header" ++
    argumentIf (hasFlag options "literate" true) "--literate" ++
    argumentIf (hasFlag options "transpile" true) "--transpile"

/-- The argument that names a directory in which imported styles are looked for. -/
def loadPath (directory : Text) : Text :=
  "--load-path=".toList ++ directory

/-- The directory of the component whose URL is given, if the URL leads to a file in a
directory. -/
def componentDirectory (url : Url) : List Text :=
  ((url.filePath?.bind Path.parent?).map fun directory => loadPath directory.text).toList

/-- The argument for the directory of the component, whose URL is the option `url`. -/
def urlArguments (start : Url.PathStart) (options : Options) :
    Except CompilerFailure (List Text) :=
  match (options.get? "url".toList).bind Json.string? with
  | none => .ok []
  | some t =>
    match Url.parse? start t with
    | none => .error (.invalidUrl t)
    | some url => .ok (componentDirectory url)

/-- The arguments for the directories that the option `loadPaths` lists. -/
def loadPathArguments (options : Options) : List Text :=
  (((options.get? "loadPaths".toList).bind Json.array?).getD []).filterMap fun item =>
    item.string?.map loadPath

/-- The argument for the option `style`. -/
def styleArguments (options : Options) : List Text :=
  (((options.get? "style".toList).bind Json.string?).map fun t =>
    "--style=".toList ++ t).toList

/-- The arguments of the style compiler.  The directory of the component comes before the other
directories. -/
def sassArgumentsFrom (start : Url.PathStart) (options : Options) :
    Except CompilerFailure (List Text) := do
  let own ← urlArguments start options
  return ["--stdin".toList, "--indented".toList, "--no-source-map".toList] ++
    styleArguments options ++
    argumentIf (hasFlag options "charset" false) "--no-charset" ++
    argumentIf (hasFlag options "quietDeps" true) "--quiet-deps" ++
    own ++ loadPathArguments options

/-- The arguments of the style compiler as the program makes them. -/
def sassArguments (options : Options) : Except CompilerFailure (List Text) :=
  sassArgumentsFrom .atSlash options

end ComponentFile
