import ComponentFile.Log
import ComponentFile.Path.Basic
import ComponentFile.Settings.Basic

/-!
# Command line

Arguments are read from left to right.  Switches may be written long or short, short ones may be
joined, and no switch may come twice.

## Main definitions

* `Switch` : what can be said besides the inputs.
* `Arguments` : what a command line says.
* `CommandLine.read` : the meaning of a list of arguments.
-/

namespace ComponentFile

/-- What can be said on the command line besides the inputs. -/
inductive Switch where
  | coffee
  | sass
  | removeBlankLines
  | emptyExport
  | documentDirectives
  | verbose
  | quiet
  | outDirectory
  | config
  | version
  | help
  deriving DecidableEq, Repr

namespace Switch

/-- The switch with a long name. -/
def ofLong? (name : Text) : Option Switch :=
  match String.ofList name with
  | "coffee" => some coffee
  | "sass" => some sass
  | "remove-blank-lines" => some removeBlankLines
  | "empty-export" => some emptyExport
  | "document-directives" => some documentDirectives
  | "verbose" => some verbose
  | "quiet" => some quiet
  | "out-dir" => some outDirectory
  | "config" => some config
  | "version" => some version
  | "help" => some help
  | _ => none

/-- The switch with a short name. -/
def ofShort? : Char → Option Switch
  | 'v' => some verbose
  | 'q' => some quiet
  | 'o' => some outDirectory
  | 'V' => some version
  | 'h' => some help
  | _ => none

/-- Whether a value belongs to a switch. -/
def takesValue : Switch → Bool
  | outDirectory => true
  | config => true
  | _ => false

end Switch

/-- What a command line says. -/
structure Arguments where
  inputs : List Path
  outDirectory : Option Path
  config : Option Path
  switches : List Switch
  deriving DecidableEq, Repr

namespace Arguments

/-- Whether a switch is given. -/
def has (a : Arguments) (s : Switch) : Bool :=
  a.switches.contains s

/-- The least important level of the log that is shown. -/
def threshold (a : Arguments) : Log.Level :=
  if a.has .verbose then .debug else if a.has .quiet then .error else .info

/-- The settings as far as the command line does not change them. -/
def adjust (a : Arguments) (s : Settings) : Settings :=
  { s with
    coffee := { s.coffee with compile := s.coffee.compile || a.has .coffee }
    sass := { s.sass with compile := s.sass.compile || a.has .sass }
    removeBlankLines := s.removeBlankLines || a.has .removeBlankLines
    stubScript := s.stubScript || a.has .emptyExport
    detection := if a.has .documentDirectives then .document else s.detection }

end Arguments

namespace CommandLine

/-- What a command line asks for: a run, the version, or help; or it makes no sense. -/
inductive Request where
  | run (arguments : Arguments)
  | version
  | help
  | misuse
  deriving DecidableEq, Repr

/-- The arguments read so far, and the switch whose value has to come next. -/
structure Reading where
  arguments : Arguments
  waiting : Option Switch

/-- Nothing has been read. -/
def Reading.start : Reading :=
  ⟨⟨[], none, none, []⟩, none⟩

namespace Reading

/-- Take an input. -/
def input (r : Reading) (t : Text) : Except Request Reading :=
  if t.isEmpty then .error .misuse
  else .ok { r with arguments := { r.arguments with inputs := r.arguments.inputs ++ [⟨t⟩] } }

/-- Take a switch, with its value if it has one. -/
def switch (r : Reading) (s : Switch) (value : Option Text) : Except Request Reading :=
  let a := r.arguments
  let noted := { a with switches := s :: a.switches }
  if a.has s then .error .misuse
  else
    match s, value with
    | .version, none => .error .version
    | .help, none => .error .help
    | .outDirectory, some t =>
      if t.isEmpty then .error .misuse
      else .ok ⟨{ noted with outDirectory := some ⟨t⟩ }, none⟩
    | .config, some t =>
      if t.isEmpty then .error .misuse
      else .ok ⟨{ noted with config := some ⟨t⟩ }, none⟩
    | .outDirectory, none => .ok { r with waiting := some s }
    | .config, none => .ok { r with waiting := some s }
    | _, none => .ok ⟨noted, none⟩
    | _, some _ => .error .misuse

/-- Take a switch with its long name, and its value behind an equals sign. -/
def long (r : Reading) (t : Text) : Except Request Reading :=
  let value := match t.dropWhile (· != '=') with
    | [] => none
    | _ :: value => some value
  match Switch.ofLong? (t.takeWhile (· != '=')) with
  | some s => r.switch s value
  | none => .error .misuse

/-- Take switches with short names.  The remainder behind one that takes a value is its value. -/
def short (r : Reading) : Text → Except Request Reading
  | [] => .ok r
  | c :: t =>
    match Switch.ofShort? c with
    | none => .error .misuse
    | some s =>
      if s.takesValue && !t.isEmpty then
        r.switch s (some (if t.head? = some '=' then t.drop 1 else t))
      else
        match r.switch s none with
        | .ok r => short r t
        | .error request => .error request

/-- Take an argument. -/
def argument (r : Reading) (t : Text) : Except Request Reading :=
  match r.waiting, t with
  | some _, '-' :: _ :: _ => .error .misuse
  | some s, _ => r.switch s (some t)
  | none, '-' :: '-' :: name => r.long name
  | none, '-' :: c :: name => r.short (c :: name)
  | none, _ => r.input t

/-- What all arguments ask for.  There has to be an input, and the log cannot be both verbose and
quiet. -/
def finish (r : Reading) : Request :=
  let a := r.arguments
  if r.waiting.isSome || a.inputs.isEmpty || (a.has .verbose && a.has .quiet) then .misuse
  else .run a

end Reading

/-- Take inputs only. -/
def readInputs (r : Reading) : List Text → Request
  | [] => r.finish
  | t :: rest =>
    match r.input t with
    | .ok r => readInputs r rest
    | .error request => request

/-- Go on reading.  Behind two dashes all arguments are inputs. -/
def readFrom (r : Reading) : List Text → Request
  | [] => r.finish
  | t :: rest =>
    if r.waiting.isNone && t = ['-', '-'] then readInputs r rest
    else
      match r.argument t with
      | .ok r => readFrom r rest
      | .error request => request

/-- What a list of arguments asks for. -/
def read (arguments : List Text) : Request :=
  readFrom .start arguments

end CommandLine

end ComponentFile
