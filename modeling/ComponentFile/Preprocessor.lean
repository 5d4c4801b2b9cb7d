import ComponentFile.Compiler.Command
import ComponentFile.Compiler.FileOptions
import ComponentFile.Text.Layout

/-!
# Preprocessors

A script in coffee and a style in sass can be compiled on the way into the normal form.  This file
says when that happens and what is handed to the compiler, and it keeps a record of every call.

## Main definitions

* `Preprocessor` : the two languages that can be compiled.
* `scriptStep`, `styleStep` : whether a block is compiled.
* `Event`, `Run` : calls and log records in their order, with a result.
* `Toolchain.process` : a block as it is, or compiled.
-/

namespace ComponentFile

/-- The languages that can be compiled. -/
inductive Preprocessor where
  | coffee
  | sass
  deriving DecidableEq, Repr

/-- The name of a language. -/
def Preprocessor.name : Preprocessor → Text
  | coffee => "coffee".toList
  | sass => "sass".toList

/-- The name of what is done with a block. -/
def stepName : Option Preprocessor → Text
  | some p => p.name
  | none => "passthrough".toList

/-- What is done with a script: it is compiled when it is declared as coffee and the settings ask
for that. -/
def scriptStep (languages : Languages) (settings : Settings) : Option Preprocessor :=
  if settings.coffee.compile && languages.coffee then some .coffee else none

/-- What is done with a style: it is compiled when it is declared as sass and the settings ask for
that. -/
def styleStep (languages : Languages) (settings : Settings) : Option Preprocessor :=
  if settings.sass.compile && languages.style == some .sass then some .sass else none

/-! ### Runs -/

/-- Why a document has no normal form: it is no text, or a block was not compiled. -/
inductive DocumentError where
  | unsupported (path : Path)
  | notCompiled (language : Preprocessor) (path : Path) (failure : CompilerFailure)
  deriving DecidableEq, Repr

namespace DocumentError

/-- The wording of an error. -/
def message : DocumentError → Text
  | unsupported path => path.text ++ ": only UTF-8 text documents are supported".toList
  | notCompiled language path failure =>
    "cannot compile ".toList ++ language.name ++ " in ".toList ++ path.text ++ ": ".toList ++
      failure.message

/-- The wording of an error followed by that of what caused it. -/
def chainMessage : DocumentError → Text
  | unsupported path => (unsupported path).message
  | notCompiled language path failure =>
    (notCompiled language path failure).message ++ ": ".toList ++ failure.chainMessage

end DocumentError

/-- What happens on the way: a record is logged, or a compiler is called. -/
inductive Event where
  | log (record : Log.Record)
  | call (language : Preprocessor) (block : Text) (options : Options)

/-- What happens, in order, and what comes of it. -/
structure Run (α : Type) where
  events : List Event
  result : Except DocumentError α

namespace Run

variable {α β : Type}

/-- A result without events. -/
def done (result : Except DocumentError α) : Run α :=
  ⟨[], result⟩

/-- One run after another.  After an error nothing more happens. -/
def andThen (first : Run α) (next : α → Run β) : Run β :=
  match first.result with
  | .error e => ⟨first.events, .error e⟩
  | .ok a => ⟨first.events ++ (next a).events, (next a).result⟩

/-- A run after an event. -/
def after (event : Event) (run : Run α) : Run α :=
  ⟨event :: run.events, run.result⟩

/-- The records that a run logs. -/
def log (run : Run α) : List Log.Record :=
  run.events.filterMap fun
    | .log record => some record
    | .call _ _ _ => none

end Run

/-! ### Blocks -/

/-- The settings, the compilers they stand for, and the directory from which relative paths are
seen. -/
structure Toolchain where
  settings : Settings
  script : Compiler
  style : Compiler
  directory : Path

/-- The compilers that the settings name, among the programs that can be run. -/
def Toolchain.ofSettings (settings : Settings) (programs : Programs) (directory : Path) :
    Toolchain :=
  ⟨settings, .coffee programs settings.coffee.command, .sass programs settings.sass.command,
    directory⟩

/-- The record of a block that was not compiled. -/
def failureRecord (language : Preprocessor) (path : Path) (failure : CompilerFailure) :
    Log.Record :=
  ⟨.error, "Error compiling ".toList ++ language.name ++ " in ".toList ++ path.text ++
    ": ".toList ++ failure.message⟩

/-- A call of a compiler for a block of the file with the given path. -/
def callCompiler (language : Preprocessor) (compiler : Compiler) (path : Path) (block : Text)
    (options : Options) : Run Text :=
  let reply := compiler block options
  let before := .call language block options :: reply.log.map Event.log
  match reply.result with
  | .ok t => ⟨before, .ok t⟩
  | .error failure =>
    ⟨before ++ [.log (failureRecord language path failure)],
      .error (.notCompiled language path failure)⟩

namespace Toolchain

/-- A block after a step: as it is, or compiled.  Replacements are made in a style before it is
moved to the left margin and compiled. -/
def process (tools : Toolchain) (path relative : Path) (step : Option Preprocessor)
    (block : Text) : Run Text :=
  match step with
  | none => .done (.ok block)
  | some .coffee =>
    callCompiler .coffee tools.script path block
      (scriptOptions path relative tools.settings.coffee.options)
  | some .sass =>
    callCompiler .sass tools.style path
      (Text.dedent (tools.settings.sass.applyReplacements block))
      (styleOptions tools.directory path tools.settings.sass.options)

end Toolchain

end ComponentFile
