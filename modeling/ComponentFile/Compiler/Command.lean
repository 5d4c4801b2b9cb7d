import ComponentFile.Compiler.Arguments
import ComponentFile.Log

/-!
# Compilers as commands

A compiler turns a block into plain script or style.  One that is given as a command runs a
program: the block is its input, and its output is the result.

## Main definitions

* `Compiler` : a function from a block and options to a text or a failure, which may run programs.
* `Programs` : the programs that can be run, with what they do.
* `runCommand` : one run of a program.
* `Compiler.coffee`, `Compiler.sass` : the compilers that a command stands for.
-/

namespace ComponentFile

/-- What a compiler answers, and the command lines of the programs that it started. -/
structure Reply where
  commandLines : List Text
  result : Except CompilerFailure Text

/-- The record of a program that is about to start. -/
def runningRecord (commandLine : Text) : Log.Record :=
  ⟨.debug, "running `".toList ++ commandLine ++ "`".toList⟩

/-- What is logged while a compiler works. -/
def Reply.log (reply : Reply) : List Log.Record :=
  reply.commandLines.map runningRecord

/-- A compiler. -/
abbrev Compiler := Text → Options → Reply

/-- What comes of starting a program: nothing, or its output, its messages, its exit status, and
whether it took its whole input. -/
inductive Started where
  | refused (fault : Fault)
  | finished (output messages : Bytes) (status : ExitStatus) (tookInput : Bool)

/-- The programs that can be run: the program that a name stands for, if there is one, as a
function from its arguments and its input. -/
abbrev Programs := Text → Option (List Text → Bytes → Started)

/-- Words with spaces between them. -/
def spaced (words : List Text) : Text :=
  [' '].intercalate words

/-- The text of a command and the arguments behind it. -/
def commandLine (command arguments : List Text) : Text :=
  spaced command ++ ' ' :: spaced arguments

/-- The result of a run.  A bad exit status counts before an input that was not taken, and that
before an output that is not UTF-8. -/
def Started.result (program : Text) : Started → Except CompilerFailure Text
  | refused fault => .error (.refused program fault)
  | finished output messages status tookInput =>
    if !status.isSuccess then
      .error (.failed program status (Text.trim (Text.decodeLossy messages)))
    else if !tookInput then .error (.refused program .brokenPipe)
    else
      match Text.decode output with
      | .ok t => .ok t
      | .error m =>
        .error (.other
          ("`".toList ++ program ++ "` produced non-UTF-8 output: ".toList ++ m.message))

/-- Run a command, which is a program and its first arguments, on an input. -/
def runCommand (programs : Programs) (command arguments : List Text) (input : Text) : Reply :=
  match command with
  | [] => ⟨[], .error (.other "empty compiler command".toList)⟩
  | program :: leading =>
    match programs program with
    | none => ⟨[], .error (.notFound program)⟩
    | some start =>
      ⟨[commandLine command arguments],
        (start (leading ++ arguments) (Text.encode input)).result program⟩

namespace Compiler

/-- The script compiler that a command stands for. -/
def coffee (programs : Programs) (command : List Text) : Compiler := fun block options =>
  runCommand programs command (coffeeArguments options) block

/-- A text without the line ends at its end. -/
def trimLineEnds (t : Text) : Text :=
  (t.reverse.dropWhile (· == '\n')).reverse

/-- The style compiler that a command stands for.  The line ends after the style are dropped. -/
def sass (programs : Programs) (command : List Text) : Compiler := fun block options =>
  match sassArguments options with
  | .error failure => ⟨[], .error failure⟩
  | .ok arguments =>
    let reply := runCommand programs command arguments block
    { reply with result := reply.result.map trimLineEnds }

end Compiler

end ComponentFile
