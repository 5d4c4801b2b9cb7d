import ComponentFile.Files.Fault

/-!
# Failures of a compiler

## Main definitions

* `ExitStatus` : how a program ended.
* `CompilerFailure` : why a block was not compiled.
* `CompilerFailure.message` : its wording.
-/

namespace ComponentFile

/-- How a program ended: with a code, or by a signal. -/
inductive ExitStatus where
  | code (n : Nat)
  | signal (n : Nat)
  deriving DecidableEq, Repr

namespace ExitStatus

/-- Whether a program ended well. -/
def isSuccess (s : ExitStatus) : Bool :=
  s == code 0

/-- The names of the signals, which are numbered from 1. -/
def signalNames : List String :=
  ["HUP", "INT", "QUIT", "ILL", "TRAP", "ABRT", "BUS", "FPE", "KILL", "USR1", "SEGV", "USR2",
    "PIPE", "ALRM", "TERM", "STKFLT", "CHLD", "CONT", "STOP", "TSTP", "TTIN", "TTOU", "URG",
    "XCPU", "XFSZ", "VTALRM", "PROF", "WINCH", "IO", "PWR", "SYS"]

/-- The name of a signal. -/
def signalName? (n : Nat) : Option String :=
  if n = 0 then none else signalNames[n - 1]?

/-- The wording of an exit status. -/
def message : ExitStatus → Text
  | code n => "exit status: ".toList ++ (toString n).toList
  | signal n =>
    "signal: ".toList ++ (toString n).toList ++
      match signalName? n with
      | some name => " (SIG".toList ++ name.toList ++ [')']
      | none => []

end ExitStatus

/-- Why a block was not compiled: the program is missing, it could not be run, it ended badly, the
place of the component is no URL, or anything else. -/
inductive CompilerFailure where
  | notFound (program : Text)
  | refused (program : Text) (fault : Fault)
  | failed (program : Text) (status : ExitStatus) (stderr : Text)
  | invalidUrl (url : Text)
  | other (message : Text)
  deriving DecidableEq, Repr

namespace CompilerFailure

/-- The wording of a failure. -/
def message : CompilerFailure → Text
  | notFound program => "`".toList ++ program ++ "` not found in PATH".toList
  | refused program fault =>
    "failed to run `".toList ++ program ++ "`: ".toList ++ fault.message
  | failed program status stderr =>
    "`".toList ++ program ++ "` exited with ".toList ++ status.message ++ ": ".toList ++ stderr
  | invalidUrl url => "invalid file URL `".toList ++ url ++ "`".toList
  | other message => message

/-- The wording of a failure followed by that of what caused it. -/
def chainMessage : CompilerFailure → Text
  | refused program fault => (refused program fault).message ++ ": ".toList ++ fault.message
  | failure => failure.message

end CompilerFailure

end ComponentFile
