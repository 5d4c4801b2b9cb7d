import ComponentFile.Text.Basic

/-!
# Faults of the operating system

## Main definitions

* `Fault` : why the operating system refused something.
* `Fault.message` : its wording.
-/

namespace ComponentFile

/-- Why the operating system refused something. -/
inductive Fault where
  | notFound
  | noDevice
  | argumentsTooLong
  | badFormat
  | badDescriptor
  | permissionDenied
  | fileExists
  | notADirectory
  | isADirectory
  | noSpace
  | brokenPipe
  | nameTooLong
  | notEmpty
  | tooManyLinks
  | zeroCharacter
  deriving DecidableEq, Repr

namespace Fault

/-- The number of a fault.  A name or an argument with the character zero is refused without one,
because it cannot be asked for at all. -/
def number? : Fault → Option Nat
  | notFound => some 2
  | noDevice => some 6
  | argumentsTooLong => some 7
  | badFormat => some 8
  | badDescriptor => some 9
  | permissionDenied => some 13
  | fileExists => some 17
  | notADirectory => some 20
  | isADirectory => some 21
  | noSpace => some 28
  | brokenPipe => some 32
  | nameTooLong => some 36
  | notEmpty => some 39
  | tooManyLinks => some 40
  | zeroCharacter => none

/-- What a fault says. -/
def description : Fault → String
  | notFound => "No such file or directory"
  | noDevice => "No such device or address"
  | argumentsTooLong => "Argument list too long"
  | badFormat => "Exec format error"
  | badDescriptor => "Bad file descriptor"
  | permissionDenied => "Permission denied"
  | fileExists => "File exists"
  | notADirectory => "Not a directory"
  | isADirectory => "Is a directory"
  | noSpace => "No space left on device"
  | brokenPipe => "Broken pipe"
  | nameTooLong => "File name too long"
  | notEmpty => "Directory not empty"
  | tooManyLinks => "Too many levels of symbolic links"
  | zeroCharacter => "nul byte found in provided data"

/-- The wording of a fault. -/
def message (f : Fault) : Text :=
  f.description.toList ++
    match f.number? with
    | some n => " (os error ".toList ++ (toString n).toList ++ [')']
    | none => []

end Fault

end ComponentFile
