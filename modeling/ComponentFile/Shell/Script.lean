import ComponentFile.Process.Options
import ComponentFile.Shell.Expansion

/-!
# Running scripts

A script is read and run line by line: what makes no sense in a later line is found only when the
lines before it have been run.

## Main definitions

* `Shell.evaluate` : running a script in a state of the shell.
* `Shell.runAction` : running what a trap asks for.
-/

namespace ComponentFile.Shell

open Text

/-- Warn of here-documents that were cut off. -/
def warnOfCutOff (documents : List OpenDocument) : Sh Unit := do
  let s ← getThe State
  if s.dialect = .extended then
    eachOf (fun (d : OpenDocument) =>
      report (s.label ++ ": line ".toList ++ ofNat d.lastLine ++
        ": warning: here-document at line ".toList ++ ofNat d.line ++
        " delimited by end-of-file (wanted \x60".toList ++ d.mark ++ "')\n".toList))
      documents.reverse

/-- Complain about a script that cannot be read, and leave the built-in command or the shell. -/
def syntaxFault {α : Type} (fault : SyntaxFault) : Sh α := do
  let s ← getThe State
  match s.dialect with
  | .plain =>
    let (line, message) := fault.plainMessage
    let command := match s.command with
      | some c => c ++ ": ".toList
      | none => []
    report (s.prefixOf line ++ command ++ message ++ ['\n'])
  | .extended =>
    warnOfCutOff fault.cutOff
    let origin := if s.origin.isEmpty then [] else s.origin ++ ": ".toList
    eachOf (fun (m : Nat × Text) =>
      report (s.label ++ ": ".toList ++ origin ++ "line ".toList ++ ofNat m.1 ++ ": ".toList ++
        m.2 ++ ['\n'])) fault.extendedMessages
  setStatus 2
  throw (if s.command.isSome then .fault else .exit)

/-- Print the lines that are about to be run, if that is asked for. -/
def showLines (before after : Text) : Sh Unit := do
  if (← getThe State).has "verbose" then report (before.take (before.length - after.length))

/-- Run the commands of a source line by line.  When `last` says so, nothing comes after it. -/
def evaluateFrom (m : Machine) (last : Bool) : Nat → Source → Sh Unit
  | 0, _ => pure ()
  | fuel + 1, source => fun s w =>
    match readLine?.run { source with
        aliases := s.usedAliases, groups := s.has "extglob" } with
    | .error fault => syntaxFault fault s w
    | .ok (none, _) => ((.ok (), s), w)
    | .ok (some c, next) =>
      let isLast := last && next.rest.all fun c => c == ' ' || c == '\n' || c == '\t'
      let run : Sh Unit := do
        showLines source.rest next.rest
        warnOfCutOff (next.cutOff.take (next.cutOff.length - source.cutOff.length))
        let s ← getThe State
        m.run ⟨s.command.isSome && s.tested, isLast && s.origin = "-c".toList⟩ c
      match run s w with
      | ((.ok (), s), w) => evaluateFrom m last fuel next s w
      | ((.error jump, s), w) =>
        match jump with
        | .discard =>
          if s.origin.isEmpty && s.command.isNone && !s.isSubshell && s.frames.isEmpty then
            evaluateFrom m last fuel next s w
          else ((.error jump, s), w)
        | _ => ((.error jump, s), w)

/-- Run a script whose first line has a number. -/
def evaluate (m : Machine) (last : Bool) (line : Nat) (t : Text) : Sh Unit := do
  let s ← getThe State
  evaluateFrom m last (t.length + 2) (Source.ofText s.dialect line t)

/-- Run what a trap asks for.  The status is as before afterwards. -/
def runAction (m : Machine) (action : Text) : Sh Unit := do
  let s ← getThe State
  modifyThe State fun s => { s with origin := "trap".toList }
  evaluate m false (if s.dialect = .plain then 1 else s.line) action
  modifyThe State fun t => { t with status := s.status, origin := s.origin, line := s.line }

/-! ### Built-in commands -/

/-- A built-in command. -/
abbrev Builtin := Machine → List Text → Sh Nat

/-- Complain and give up a built-in command: in the plain language with a fault, and in the extended
one with a status. -/
def failBuiltin {α : Type} (t : Text) (code : Nat) : Sh α := do
  complain t
  setStatus (if (← getThe State).dialect = .plain then 2 else code)
  throw .fault

/-- Whether the plain language is spoken. -/
def isPlain : Sh Bool := do
  return (← getThe State).dialect = .plain

/-- The options at the front of arguments, in which each letter may stand, and the arguments behind
them.  Letters with a colon have a value. -/
def builtinOptions (letters : String) (usage : String) (done : List (Char × Text)) :
    Nat → List Text → Sh (List (Char × Text) × List Text)
  | 0, ws => return (done.reverse, ws)
  | fuel + 1, ws => do
    match ws with
    | ['-', '-'] :: rest => return (done.reverse, rest)
    | ('-' :: c :: t) :: rest =>
      match OptionSet.valuedIn c letters.toList with
      | none =>
        if ← isPlain then failBuiltin ("Illegal option -".toList ++ [c]) 2
        else
          complain (('-' :: [c]) ++ ": invalid option".toList)
          report (usage.toList ++ ['\n'])
          setStatus 2
          throw .fault
      | some .never =>
        if t.isEmpty then builtinOptions letters usage ((c, []) :: done) fuel rest
        else builtinOptions letters usage ((c, []) :: done) fuel (('-' :: t) :: rest)
      | some _ =>
        match t, rest with
        | [], value :: rest => builtinOptions letters usage ((c, value) :: done) fuel rest
        | [], [] =>
          if ← isPlain then failBuiltin ("No arg for -".toList ++ c :: " option".toList) 2
          else failBuiltin ('-' :: c :: ": option requires an argument".toList) 2
        | value, rest => builtinOptions letters usage ((c, value) :: done) fuel rest
    | _ => return (done.reverse, ws)

/-- The options and the other arguments. -/
def options (letters usage : String) (ws : List Text) : Sh (List (Char × Text) × List Text) :=
  builtinOptions letters usage [] (ws.foldl (fun n w => n + w.length + 1) 1) ws

/-- The number that an argument has to be. -/
def demandNat (t : Text) : Sh Nat := do
  match nat? t with
  | some n => return n
  | none =>
    if ← isPlain then failBuiltin ("Illegal number: ".toList ++ t) 2
    else failBuiltin (t ++ ": numeric argument required".toList) 2

end ComponentFile.Shell
