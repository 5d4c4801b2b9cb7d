import ComponentFile.Process.Job

/-!
# Streams that tools cannot use

A tool whose input or output is not open, or whose output takes nothing, says so and ends with a
code of its own.

## Main definitions

* `Streams.Complaint` : what a tool says of a stream that it cannot use.
* `Streams.checked` : a tool that complains of streams that it cannot use.
-/

namespace ComponentFile.Streams

open Text Tool

/-- What a tool says of a stream that it cannot use: messages before it goes on, whether it goes on
as if nothing came from the stream or went there, messages behind that, and the code it ends
with. -/
structure Complaint where
  before : List Text
  goesOn : Bool
  after : List Text
  code : Nat

/-- A subject with the wording of a fault. -/
def worded (fault : Fault) (subject : String) : Text :=
  Tool.about subject.toList fault

/-- What a tool says of an input that is not open. -/
def Complaint.ofInput (name : String) : Complaint :=
  let bad := worded .badDescriptor
  let only (subject : String) (code : Nat) : Complaint := ⟨[bad subject], false, [], code⟩
  let digest : Complaint := ⟨[bad "-"], false, [bad "standard input"], 1⟩
  match name with
  | "cat" => ⟨[bad "-"], true, [bad "closing standard input"], 1⟩
  | "tac" => ⟨[bad "'standard input': read error"], true, [bad "-"], 1⟩
  | "head" => ⟨[bad "error reading 'standard input'"], true, [bad "-"], 1⟩
  | "tail" => ⟨[bad "cannot fstat 'standard input'"], true, [bad "-"], 1⟩
  | "wc" => ⟨[bad "'standard input'"], true, [bad "-"], 1⟩
  | "tr" => only "read error" 1
  | "sort" => only "stat failed: -" 2
  | "uniq" => only "error reading '-'" 1
  | "comm" => only "-" 1
  | "cmp" => only "-" 2
  | "diff" => only "-" 2
  | "grep" => ⟨[bad "(standard input)"], false, [], 2⟩
  | "sed" => ⟨[bad "read error on stdin"], false, [], 4⟩
  | "awk" => ⟨["read error (Bad file descriptor)".toList], false, [], 2⟩
  | "mawk" => ⟨["read error (Bad file descriptor)".toList], false, [], 2⟩
  | "base64" => only "read error" 1
  | "base32" => only "read error" 1
  | "join" => only "read error" 1
  | "tsort" => only "-: read error" 1
  | "split" => only "-" 1
  | "factor" => only "error reading input" 1
  | "fmt" => ⟨["read error".toList], false, [bad "closing standard input"], 1⟩
  | "dd" => ⟨[bad "error reading 'standard input'"], false,
      [bad "closing input file 'standard input'"], 1⟩
  | "tee" => ⟨[bad "read error"], true, [bad "standard input"], 1⟩
  | "od" => ⟨[bad "'standard input'"], true, [bad "standard input"], 1⟩
  | "xargs" => ⟨[], true, [bad "error closing file"], 1⟩
  | "cksum" => digest
  | "sum" => digest
  | "rev" => ⟨[], true, [], 0⟩
  | _ => if name.endsWith "sum" then digest else ⟨[bad "-"], true, [bad "-"], 1⟩

/-- What a tool says of an output that is not open or takes nothing. -/
def Complaint.ofOutput (name : String) (fault : Fault) : Complaint :=
  let said (t : Text) (code : Nat) : Complaint := ⟨[], true, [t], code⟩
  let plain (code : Nat) : Complaint := said (worded fault "write error") code
  let brief : Complaint := if fault = .noSpace then said "write error".toList 1 else plain 1
  match name with
  | "cat" => if fault = .noSpace then plain 1
    else ⟨[worded fault "standard output"], false, [], 1⟩
  | "tee" => said (worded fault "'standard output'") 1
  | "yes" => said (worded fault "standard output") 1
  | "diff" => said (worded fault "standard output") 2
  | "sort" => ⟨[], true, [worded fault "fflush failed: 'standard output'", "write error".toList], 2⟩
  | "grep" => plain 2
  | "ls" => plain 2
  | "printenv" => plain 2
  | "expr" => plain 3
  | "tty" => plain 3
  | "sed" => said (worded fault
      (if fault = .noSpace then "couldn't flush stdout" else "couldn't close stdout")) 4
  | "dd" => ⟨[], true, worded fault "error writing 'standard output'" ::
      (if fault = .noSpace then [] else [worded fault "closing output file 'standard output'"]), 1⟩
  | "find" => ⟨[], true, [worded fault "'standard output'",
      if fault = .noSpace then "write error".toList else worded fault "write error"], 1⟩
  | "rev" => if fault = .noSpace then plain 1 else said [] 0
  | "wc" => brief
  | "sum" => brief
  | "cksum" => brief
  | _ =>
    if name = "awk" || name = "mawk" then
      said ("close failed on file \"/dev/stdout\" (".toList ++ fault.description.toList ++ [')']) 2
    else if name.endsWith "sum" then brief
    else plain 1

/-- Say something unless there is nothing to say. -/
def tell (messages : List Text) : Tool Unit :=
  messages.forM fun t => if t.isEmpty then pure () else complain t

/-- Whether a tool reads its input. -/
def readsInput (tool : Tool ExitStatus) : Tool Bool := fun job => do
  let w ← get
  let i := w.streams.size
  let trial := { w with streams := w.streams.push (.source ['\n']) }
  let (_, after) := (tool { job with streams := redirect job.streams 0 i }).run trial
  return (Act.rest after i).isEmpty

/-- A tool that complains of an input that is not open. -/
def withInput (name : String) (tool : Tool ExitStatus) : Tool ExitStatus := do
  let job ← read
  if (job.stream? 0).isSome || !(← readsInput tool) then tool
  else
    let complaint := Complaint.ofInput name
    tell complaint.before
    if complaint.goesOn then
      let i ← Act.newStream (.source [])
      let _ ← (tool { job with streams := redirect job.streams 0 i } : Act ExitStatus)
    tell complaint.after
    return .code complaint.code

/-- A tool that complains of an output that is not open or takes nothing, if it has something to
print. -/
def withOutput (name : String) (tool : Tool ExitStatus) : Tool ExitStatus := do
  let job ← read
  match ← outputFault? 1 with
  | none => tool
  | some fault =>
    let complaint := Complaint.ofOutput name fault
    if complaint.goesOn then
      let i ← Act.pipe
      let status ← (tool { job with streams := redirect job.streams 1 i } : Act ExitStatus)
      if (← Act.written i).isEmpty then return status
      else
        tell complaint.after
        return .code complaint.code
    else
      tell complaint.before
      return .code complaint.code

/-- A tool that complains of streams that it cannot use. -/
def checked (name : String) (tool : Tool ExitStatus) : Tool ExitStatus :=
  withOutput name (withInput name tool)

end ComponentFile.Streams
