import ComponentFile.Files.Machine
import ComponentFile.Text.Octets

/-!
# Streams and files of running programs

Programs run one after the other.  What they share is a world: the file tree, and the streams that
are open, each known by its number.  A pipe is a sink while it is filled and a source afterwards.

## Main definitions

* `Stream`, `World`, `Act` : streams, the world, and what changes it.
* `Act.read`, `Act.readBlock`, `Act.readLine`, `Act.write` : using a stream.
* `Act.openFile`, `Act.pipe`, `Act.drain` : new streams, and what has been written to a pipe.
-/

namespace ComponentFile

/-- What an open file is used for. -/
structure Access where
  reads : Bool
  writes : Bool
  appends : Bool
  deriving DecidableEq, Repr

/-- An open stream: one that is always empty, one that takes nothing, one that is read, one that is
written to, in pieces with the last one first, or a file with the position of the next byte. -/
inductive Stream where
  | nothing
  | full
  | source (rest : Text)
  | sink (pieces : List Text)
  | file (place : Place) (position : Nat) (access : Access)

/-- What running programs share. -/
structure World where
  tree : FileTree
  streams : Array Stream
  nextProcess : Nat

/-- Something that a program does. -/
abbrev Act := StateM World

namespace World

/-- The stream with a number. -/
def stream (w : World) (i : Nat) : Stream :=
  w.streams[i]?.getD .nothing

/-- Put a stream in the place of the one with a number. -/
def setStream (w : World) (i : Nat) (s : Stream) : World :=
  { w with streams := w.streams.setIfInBounds i s }

/-- The octets of the file at a place. -/
def octetsAt (w : World) (place : Place) : Text :=
  match w.tree.entry? place with
  | some (.file bytes _) => Text.ofBytes bytes
  | _ => []

/-- Put octets into the file at a place.  A program stays a program. -/
def setOctets (w : World) (place : Place) (t : Text) : World :=
  let isProgram := match w.tree.entry? place with
    | some (.file _ isProgram) => isProgram
    | _ => false
  { w with tree := w.tree.put place (.file (Text.toBytes t) isProgram) }

end World

namespace Act

/-! ### Reading -/

/-- What can still be read from a stream, all of it. -/
def rest (w : World) (i : Nat) : Text :=
  match w.stream i with
  | .source t => t
  | .file place position access => if access.reads then (w.octetsAt place).drop position else []
  | _ => []

/-- Take octets away from a stream that have been read: `left` stays, after `count` octets. -/
def advance (i : Nat) (count : Nat) (left : Text) : Act Unit :=
  modify fun w =>
    match w.stream i with
    | .source _ => w.setStream i (.source left)
    | .file place position access => w.setStream i (.file place (position + count) access)
    | _ => w

/-- Read everything. -/
def read (i : Nat) : Act Text := do
  let t := rest (← get) i
  advance i t.length []
  return t

/-- Read at most `n` octets. -/
def readBlock (i : Nat) (n : Nat) : Act Text := do
  let t := rest (← get) i
  let block := t.take n
  advance i block.length (t.drop n)
  return block

/-- Read a line, with the character that ends it. -/
def readLine (i : Nat) (stop : Char) : Act Text := do
  let (line, left) := Text.through stop (rest (← get) i)
  advance i line.length left
  return line

/-! ### Writing -/

/-- Write to a stream; false when it cannot be written to. -/
def write (i : Nat) (t : Text) : Act Bool := do
  let w ← get
  match w.stream i with
  | .nothing => return true
  | .full => return false
  | .source _ => return false
  | .sink pieces =>
    set (w.setStream i (.sink (t :: pieces)))
    return true
  | .file place position access =>
    if access.writes then
      let old := w.octetsAt place
      let start := if access.appends then old.length else position
      let gap := List.replicate (start - old.length) '\x00'
      let new := old.take start ++ gap ++ t ++ old.drop (start + t.length)
      set ((w.setOctets place new).setStream i (.file place (start + t.length) access))
      return true
    else return false

/-- The fault with which a stream cannot be written to. -/
def writeFault? (i : Nat) : Act (Option Fault) := do
  match (← get).stream i with
  | .full => return some .noSpace
  | .source _ => return some .badDescriptor
  | .file _ _ access => return if access.writes then none else some .badDescriptor
  | _ => return none

/-! ### Opening -/

/-- A new stream. -/
def newStream (s : Stream) : Act Nat :=
  modifyGet fun w => (w.streams.size, { w with streams := w.streams.push s })

/-- A new pipe, to be filled. -/
def pipe : Act Nat :=
  newStream (.sink [])

/-- Everything that has been written to a pipe. -/
def written (i : Nat) : Act Text := do
  match (← get).stream i with
  | .sink pieces => return pieces.reverse.flatten
  | _ => return []

/-- Turn a pipe around: what has been written to it can be read from now on. -/
def turn (i : Nat) : Act Unit := do
  let t ← written i
  modify fun w => w.setStream i (.source t)

/-- How a file is opened: to be read, to be written from its start or to its end, or both to be
read and to be written. -/
inductive Opening where
  | reading
  | writing
  | creating
  | appending
  | updating
  deriving DecidableEq, Repr

/-- Whether a file that is opened is to be read. -/
def Opening.reads : Opening → Bool
  | reading | updating => true
  | writing | creating | appending => false

/-- The file that takes everything and gives nothing. -/
def nullPlace : Place := Place.ofString "dev/null"

/-- The file that takes nothing. -/
def fullPlace : Place := Place.ofString "dev/full"

/-- The terminal, which there is not. -/
def terminalPlace : Place := Place.ofString "dev/tty"

/-- The files that give zeros without end, of which a program gets more than it asks for. -/
def zeroPlaces : List Place :=
  ["dev/zero", "dev/full", "dev/urandom", "dev/random"].map Place.ofString

/-- The number of zeros that stand for zeros without end. -/
def manyZeros : Nat := 2000000

/-- Open a file that a path leads to, seen from a directory. -/
def openFile (cwd : Place) (path : Path) (opening : Opening) : Act (Except Fault Nat) := do
  let w ← get
  match w.tree.follow cwd path with
  | .error fault => return .error fault
  | .ok place =>
    if place = nullPlace then return .ok (← newStream .nothing)
    else if place = terminalPlace then return .error .noDevice
    else if place = fullPlace && opening != .reading then return .ok (← newStream .full)
    else if opening.reads && (w.tree.entry? place).isSome && w.tree.closed.contains place then
      return .error .permissionDenied
    else
      let create (access : Access) (truncate : Bool) : Act (Except Fault Nat) := do
        match if truncate || (w.tree.entry? place).isNone then w.tree.write cwd path []
          else if w.tree.entry? place = some .directory then .error .isADirectory
          else .ok w.tree with
        | .error fault => return .error fault
        | .ok tree =>
          set { w with tree := tree }
          return .ok (← newStream (.file place 0 access))
      match opening with
      | .reading =>
        match w.tree.entry? place with
        | none => return .error .notFound
        | some .directory => return .ok (← newStream (.file place 0 ⟨true, false, false⟩))
        | some (.file [] _) =>
          let zeros := if zeroPlaces.contains place then List.replicate manyZeros '\x00' else []
          return .ok (← newStream (.source zeros))
        | some (.file bytes _) => return .ok (← newStream (.source (Text.ofBytes bytes)))
      | .writing => create ⟨false, true, false⟩ true
      | .creating =>
        if (w.tree.entry? place).isSome then return .error .fileExists
        else create ⟨false, true, false⟩ true
      | .appending => create ⟨false, true, true⟩ false
      | .updating => create ⟨true, true, false⟩ false

/-- Whether a stream is a directory, which is opened but not read. -/
def isDirectory (i : Nat) : Act Bool := do
  let w ← get
  match w.stream i with
  | .file place _ _ => return w.tree.entry? place = some .directory
  | _ => return false

/-- A number for a new process. -/
def newProcess : Act Nat :=
  modifyGet fun w => (w.nextProcess, { w with nextProcess := w.nextProcess + 1 })

end Act

end ComponentFile
