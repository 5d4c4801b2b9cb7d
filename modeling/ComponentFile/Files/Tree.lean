import ComponentFile.Dict
import ComponentFile.Files.Fault
import ComponentFile.Path.Name
import ComponentFile.Text.Utf8

/-!
# File trees

A file tree holds directories and files by the names that lead to them from the root.  Paths are
followed step by step, and each step but the last must lead to a directory.

## Main definitions

* `FileName`, `Entry`, `FileTree` : names, what they lead to, and all of it.
* `FileTree.follow` : where a path leads, seen from a directory.
* `FileTree.isDirectory`, `isFile`, `read` : asking about a path.
* `FileTree.makeDirectories`, `write` : changing what is at a path.
* `Attempt` : what is left of a tree after changes that may have been stopped on the way.
-/

namespace ComponentFile

/-- Whether a text can be the name of a file: a path segment that is a name. -/
def isFileName (t : Text) : Bool :=
  Path.Part.ofSegment? t == some (.name t) && t.all (· != '/')

/-- The name of a file or a directory. -/
structure FileName where
  text : Text
  valid : isFileName text = true
  deriving DecidableEq

/-- The name that a text is. -/
def FileName.ofText? (t : Text) : Option FileName :=
  if h : isFileName t = true then some ⟨t, h⟩ else none

/-- A place in a file tree: the names that lead there from the root. -/
abbrev Place := List FileName

/-- What is at a place: a directory, or a file with its bytes, which may be a program. -/
inductive Entry where
  | directory
  | file (bytes : Bytes) (isProgram : Bool)
  deriving DecidableEq, Repr

/-- Directories and files by their places.  The root is always a directory.  What is closed cannot
be opened for reading: a closed directory is not listed, but what is in it can be reached by its
name, and a closed file can be written to.  Devices stand among the files, but they are no regular
files. -/
structure FileTree where
  entries : OrderedMap Place Entry
  closed : List Place
  devices : List Place

/-- What an attempt to change a tree leaves behind: the tree, and the problem that stopped it, if
there was one.  What was changed before that stays changed. -/
structure Attempt (ε : Type) where
  tree : FileTree
  problem? : Option ε

namespace Attempt

variable {ε δ : Type}

/-- A single change of a tree, which is made or refused as a whole. -/
def ofResult (tree : FileTree) : Except ε FileTree → Attempt ε
  | .ok changed => ⟨changed, none⟩
  | .error e => ⟨tree, some e⟩

/-- One attempt after another, unless a problem has stopped the first one. -/
def andThen (first : Attempt ε) (next : FileTree → Attempt ε) : Attempt ε :=
  match first.problem? with
  | none => next first.tree
  | some _ => first

/-- An attempt whose problem is seen as another one. -/
def mapProblem (f : ε → δ) (attempt : Attempt ε) : Attempt δ :=
  ⟨attempt.tree, attempt.problem?.map f⟩

end Attempt

namespace FileTree

/-- The tree with the root only. -/
def empty : FileTree := ⟨∅, [], []⟩

/-- What is at a place. -/
def entry? (tree : FileTree) (place : Place) : Option Entry :=
  if place.isEmpty then some .directory else tree.entries.get? place

/-- Put an entry at a place. -/
def put (tree : FileTree) (place : Place) (entry : Entry) : FileTree :=
  { tree with entries := tree.entries.insert place entry }

/-- Close the directory or the file at a place. -/
def close (tree : FileTree) (place : Place) : FileTree :=
  { tree with closed := place :: tree.closed }

/-! ### Following paths -/

/-- The greatest number of bytes in a file name. -/
def maxNameLength : Nat := 255

/-- The greatest number of bytes in a path. -/
def maxPathLength : Nat := 4095

/-- Where segments lead from a place.  Every segment, also one that makes no step, needs a
directory to start from. -/
def followSegments (tree : FileTree) (place : Place) : List Text → Except Fault Place
  | [] => .ok place
  | segment :: rest =>
    match tree.entry? place with
    | none => .error .notFound
    | some (.file _ _) => .error .notADirectory
    | some .directory =>
      match FileName.ofText? segment with
      | some name =>
        if Text.byteLength segment > maxNameLength then .error .nameTooLong
        else followSegments tree (place ++ [name]) rest
      | none =>
        if segment = ['.', '.'] then followSegments tree place.dropLast rest
        else followSegments tree place rest

/-- Where a path leads, seen from the directory `cwd`.  The empty path leads nowhere. -/
def follow (tree : FileTree) (cwd : Place) (p : Path) : Except Fault Place :=
  if p.text.isEmpty then .error .notFound
  else if Text.byteLength p.text > maxPathLength then .error .nameTooLong
  else tree.followSegments (if p.isAbsolute then [] else cwd) p.segments

/-- What a path leads to. -/
def lookup (tree : FileTree) (cwd : Place) (p : Path) : Except Fault Entry :=
  match tree.follow cwd p with
  | .error fault => .error fault
  | .ok place =>
    match tree.entry? place with
    | some entry => .ok entry
    | none => .error .notFound

/-- Whether a path leads to a directory. -/
def isDirectory (tree : FileTree) (cwd : Place) (p : Path) : Bool :=
  match tree.lookup cwd p with
  | .ok .directory => true
  | _ => false

/-- Whether a path leads to a regular file. -/
def isFile (tree : FileTree) (cwd : Place) (p : Path) : Bool :=
  match tree.follow cwd p with
  | .error _ => false
  | .ok place =>
    match tree.entry? place with
    | some (.file _ _) => !tree.devices.contains place
    | _ => false

/-- The bytes of the file that a path leads to, unless it cannot be opened for reading. -/
def read (tree : FileTree) (cwd : Place) (p : Path) : Except Fault Bytes :=
  match tree.follow cwd p with
  | .error fault => .error fault
  | .ok place =>
    match tree.entry? place with
    | none => .error .notFound
    | some entry =>
      if tree.closed.contains place then .error .permissionDenied
      else
        match entry with
        | .directory => .error .isADirectory
        | .file bytes _ => .ok bytes

/-! ### Changing the tree -/

/-- The place of the directory that shows the processes.  Nothing can be made in it. -/
def processPlace : Place :=
  (FileName.ofText? "proc".toList).toList

/-- Make one directory, in a directory that is there. -/
def makeDirectory (tree : FileTree) (cwd : Place) (p : Path) : Except Fault FileTree :=
  match tree.follow cwd p with
  | .error fault => .error fault
  | .ok place =>
    match tree.entry? place with
    | some _ => .error .fileExists
    | none =>
      if processPlace.isPrefixOf place then .error .notFound else .ok (tree.put place .directory)

/-- Make one directory, or find that it is there already. -/
def ensureDirectory (tree : FileTree) (cwd : Place) (p : Path) : Except Fault FileTree :=
  match tree.makeDirectory cwd p with
  | .ok tree => .ok tree
  | .error fault => if tree.isDirectory cwd p then .ok tree else .error fault

/-- Make the directory of a path after those above it, which are at most `above` in number.
Directories that were made stay when one below them is refused. -/
def makeDirectoriesBelow (cwd : Place) : Nat → FileTree → Path → Attempt Fault
  | 0, tree, p => .ofResult tree (tree.ensureDirectory cwd p)
  | above + 1, tree, p =>
    if p.text.isEmpty then ⟨tree, none⟩
    else
      match tree.ensureDirectory cwd p with
      | .ok made => ⟨made, none⟩
      | .error .notFound =>
        match p.parent? with
        | none => ⟨tree, some .notFound⟩
        | some outer =>
          (makeDirectoriesBelow cwd above tree outer).andThen fun tree =>
            .ofResult tree (tree.ensureDirectory cwd p)
      | .error fault => ⟨tree, some fault⟩

/-- Make the directory of a path and all directories on the way to it. -/
def makeDirectories (tree : FileTree) (cwd : Place) (p : Path) : Attempt Fault :=
  makeDirectoriesBelow cwd (p.parts.length + 1) tree p

/-- Write a file in a directory that is there.  A file that was there before stays a program if it
was one. -/
def write (tree : FileTree) (cwd : Place) (p : Path) (bytes : Bytes) : Except Fault FileTree :=
  match tree.follow cwd p with
  | .error fault => .error fault
  | .ok place =>
    match tree.entry? place with
    | some .directory => .error .isADirectory
    | some (.file _ isProgram) => .ok (tree.put place (.file bytes isProgram))
    | none =>
      if processPlace.isPrefixOf place then .error .notFound
      else .ok (tree.put place (.file bytes false))

/-! ### Contents of directories -/

/-- The names in the directory at a place; none if it is closed. -/
def namesIn (tree : FileTree) (place : Place) : List FileName :=
  if tree.closed.contains place then []
  else
    tree.entries.entries.filterMap fun entry =>
      if place.isPrefixOf entry.1 && entry.1.length = place.length + 1 then entry.1.getLast?
      else none

/-- Take away what is at a place, with everything below it. -/
def erase (tree : FileTree) (place : Place) : FileTree :=
  let isKept (other : Place) : Bool := !place.isPrefixOf other
  ⟨tree.entries.filterKeys isKept, tree.closed.filter isKept, tree.devices.filter isKept⟩

end FileTree

end ComponentFile
