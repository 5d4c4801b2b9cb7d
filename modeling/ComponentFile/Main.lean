import ComponentFile.Program
import ComponentFile.Shell.Programs

/-!
# Running on this machine

Files are read before the run, and what the run leaves behind is written afterwards.  Everything in
between is `Machine.run`.
-/

open ComponentFile

namespace ComponentFile.Main

/-- The place that a path from the root names. -/
def placeOf (path : String) : Place :=
  (path.toList.splitOn '/').filterMap FileName.ofText?

/-- The path from the root to a place. -/
def pathOf (place : Place) : String :=
  String.ofList ('/' :: ['/'].intercalate (place.map FileName.text))

/-- The tree with a directory and all directories above it. -/
def putDirectory (tree : FileTree) (place : Place) : FileTree :=
  ((List.range place.length).map fun n => place.take (n + 1)).foldl
    (fun tree outer => tree.put outer .directory) tree

/-- The tree with a file.  A file that names an interpreter is a program. -/
def putFile (tree : FileTree) (place : Place) (bytes : Bytes) : FileTree :=
  (putDirectory tree place.dropLast).put place
    (.file bytes ((Text.encode ['#', '!']).isPrefixOf bytes))

/-- The tree with the directory at a place, and what `list` finds in it.  A directory that cannot be
listed is closed. -/
def putListed (tree : FileTree) (place : Place) (list : IO (Array IO.FS.DirEntry)) :
    IO (FileTree × List IO.FS.DirEntry) := do
  let tree := putDirectory tree place
  try
    return (tree, (← list).toList)
  catch _ =>
    return (tree.close place, [])

/-- The tree with the file at a place, and what `read` finds in it.  A file that cannot be read is
closed. -/
def putRead (tree : FileTree) (place : Place) (read : IO ByteArray) : IO FileTree := do
  try
    return putFile tree place (← read).toList
  catch _ =>
    return (putFile tree place []).close place

/-- Read the files that entries of a directory lead to. -/
partial def readEntries (tree : FileTree) : List IO.FS.DirEntry → IO FileTree
  | [] => return tree
  | entry :: rest => do
    let place := placeOf entry.path.toString
    if ← entry.path.isDir then
      let (outer, entries) ← putListed tree place entry.path.readDir
      let inner ← readEntries outer entries
      readEntries inner rest
    else if ← entry.path.pathExists then
      readEntries (← putRead tree place (IO.FS.readBinFile entry.path)) rest
    else readEntries tree rest

/-- Read the current directory, and the absolute paths among the arguments. -/
def readTree (arguments : List String) : IO FileTree := do
  let current ← IO.currentDir
  let (start, entries) ← putListed FileTree.machine (placeOf current.toString) current.readDir
  let mut tree ← readEntries start entries
  for argument in arguments do
    if argument.startsWith "/" then
      let path := current / argument
      if ← path.isDir then
        let (outer, entries) ← putListed tree (placeOf argument) path.readDir
        tree ← readEntries outer entries
      else if ← path.pathExists then
        tree ← putRead tree (placeOf argument) (IO.FS.readBinFile path)
  return tree

/-- Write what is new or different. -/
def writeTree (before after : FileTree) : IO Unit := do
  for (place, entry) in after.entries.entries do
    if before.entry? place != some entry then
      match entry with
      | .directory => IO.FS.createDirAll (pathOf place)
      | .file bytes _ => IO.FS.writeBinFile (pathOf place) ⟨bytes.toArray⟩

end ComponentFile.Main

open ComponentFile.Main

/-- Run the program. -/
def main (arguments : List String) : IO UInt32 := do
  let tree ← readTree arguments
  let place := placeOf (← IO.currentDir).toString
  let machine : Machine := ⟨tree, Shell.programsIn tree place, place⟩
  let outcome := machine.run (arguments.map String.toList)
  for record in outcome.log do
    IO.eprintln (String.ofList record.text)
  IO.print (String.ofList outcome.output)
  writeTree tree outcome.tree
  match outcome.error with
  | some message =>
    let cause := (outcome.cause.map fun cause => ": ".toList ++ cause).getD []
    IO.eprintln ("error: " ++ String.ofList (message ++ cause))
  | none => pure ()
  return outcome.code.toUInt32
