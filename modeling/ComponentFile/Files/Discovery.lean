import ComponentFile.Document
import ComponentFile.Files.Tree

/-!
# Finding component files

Inputs of the program are files and directories.  A directory stands for all component files at
any depth below it, a file for itself.

## Main definitions

* `Input` : a component file, and the directory that its output path is seen from.
* `FileTree.inputsOf` : the component files that one path stands for.
* `FileTree.listFiles` : the component files that several paths stand for, in the order of their
  paths.
* `FileTree.findFiles` : the same, unless a directory cannot be listed.
-/

namespace ComponentFile

/-- A component file, and the directory that its output path is seen from. -/
structure Input where
  path : Path
  base : Path
  deriving DecidableEq, Repr

/-- Whether a path names a component file: its extension is `vue`, in any ASCII case. -/
def Path.isComponent (p : Path) : Bool :=
  p.extension?.any fun ext => Text.lower ext == "vue".toList

/-- The path that goes on through the given names. -/
def Path.descend (p : Path) (names : List FileName) : Path :=
  names.foldl (fun q name => q.join ⟨name.text⟩) p

namespace FileTree

/-- The names that lead from the place `start` to `place`, if that lies below. -/
def below? (start place : Place) : Option (List FileName) :=
  if start.isPrefixOf place then
    match place.drop start.length with
    | [] => none
    | names => some names
  else none

/-- The files below a place, by the names that lead to them from there. -/
def filesBelow (tree : FileTree) (start : Place) : List (List FileName) :=
  tree.entries.entries.filterMap fun
    | (place, .file _ _) => below? start place
    | (_, .directory) => none

/-- The component files that one path stands for.  A regular file stands for itself whatever its
extension, a device and a path that leads nowhere stand for nothing, and a file below a directory is
not found if its path is too long to be followed. -/
def inputsOf (tree : FileTree) (cwd : Place) (p : Path) : List Input :=
  match tree.follow cwd p with
  | .error _ => []
  | .ok place =>
    match tree.entry? place with
    | none => []
    | some (.file _ _) =>
      if tree.devices.contains place then [] else [⟨p, p.parent?.getD ⟨[]⟩⟩]
    | some .directory =>
      ((tree.filesBelow place).map fun names => ⟨p.descend names, p⟩).filter fun input =>
        tree.isFile cwd input.path && input.path.isComponent

/-- The component files that several paths stand for, in the order of their paths. -/
def listFiles (tree : FileTree) (cwd : Place) (paths : List Path) : List Input :=
  (paths.flatMap (tree.inputsOf cwd)).mergeSort fun a b => a.path.le b.path

/-- Whether all directories can be listed that a walk from a path comes to: no closed one is among
them. -/
def isListable (tree : FileTree) (cwd : Place) (p : Path) : Bool :=
  match tree.follow cwd p with
  | .error _ => true
  | .ok place =>
    tree.closed.all fun shut =>
      !(place.isPrefixOf shut && tree.isDirectory cwd (p.descend (shut.drop place.length)))

/-- The component files that several paths stand for, in the order of their paths, unless a
directory refuses to be listed. -/
def findFiles (tree : FileTree) (cwd : Place) (paths : List Path) : Except Fault (List Input) :=
  if paths.all (tree.isListable cwd) then .ok (tree.listFiles cwd paths)
  else .error .permissionDenied

/-- The document that an input names. -/
def readDocument (tree : FileTree) (cwd : Place) (input : Input) : Except Fault Document :=
  match tree.read cwd input.path with
  | .ok bytes => .ok ⟨input.path, input.base, .ofBytes bytes⟩
  | .error fault => .error fault

end FileTree

end ComponentFile
