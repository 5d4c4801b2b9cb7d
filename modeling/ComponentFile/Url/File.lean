import ComponentFile.Path.Basic
import ComponentFile.Url.Basic

/-!
# File URLs

## Main definitions

* `Path.fileUrl` : the file URL of a path.
* `Url.filePath?` : the path of the file that a URL leads to.
-/

namespace ComponentFile

namespace Path

/-- The parts that lead from the root to the path, which is seen from the directory `cwd`. -/
def absoluteParts (p cwd : Path) : List Part :=
  let steps := p.parts.filter fun part => part != .root && part != .current
  if p.isAbsolute then steps else (cwd.parts.filter (· != .root)) ++ steps

/-- The file URL of a path seen from the directory `cwd`.  Steps up are kept.  The empty path has
no place, and its URL nothing but the scheme and two slashes. -/
def fileUrl (p cwd : Path) : Text :=
  if p.text.isEmpty then "file://".toList
  else
    match p.absoluteParts cwd with
    | [] => "file:///".toList
    | steps =>
      "file://".toList ++ steps.flatMap fun part => '/' :: Url.percentEncode part.segment

end Path

namespace Url

/-- The path of the file that a URL leads to: its host has to be this computer and its path a path
of segments.  Bytes that are not UTF-8 are replaced. -/
def filePath? (url : Url) : Option Path :=
  if url.host.isLocal then
    url.segments.map fun segments =>
      ⟨Text.decodeLossy (segments.flatMap fun segment => 0x2F :: percentDecode segment)⟩
  else none

end Url

end ComponentFile
