import ComponentFile.Files.Tree

/-!
# The files of a machine

## Main definitions

* `toolNames`, `scriptTools` : the programs that every machine has.
* `toolName?` : the program that a program file is.
* `FileTree.machine` : the file tree of a machine before anything is put into it.
-/

namespace ComponentFile

/-- The place that a path leads to from the root when all its segments are names. -/
def Place.ofString (path : String) : Place :=
  (path.toList.splitOn '/').filterMap FileName.ofText?

/-- The names of the programs that every machine has. -/
def toolNames : List Text :=
  (("[ arch awk base32 base64 basename bash cat chmod cksum cmp comm cp cut dash date dd " ++
    "diff dirname echo env expand expr factor false find fmt fold grep groups head id " ++
    "join link logname ls mawk md5sum mkdir mktemp mv nice nl nohup od paste printenv " ++
    "printf pwd rbash readlink realpath rev rm rmdir sed seq sh sha1sum sha224sum " ++
    "sha256sum sha384sum sha512sum sleep sort split stat stdbuf sum tac tail tee test " ++
    "timeout touch tr true truncate tsort tty uname unexpand uniq unlink wc whoami xargs " ++
    "yes").splitOn " ").map String.toList

/-- The script that finds programs. -/
def whichScript : Text :=
  ("#! /bin/sh\nALLRET=0\nALL=0\n" ++
    "while getopts as whichopts; do case \"$whichopts\" in a) ALL=1;; s) exec >/dev/null;; " ++
    "?) printf 'Usage: %s [-as] args\\n' \"$0\"; exit 2;; esac; done\n" ++
    "shift $(($OPTIND - 1))\n[ $# -eq 0 ] && ALLRET=1\n" ++
    "for PROGRAM in \"$@\"; do RET=1; IFS_SAVE=\"$IFS\"; IFS=:\n" ++
    "case $PROGRAM in */*) [ -f \"$PROGRAM\" ] && [ -x \"$PROGRAM\" ] && " ++
    "\x7b printf '%s\\n' \"$PROGRAM\"; RET=0; \x7d;;\n" ++
    "*) for ELEMENT in $PATH; do [ -z \"$ELEMENT\" ] && ELEMENT=.\n" ++
    "if [ -f \"$ELEMENT/$PROGRAM\" ] && [ -x \"$ELEMENT/$PROGRAM\" ]; then " ++
    "printf '%s/%s\\n' \"$ELEMENT\" \"$PROGRAM\"; RET=0; [ $ALL -eq 0 ] && break; fi; done;;\n" ++
    "esac; IFS=\"$IFS_SAVE\"; [ $RET -ne 0 ] && ALLRET=1\ndone\nexit $ALLRET\n").toList

/-- The programs that every machine has and that are scripts, with their texts. -/
def scriptTools : List (Text × Text) :=
  [("egrep".toList, "#!/bin/sh\nexec grep -E \"$@\"\n".toList),
    ("fgrep".toList, "#!/bin/sh\nexec grep -F \"$@\"\n".toList),
    ("rgrep".toList, "#!/bin/sh\nexec grep -r \"$@\"\n".toList),
    ("which".toList, whichScript)]

/-- What a program file begins with that is no script. -/
def binaryMark : Bytes :=
  Text.encode "\x7fELF".toList

/-- The program file of a tool: it bears the name of the tool. -/
def toolBytes (name : Text) : Bytes :=
  binaryMark ++ Text.encode name

/-- The tool whose program file has some bytes. -/
def toolName? (bytes : Bytes) : Option Text :=
  if binaryMark.isPrefixOf bytes then (Text.decode (bytes.drop binaryMark.length)).toOption
  else none

/-- The directories of these programs, the first of them first to be searched. -/
def toolPlaces : List Place :=
  [Place.ofString "usr/bin", Place.ofString "bin"]

/-- The other directories of a machine. -/
def machinePlaces : List Place :=
  (["usr", "bin", "dev", "etc", "home", "lib", "opt", "proc", "root", "run", "sbin", "srv", "sys",
    "tmp", "usr/bin", "usr/lib", "usr/local", "usr/local/bin", "usr/sbin", "usr/share", "var",
    "var/tmp"]).map Place.ofString

/-- The files that stand for devices. -/
def devicePlaces : List Place :=
  ["dev/null", "dev/zero", "dev/full", "dev/tty", "dev/stdin", "dev/stdout", "dev/stderr",
    "dev/random", "dev/urandom"].map Place.ofString

/-- The file tree of a machine before anything is put into it.  Devices have no bytes. -/
def FileTree.machine : FileTree :=
  let directories := machinePlaces.map fun place => (place, Entry.directory)
  let devices := devicePlaces.map fun place => (place, Entry.file [] false)
  let files := toolNames.map (fun name => (name, toolBytes name)) ++
    scriptTools.map fun tool => (tool.1, Text.encode tool.2)
  let programs := toolPlaces.flatMap fun directory =>
    files.filterMap fun file =>
      (FileName.ofText? file.1).map fun name => (directory ++ [name], Entry.file file.2 true)
  ⟨.ofList (directories ++ devices ++ programs), [], devicePlaces⟩

end ComponentFile
