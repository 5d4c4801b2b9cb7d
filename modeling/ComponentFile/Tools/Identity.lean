import ComponentFile.Tools.Files

/-!
# Who runs programs, and where

## Main definitions

* `Tools.id`, `Tools.whoami`, `Tools.groups`, `Tools.logname`, `Tools.tty` : the user.
* `Tools.uname`, `Tools.arch` : the machine.
* `Tools.stat` : what is known about files.
* `Tools.link`, `Tools.unlink` : one more name for a file, and one fewer.
-/

namespace ComponentFile

open Text Tool Tools

namespace Identity

/-- The name of the user. -/
def user : Text := "root".toList

/-- The user and its group in full. -/
def full : Text := "uid=0(root) gid=0(root) groups=0(root)".toList

/-- The name of the machine's processor. -/
def processor : Text := "x86_64".toList

end Identity

/-- Print who runs the program. -/
def Tools.id : Tool Nat :=
  withOptions ⟨"agGnruz", [("user", 'u', .never), ("group", 'g', .never), ("groups", 'G', .never),
    ("name", 'n', .never), ("real", 'r', .never), ("zero", 'z', .never)], true⟩ 1
    fun options operands => do
    let has := given options
    let isShort := has 'u' || has 'g' || has 'G'
    if has 'n' && !isShort then
      fail "cannot print only names or real IDs in default format".toList 1
    else if has 'u' && has 'g' || has 'u' && has 'G' || has 'g' && has 'G' then
      fail "cannot print \"only\" of more than one choice".toList 1
    else
      let shown := if !isShort then Identity.full else if has 'n' then Identity.user else ['0']
      (if operands.isEmpty then [Identity.user] else operands).foldlM (fun code name => do
        if name = Identity.user || name = ['0'] then
          say (shown ++ ['\n'])
          return code
        else fail (quotedPlain name ++ ": no such user".toList) 1) 0

/-- Print the name of the user. -/
def Tools.whoami : Tool Nat :=
  withOptions ⟨"", [], true⟩ 1 fun _ operands => do
    match operands with
    | extra :: _ => extraOperand extra
    | [] =>
      say (Identity.user ++ ['\n'])
      return 0

/-- Print the groups of users. -/
def Tools.groups : Tool Nat :=
  withOptions ⟨"", [], true⟩ 1 fun _ operands => do
    if operands.isEmpty then
      say (Identity.user ++ ['\n'])
      return 0
    else
      operands.foldlM (fun code name => do
        if name = Identity.user then
          say (name ++ " : root\n".toList)
          return code
        else fail (quotedPlain name ++ ": no such user".toList) 1) 0

/-- Nobody has logged in. -/
def Tools.logname : Tool Nat :=
  withOptions ⟨"", [], true⟩ 1 fun _ operands => do
    match operands with
    | extra :: _ => extraOperand extra
    | [] => fail "no login name".toList 1

/-- The input is no terminal. -/
def Tools.tty : Tool Nat :=
  withOptions ⟨"s", [("silent", 's', .never), ("quiet", 's', .never)], true⟩ 2
    fun options operands => do
    match operands with
    | extra :: _ => misuse ("extra operand ".toList ++ quotedPlain extra) 2
    | [] =>
      if !given options 's' then say "not a tty\n".toList
      return 1

/-- Print what the machine is. -/
def Tools.uname : Tool Nat :=
  withOptions ⟨"mps", [("kernel-name", 's', .never), ("machine", 'm', .never),
    ("processor", 'p', .never)], true⟩ 1 fun options operands => do
    match operands with
    | extra :: _ => extraOperand extra
    | [] =>
      let system := if given options 's' || options.isEmpty then ["Linux".toList] else []
      let parts := ['m', 'p'].filterMap fun c =>
        if given options c then some Identity.processor else none
      say (spacedWords (system ++ parts) ++ ['\n'])
      return 0

/-- Print the name of the processor. -/
def Tools.arch : Tool Nat :=
  withOptions ⟨"", [], true⟩ 1 fun _ operands => do
    match operands with
    | extra :: _ => extraOperand extra
    | [] =>
      say (Identity.processor ++ ['\n'])
      return 0

/-! ### Files -/

namespace Stat

/-- The number of octets in a file. -/
def sizeOf : Entry → Nat
  | .file bytes _ => bytes.length
  | .directory => 4096

/-- What a file is. -/
def kindOf : Entry → String
  | .file [] _ => "regular empty file"
  | .file _ _ => "regular file"
  | .directory => "directory"

/-- Who may do what with a file, in octal digits and in letters. -/
def modeOf : Entry → String × String
  | .file _ false => ("644", "-rw-r--r--")
  | .file _ true => ("755", "-rwxr-xr-x")
  | .directory => ("755", "drwxr-xr-x")

/-- A text with what directives stand for, and with escapes if they count. -/
def formatted (escapes : Bool) (name : Text) (entry : Entry) (links : Nat) : Text → Text
  | '%' :: c :: t =>
    (match c with
      | 's' => ofNat (sizeOf entry)
      | 'n' => name
      | 'N' => quotedPlain name
      | 'F' => (kindOf entry).toList
      | 'a' => (modeOf entry).1.toList
      | 'A' => (modeOf entry).2.toList
      | 'U' => Identity.user
      | 'G' => Identity.user
      | 'u' => ['0']
      | 'g' => ['0']
      | 'h' => ofNat links
      | '%' => ['%']
      | _ => ['?']) ++ formatted escapes name entry links t
  | '\\' :: c :: t =>
    (if !escapes then ['\\', c]
      else match c with
        | 'n' => ['\n']
        | 't' => ['\t']
        | '\\' => ['\\']
        | c => ['\\', c]) ++ formatted escapes name entry links t
  | c :: t => c :: formatted escapes name entry links t
  | [] => []

end Stat

/-- Print what is known about files. -/
def Tools.stat : Tool Nat :=
  withOptions ⟨"c:fLt", [("format", 'c', .always), ("printf", 'p', .always)], true⟩ 1
    fun options operands => do
    if operands.isEmpty then missingOperand
    else
      let last := options.reverse.find? fun o => o.1 = 'c' || o.1 = 'p'
      let (escapes, format) := match last with
        | some ('p', t) => (true, t)
        | some (_, t) => (false, t ++ ['\n'])
        | none => (true, "  File: %n\\n  Size: %s\\n".toList)
      forOperands operands (fun name => do
        match ← lookup name with
        | .error fault => return some (cannot "statx".toList name fault)
        | .ok entry =>
          let tree ← tree
          let place := (tree.follow (← read).place (pathOf name)).toOption.getD []
          let directories := (tree.namesIn place).filter fun n =>
            tree.entry? (place ++ [n]) = some .directory
          let links := if entry = .directory then directories.length + 2 else 1
          say (Stat.formatted escapes name entry links format)
          return none) 1

/-- Give a file one more name. -/
def Tools.link : Tool Nat :=
  withOptions ⟨"", [], true⟩ 1 fun _ operands => do
    match operands with
    | [] => missingOperand
    | [one] => misuse ("missing operand after ".toList ++ quotedPlain one) 1
    | _ :: _ :: extra :: _ => extraOperand extra
    | [a, b] =>
      let refused (fault : Fault) : Tool Nat :=
        fail ("cannot create link ".toList ++ quotedPlain b ++ " to ".toList ++
          about (quotedPlain a) fault) 1
      match ← contents a, ← lookup b with
      | .error fault, _ => refused fault
      | .ok _, .ok _ => refused .fileExists
      | .ok t, .error _ =>
        match ← writeFile b t with
        | .ok () => return 0
        | .error fault => refused fault

/-- Take a name of a file away. -/
def Tools.unlink : Tool Nat :=
  withOptions ⟨"", [], true⟩ 1 fun _ operands => do
    match operands with
    | [] => missingOperand
    | _ :: extra :: _ => extraOperand extra
    | [name] =>
      let refused (fault : Fault) : Tool Nat := fail (cannot "unlink".toList name fault) 1
      let cwd := (← read).place
      match ← lookup name, (← tree).follow cwd (pathOf name) with
      | .error fault, _ => refused fault
      | _, .error fault => refused fault
      | .ok .directory, _ => refused .isADirectory
      | .ok _, .ok place =>
        modifyThe World fun w => { w with tree := w.tree.erase place }
        return 0

end ComponentFile
