import ComponentFile.Tools.Words

/-!
# Tools for files

## Main definitions

* `Tools.ls` : what directories hold.
* `Tools.touch`, `Tools.mkdir`, `Tools.mktemp` : making files and directories.
* `Tools.rm`, `Tools.rmdir`, `Tools.cp`, `Tools.mv`, `Tools.chmod` : changing them.
* `Tools.cmp` : comparing two files.
-/

namespace ComponentFile.Tools

open Text Tool

/-- The path of octets. -/
def pathOf (t : Text) : Path := ⟨ofOctets t⟩

/-- Do something for each operand and remember the code of those that fail. -/
def forOperands (operands : List Text) (use : Text → Tool (Option Text)) (failure : Nat) :
    Tool Nat :=
  operands.foldlM (fun code name => do
    match ← use name with
    | none => return code
    | some message =>
      complain message
      return failure) 0

/-- The message that something cannot be done to an operand. -/
def cannot (action name : Text) (fault : Fault) : Text :=
  "cannot ".toList ++ action ++ ' ' :: about (quotedPlain name) fault

/-- The message of a change that is refused. -/
def refusal (action name : Text) : Except Fault Unit → Option Text
  | .ok _ => none
  | .error fault => some (cannot action name fault)

/-! ### Listing -/

/-- A name with a sign for what it stands for. -/
def marked (marks : Char → Bool) (name : Text) (entry : Entry) : Text :=
  match entry with
  | .directory => if marks 'F' || marks 'p' then name ++ ['/'] else name
  | .file _ isProgram => if isProgram && marks 'F' then name ++ ['*'] else name

/-- The names that a directory shows, in their order. -/
def shownNames (has : Char → Bool) (tree : FileTree) (place : Place) : List Text :=
  let names := (tree.namesIn place).map fun n =>
    (octets n.text, (tree.entry? (place ++ [n])).getD .directory)
  let names := names.filter fun n => has 'a' || has 'A' || n.1.head? != some '.'
  let dots := if has 'a' then [(['.'], Entry.directory), (['.', '.'], Entry.directory)] else []
  let sorted := (dots ++ names).mergeSort fun a b => Text.le a.1 b.1
  let sorted := if has 'r' then sorted.reverse else sorted
  sorted.map fun n => marked has n.1 n.2

/-- Names in lines, each as long as it may be, with commas between the names. -/
def inRows (row : Text) : List Text → Text
  | [] => if row.isEmpty then [] else row ++ ['\n']
  | name :: rest =>
    let behind : Text := if rest.isEmpty then name else name ++ [',']
    if row.isEmpty then inRows behind rest
    else if row.length + behind.length + 1 < 80 then inRows (row ++ ' ' :: behind) rest
    else row ++ '\n' :: inRows behind rest

/-- Names as they are listed. -/
def listed (has : Char → Bool) (names : List Text) : Text :=
  if has 'm' then inRows [] names else joinLines names

/-- List directories. -/
def ls : Tool Nat :=
  withOptions ⟨"1aAdFprRlmtShiscgoGnqNUX", [("all", 'a', .never), ("almost-all", 'A', .never),
    ("directory", 'd', .never), ("reverse", 'r', .never), ("classify", 'F', .attached),
    ("color", '2', .attached)], true⟩ 2 fun options operands => do
    let has := given options
    let tree ← tree
    let cwd := (← read).place
    let operands := if operands.isEmpty then [['.']] else operands
    let found := operands.map fun name => (name, tree.lookup cwd (pathOf name))
    let code ← found.foldlM (fun code (f : Text × Except Fault Entry) => do
      match f.2 with
      | .ok _ => return code
      | .error fault =>
        complain (cannot "access".toList f.1 fault)
        return 2) 0
    let sorted := found.mergeSort fun a b => Text.le a.1 b.1
    let isPlain (e : Entry) : Bool := has 'd' || e != .directory
    let files := sorted.filterMap fun
      | (name, .ok e) => if isPlain e then some (marked has name e) else none
      | _ => none
    let directories := sorted.filterMap fun
      | (name, .ok e) => if isPlain e then none else some name
      | _ => none
    let shown := directories.map fun name =>
      let names := match tree.follow cwd (pathOf name) with
        | .ok place => shownNames has tree place
        | .error _ => []
      let heading := if operands.length > 1 then name ++ ":\n".toList else []
      heading ++ listed has names
    let parts := (if files.isEmpty then [] else [listed has files]) ++ shown
    say (['\n'].intercalate parts)
    return code

/-! ### Making -/

/-- Make files that are not there. -/
def touch : Tool Nat :=
  withOptions ⟨"acd:hmr:t:", [("no-create", 'c', .never), ("date", 'd', .always),
    ("reference", 'r', .always)], true⟩ 1 fun options operands => do
    if operands.isEmpty then misuse "missing file operand".toList 1
    else
      forOperands operands (fun name => do
        match ← lookup name with
        | .ok _ => return none
        | .error .notFound =>
          if given options 'c' then return none
          else
            return refusal "touch".toList name
              (← change fun tree cwd => tree.write cwd (pathOf name) [])
        | .error fault => return some (cannot "touch".toList name fault)) 1

/-- Make directories. -/
def mkdir : Tool Nat :=
  withOptions ⟨"m:pv", [("mode", 'm', .always), ("parents", 'p', .never), ("verbose", 'v', .never)],
    true⟩ 1 fun options operands => do
    if operands.isEmpty then missingOperand
    else
      forOperands operands (fun name => do
        let path := pathOf (withoutSlashes name)
        let made ←
          if given options 'p' then changeInPart fun tree cwd => tree.makeDirectories cwd path
          else change fun tree cwd => tree.makeDirectory cwd path
        if given options 'v' && made.toOption.isSome then
          say ((← read).name ++ ": created directory ".toList ++ quotedPlain name ++ ['\n'])
        return refusal "create directory".toList name made) 1

/-- Make a file or a directory with a new name. -/
def mktemp : Tool Nat :=
  withOptions ⟨"dp:qtu", [("directory", 'd', .never), ("tmpdir", 'p', .attached)], true⟩ 1
    fun options operands => do
    let n ← Act.newProcess
    let unique := padLeft 10 'x' (ofNat n)
    let template := operands.head?.getD "tmp.XXXXXXXXXX".toList
    let stem := (template.reverse.dropWhile (· == 'X')).reverse
    let marks := template.length - stem.length
    if marks < 3 then fail ("too few X's in template ".toList ++ quotedPlain template) 1
    else
      let name := stem ++ unique.drop (10 - marks)
      let path := if operands.isEmpty || given options 't' then "/tmp/".toList ++ name
        else match valueOf? options 'p' with
          | some directory => directory ++ '/' :: name
          | none => name
      match ← change fun tree cwd =>
          if given options 'd' then tree.makeDirectory cwd (pathOf path)
          else tree.write cwd (pathOf path) [] with
      | .ok _ =>
        say (path ++ ['\n'])
        return 0
      | .error fault =>
        fail ("failed to create file via template ".toList ++ about (quotedPlain template) fault) 1

/-! ### Changing -/

/-- Take files away. -/
def rm : Tool Nat :=
  withOptions ⟨"dfiIrRv", [("force", 'f', .never), ("recursive", 'r', .never),
    ("dir", 'd', .never), ("verbose", 'v', .never)], true⟩ 1 fun options operands => do
    let has := given options
    if operands.isEmpty && !has 'f' then missingOperand
    else
      forOperands operands (fun name => do
        let tree ← tree
        match tree.follow (← read).place (pathOf name) with
        | .error fault =>
          return if has 'f' && fault = .notFound then none
            else some (cannot "remove".toList name fault)
        | .ok place =>
          match tree.entry? place with
          | none =>
            return if has 'f' then none else some (cannot "remove".toList name .notFound)
          | some entry =>
            let isEmpty := (tree.namesIn place).isEmpty
            if entry = .directory && !(has 'r' || has 'R') && !(has 'd' && isEmpty) then
              return some (cannot "remove".toList name .isADirectory)
            else
              modifyThe World fun w => { w with tree := w.tree.erase place }
              if has 'v' then say ("removed ".toList ++ quotedPlain name ++ ['\n'])
              return none) 1

/-- Take empty directories away. -/
def rmdir : Tool Nat :=
  withOptions ⟨"pv", [("parents", 'p', .never), ("verbose", 'v', .never)], true⟩ 1
    fun _ operands => do
    if operands.isEmpty then missingOperand
    else
      forOperands operands (fun name => do
        let tree ← tree
        let failed (fault : Fault) : Tool (Option Text) :=
          return some ("failed to remove ".toList ++ about (quotedPlain name) fault)
        match tree.follow (← read).place (pathOf name) with
        | .error fault => failed fault
        | .ok place =>
          match tree.entry? place with
          | none => failed .notFound
          | some (.file _ _) => failed .notADirectory
          | some .directory =>
            if (tree.namesIn place).isEmpty then
              modifyThe World fun w => { w with tree := w.tree.erase place }
              return none
            else failed .notEmpty) 1

/-- Put a copy of what is at one place, with everything below it, at another one. -/
def copyTree (tree : FileTree) (source target : Place) : FileTree :=
  tree.entries.entries.foldl (fun t entry =>
    if source.isPrefixOf entry.1 then
      let place := target ++ entry.1.drop source.length
      match entry.2, t.entry? place with
      | .directory, some .directory => t
      | e, _ => t.put place e
    else t) tree

/-- Copy or move files to the last operand. -/
def transfer (verb : String) (moves : Bool) (options : List GivenOption) (operands : List Text) :
    Tool Nat := do
  let has := given options
  match operands.reverse with
  | [] => misuse "missing file operand".toList 1
  | [one] => misuse ("missing destination file operand after ".toList ++ quotedPlain one) 1
  | last :: sources =>
    let sources := sources.reverse
    let cwd := (← read).place
    let intoDirectory := (← tree).isDirectory cwd (pathOf last) && !has 'T'
    if sources.length > 1 && !intoDirectory then
      match ← lookup last with
      | .ok _ => fail ("target ".toList ++ quotedPlain last ++ ": Not a directory".toList) 1
      | .error fault => fail ("target ".toList ++ about (quotedPlain last) fault) 1
    else
      forOperands sources (fun name => do
        let tree ← tree
        let target := if intoDirectory then
            withoutSlashes last ++ '/' :: lastPart name else last
        match tree.lookup cwd (pathOf name), tree.follow cwd (pathOf name) with
        | .error fault, _ => return some (cannot "stat".toList name fault)
        | _, .error fault => return some (cannot "stat".toList name fault)
        | .ok entry, .ok source =>
          if entry = .directory && !moves && !(has 'r' || has 'R' || has 'a') then
            return some ("-r not specified; omitting directory ".toList ++ quotedPlain name)
          else
            match tree.follow cwd (pathOf (withoutSlashes target)) with
            | .error fault =>
              return some
                (if moves then "cannot move ".toList ++ quotedPlain name ++ " to ".toList ++
                about (quotedPlain target) fault
                else cannot "create regular file".toList target fault)
            | .ok place =>
              if place = source then
                return some (quotedPlain name ++ " and ".toList ++ quotedPlain target ++
                  " are the same file".toList)
              else if entry != .directory && tree.entry? place = some .directory then
                return some ("cannot overwrite directory ".toList ++ quotedPlain target ++
                  (if moves then " with non-directory" else " with non-directory").toList)
              else
                let copied := copyTree tree source place
                let new := if moves then copied.erase source else copied
                modifyThe World fun w => { w with tree := new }
                if has 'v' then
                  say
                    ((if moves then verb.toList ++ ' ' :: quotedPlain name else quotedPlain name) ++
                    " -> ".toList ++ quotedPlain target ++ ['\n'])
                return none) 1

/-- Copy files. -/
def cp : Tool Nat :=
  withOptions ⟨"adfipPrRTuvLn", [("recursive", 'r', .never), ("archive", 'a', .never),
    ("force", 'f', .never), ("preserve", 'p', .attached), ("verbose", 'v', .never)], true⟩ 1
    (transfer "copied" false)

/-- Move files. -/
def mv : Tool Nat :=
  withOptions ⟨"fiTuvn", [("force", 'f', .never), ("verbose", 'v', .never)], true⟩ 1
    (transfer "renamed" true)

/-- Whether a mode makes programs of files, given whether they are programs. -/
def modeMakesProgram? (mode : Text) (isProgram : Bool) : Option Bool :=
  match natIn? 8 mode with
  | some n => some (n % 2 = 1 || n / 8 % 2 = 1 || n / 64 % 2 = 1)
  | none =>
    (mode.splitOn ',').foldlM (fun b clause =>
      let rest := clause.dropWhile fun c => ['u', 'g', 'o', 'a'].contains c
      match rest with
      | op :: letters =>
        if !letters.all fun c => "rwxXst".toList.any (· == c) then none
        else
          let names := letters.any (· == 'x')
          match op with
          | '+' => some (b || names)
          | '-' => some (b && !names)
          | '=' => some names
          | _ => none
      | [] => none) isProgram

/-- Say whether files are programs. -/
def chmod : Tool Nat := do
  let job ← read
  let words := job.arguments.filter fun w =>
    !(["-R", "-v", "-f", "-c", "--"].any fun o => o.toList == w)
  match words with
  | [] => missingOperand
  | [mode] => misuse ("missing operand after ".toList ++ quotedPlain mode) 1
  | mode :: files =>
    if (modeMakesProgram? mode false).isNone then
      misuse ("invalid mode: ".toList ++ quotedPlain mode) 1
    else
      forOperands files (fun name => do
        let tree ← tree
        match tree.lookup job.place (pathOf name), tree.follow job.place (pathOf name) with
        | .ok (.file bytes isProgram), .ok place =>
          let new :=
            tree.put place (.file bytes ((modeMakesProgram? mode isProgram).getD isProgram))
          modifyThe World fun w => { w with tree := new }
          return none
        | .error fault, _ => return some (cannot "access".toList name fault)
        | _, _ => return none) 1

/-! ### Comparing -/

/-- The first place where two texts differ, counted from one, with its line; nothing when one ends
before they differ. -/
def firstDifference (n line : Nat) : Text → Text → Option (Nat × Nat × Bool)
  | [], [] => none
  | [], _ => some (n, line, false)
  | _, [] => some (n, line, false)
  | a :: s, b :: t =>
    if a = b then firstDifference (n + 1) (if a = '\n' then line + 1 else line) s t
    else some (n, line, true)

/-- Compare two files. -/
def cmp : Tool Nat :=
  withOptions ⟨"bln:s", [("quiet", 's', .never), ("silent", 's', .never)], true⟩ 2
    fun options operands => do
    match operands with
    | [] => misuse "missing operand after 'cmp'".toList 2
    | a :: rest =>
      let b := rest.head?.getD ['-']
      match ← operand a, ← operand b with
      | .error fault, _ => fail (about a fault) 2
      | _, .error fault => fail (about b fault) 2
      | .ok s, .ok t =>
        match firstDifference 1 1 s t with
        | none => return 0
        | some (n, line, differs) =>
          if !given options 's' then
            if differs then
              say (a ++ ' ' :: b ++ " differ: char ".toList ++ ofNat n ++ ", line ".toList ++
                ofNat line ++ ['\n'])
            else
              let short := if s.length < t.length then a else b
              complain ("EOF on ".toList ++ short ++
                (if n = 1 then " which is empty".toList
                else " after byte ".toList ++ ofNat (n - 1) ++
                  (if (s.take (n - 1)).getLast? = some '\n' then
                    ", line ".toList ++ ofNat (line - 1)
                  else ", in line ".toList ++ ofNat line)))
          return 1

end ComponentFile.Tools
