import ComponentFile.Url.Host

/-!
# URLs

The parts of a URL that lead to a file: its host and its path.  Query and fragment are cut off.
In the special schemes a backslash is a slash, and a path has no segments `.` and `..`, however
they are written.

The standard begins the path of a file behind the slash after the host, so that a drive letter there
is written with a colon: `file:///C|/x` leads to `/C:/x`.  The library that the style compiler's
arguments are made with begins it at that slash when no host is named, and leads to `/C|/x`.  Both
readings are here, and they differ in nothing else.

## Main definitions

* `Url` : the host of a URL, and its segments if it has a path of segments.
* `Url.PathStart` : where the path of a file begins that is on this computer.
* `Url.parse?` : the URL that a text is.
-/

namespace ComponentFile

/-- The parts of a URL that lead to a file.  A URL has no segments when its path does not begin
with a slash. -/
structure Url where
  host : Url.Host
  segments : Option (List Text)
  deriving DecidableEq, Repr

namespace Url

/-! ### Paths -/

/-- Whether a segment means to stay. -/
def isSingleDot (segment : Text) : Bool :=
  [['.'], "%2e".toList].contains (Text.lower segment)

/-- Whether a segment means to go up. -/
def isDoubleDot (segment : Text) : Bool :=
  [['.', '.'], ".%2e".toList, "%2e.".toList, "%2e%2e".toList].contains (Text.lower segment)

/-- Whether a segment begins with a drive letter, such as `C:` or `C|`, that ends there or before
a backslash. -/
def beginsWithDrive (segment : Text) : Bool :=
  match segment with
  | c :: d :: rest =>
    c.isAlpha && (d == ':' || d == '|') && (rest.isEmpty || rest.head? == some '\\')
  | _ => false

/-- Whether a segment is a drive letter. -/
def isDrive (segment : Text) : Bool :=
  segment.length == 2 && beginsWithDrive segment

/-- Whether a character is a tab or a line end.  A URL does not count them. -/
def isSkipped (c : Char) : Bool :=
  c == '\t' || c == '\n' || c == '\r'

/-- The characters of a text that a URL counts. -/
def visible (t : Text) : Text :=
  t.filter fun c => !isSkipped c

/-- A drive letter with a colon and the rest of a segment, when tabs or line ends stand between the
two. -/
def splitDrive? (segment : Text) : Option (Text × Text) :=
  match segment.dropWhile isSkipped with
  | c :: rest =>
    match rest.dropWhile isSkipped with
    | ':' :: gap :: rest =>
      if c.isAlpha && isSkipped gap && !(visible rest).isEmpty then some ([c, ':'], visible rest)
      else none
    | _ => none
  | [] => none

/-- A path as it is read: its segments, and whether the first of them is a drive letter that fills
a segment as written. -/
structure Route where
  segments : List Text
  hasDrive : Bool
  deriving DecidableEq, Repr

/-- The segments without dots, after the segments `done`, given in reverse.  Dots at the end leave
an empty segment.  A step up does not leave a drive.  In a file URL a drive letter that comes first
is written with a colon, and it is a segment of its own if a tab or a line end stands behind it; the
rest of its segment is then kept, dots or not. -/
def resolveFrom (isFile hasDrive : Bool) (done : List Text) : List Text → Route
  | [] => ⟨done.reverse, hasDrive⟩
  | written :: rest =>
    let segment := visible written
    let dotEnd (done : List Text) := if rest.isEmpty then [] :: done else done
    match if isFile && done.isEmpty then splitDrive? written else none with
    | some (drive, behind) => resolveFrom isFile hasDrive [behind, drive] rest
    | none =>
      if isDoubleDot segment then
        let above := if done.head?.any beginsWithDrive then done else done.drop 1
        resolveFrom isFile hasDrive (dotEnd above) rest
      else if isSingleDot segment then resolveFrom isFile hasDrive (dotEnd done) rest
      else if isFile && done.isEmpty && isDrive segment then
        resolveFrom isFile true [segment.take 1 ++ [':']] rest
      else resolveFrom isFile hasDrive (segment :: done) rest

/-- A path without the slash in front of it, as it is read. -/
def resolve (isFile : Bool) (path : Text) : Route :=
  resolveFrom isFile false [] (path.splitOn '/')

/-- What stands behind a slash at the front of a text. -/
def afterSlash? (t : Text) : Option Text :=
  match t.dropWhile isSkipped with
  | '/' :: rest => some rest
  | _ => none

/-- The segments of the path of a file, without empty ones at the front. -/
def trimFront (segments : List Text) : List Text :=
  match segments.dropWhile List.isEmpty with
  | [] => [[]]
  | kept => kept

/-! ### Authorities -/

/-- The host in front of the first colon that does not stand between square brackets, and the path
behind it.  A colon may be followed by a number, which must not exceed 65535.  The path begins
with a slash or, behind a colon, with a backslash. -/
def splitHost? (t : Text) : Option (Text × Text) :=
  let size := if t.head? = some '[' then (Text.through ']' t).1.length else 0
  let host := t.take size ++ (t.drop size).takeWhile fun c => c != ':' && c != '/'
  let behind := t.drop host.length
  match behind with
  | ':' :: u =>
    let digits := u.takeWhile Char.isDigit
    let path := u.drop digits.length
    if (path.isEmpty || path.head? = some '/' || path.head? = some '\\') &&
        (digitsIn? 10 digits).getD 0 ≤ 65535 then some (host, path)
    else none
  | _ => some (host, behind)

/-- The text behind the last `@`, and whether a name or a password stands in front of it. -/
def splitUser (t : Text) : Text × Bool :=
  let host := (t.reverse.takeWhile (· != '@')).reverse
  let user := t.take (t.length - host.length - 1)
  (host, user.any (· != ':') || user.length > 1)

/-- Whether a character begins the query or the fragment of a URL. -/
def endsPath (c : Char) : Bool :=
  c == '?' || c == '#'

/-- The URL with an authority, which is the text up to the first slash or the end of the path.  An
authority that is nothing but `@` may only come last. -/
def parseAuthority? (isSpecial : Bool) (t : Text) : Option Url := do
  let authority := t.takeWhile fun c => c != '/' && !endsPath c
  let behind := t.drop authority.length
  if authority = ['@'] && !behind.isEmpty then none
  let (rest, hasUser) := splitUser authority
  let (name, path) ← splitHost? (rest ++ behind.takeWhile fun c => !endsPath c)
  if name.isEmpty && (hasUser || rest.any (· == ':')) then none
  let host ← if isSpecial then Host.readDomain? name else Host.readOther? name
  if isSpecial || !path.isEmpty then
    return ⟨host, some (resolve false ((afterSlash? path).getD path)).segments⟩
  else return ⟨host, none⟩

/-- The host of a file URL.  This computer needs no name. -/
def fileHost? (name : Text) : Option Host :=
  if name.isEmpty then some .none
  else (Host.readDomain? name).map fun host => if host.isLocal then .none else host

/-- Where the path of a file begins when the place of the host is empty or names this computer:
behind the slash there, as the standard has it, or at the slash.  A path that begins at the slash
has an empty segment in front, and a drive letter behind that does not come first. -/
inductive PathStart where
  | behindSlash
  | atSlash
  deriving DecidableEq, Repr

/-- The part of a path with a slash in front that is read. -/
def PathStart.cut : PathStart → Text → Text
  | behindSlash, path => path.drop 1
  | atSlash, path => path

/-- The file URL whose text behind the scheme is `t`.  A drive letter in the place of the host
belongs to the path, and a path that begins with a drive letter has no host. -/
def parseFile? (start : PathStart) (t : Text) : Option Url :=
  let leadsTo (host : Host) (route : Route) : Url := ⟨host, some (trimFront route.segments)⟩
  match afterSlash? t with
  | none => some (leadsTo .none (resolve true t))
  | some behind =>
    match afterSlash? behind with
    | none => some (leadsTo .none (resolve true behind))
    | some u =>
      let name := visible (u.takeWhile (· != '/'))
      let path := u.dropWhile (· != '/')
      if isDrive name then some (leadsTo .none (resolve true u))
      else
        (fileHost? name).map fun host =>
          match host with
          | .none => leadsTo .none (resolve true (start.cut path))
          | _ =>
            let route := resolve true (path.drop 1)
            leadsTo (if route.hasDrive then .none else host) route

/-! ### URLs -/

/-- The schemes besides `file` in which backslashes are slashes and a host is needed. -/
def specialSchemes : List Text :=
  ["http", "https", "ws", "wss", "ftp"].map String.toList

/-- Whether a character belongs to a scheme. -/
def isSchemeChar (c : Char) : Bool :=
  c.isAlphanum || c == '+' || c == '-' || c == '.'

/-- The scheme at the front of a text in lower case, and the text behind its colon. -/
def splitScheme? (t : Text) : Option (Text × Text) :=
  let isFront (c : Char) : Bool := isSchemeChar c || isSkipped c
  match visible (t.takeWhile isFront), t.dropWhile isFront with
  | c :: scheme, ':' :: rest =>
    if c.isAlpha then some (Text.lower (c :: scheme), rest) else none
  | _, _ => none

/-- Whether a character is a control or a space. -/
def isControlOrSpace (c : Char) : Bool :=
  c.toNat ≤ 0x20

/-- The text without controls and spaces at its ends. -/
def trimmed (t : Text) : Text :=
  ((t.dropWhile isControlOrSpace).reverse.dropWhile isControlOrSpace).reverse

/-- A text with slashes for backslashes. -/
def withSlashes (t : Text) : Text :=
  t.map fun c => if c = '\\' then '/' else c

/-- The URL that a text is.  It needs a scheme. -/
def parse? (start : PathStart) (t : Text) : Option Url := do
  let (scheme, rest) ← splitScheme? (trimmed t)
  if scheme = "file".toList then
    parseFile? start (withSlashes (rest.takeWhile fun c => !endsPath c))
  else
    let rest := visible rest
    if specialSchemes.contains scheme then
      parseAuthority? true ((withSlashes rest).dropWhile (· == '/'))
    else
      match rest with
      | '/' :: '/' :: u => parseAuthority? false u
      | '/' :: path =>
        return ⟨.none, some (resolve false (path.takeWhile fun c => !endsPath c)).segments⟩
      | _ => return ⟨.none, none⟩

end Url

end ComponentFile
