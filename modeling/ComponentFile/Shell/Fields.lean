import ComponentFile.Shell.Glob
import ComponentFile.Shell.State

/-!
# Fields

An expanded word falls into fields: the values in it that are not quoted are split, and a field that
is a pattern stands for the paths that it matches.  Words of the extended language fall into several
words before that, at their braces.

## Main definitions

* `Shell.Part`, `Shell.splitParts` : the parts of an expanded word, and its fields.
* `Shell.Field.texts?` : the texts that a field stands for.
* `Shell.bracedWords` : the words that a word with braces stands for.
-/

namespace ComponentFile.Shell

open Text

/-! ### Parts and fields -/

/-- A part of an expanded word: a text of the word itself, a value that is to be split, or the edge
between two fields. -/
inductive Part where
  | fixed (quoted : Bool) (t : Text)
  | value (t : Text)
  | cut

/-- A field: texts, each with whether it is quoted. -/
abbrev Field := List (Bool × Text)

/-- The text of a field. -/
def Field.text (f : Field) : Text :=
  f.flatMap Prod.snd

/-- The text of parts when they are not split. -/
def joinParts (parts : List Part) : Text :=
  parts.flatMap fun
    | .fixed _ t => t
    | .value t => t
    | .cut => [' ']

/-- What splitting has found: the fields and the pieces of the last one in reverse, whether the last
one has begun, and whether white space has ended the one before it. -/
structure Splitter where
  done : List Field
  current : Field
  started : Bool
  spaced : Bool

namespace Splitter

/-- Add a text to the last field. -/
def add (s : Splitter) (quoted : Bool) (t : Text) : Splitter :=
  if t.isEmpty && !quoted then s
  else { s with current := (quoted, t) :: s.current, started := true }

/-- End the last field. -/
def close (s : Splitter) (spaced : Bool) : Splitter :=
  ⟨s.current.reverse :: s.done, [], false, spaced⟩

/-- Split a value: `run` is the part of it that is to be added next, in reverse. -/
def split (separators : Text) (s : Splitter) (run : Text) : Text → Splitter
  | [] => s.add false run.reverse
  | c :: t =>
    if !separators.any (· == c) then split separators s (c :: run) t
    else
      let s := s.add false run.reverse
      if c = ' ' || c = '\t' || c = '\n' then
        split separators (if s.started then s.close true else s) [] t
      else if s.started || !s.spaced then split separators (s.close false) [] t
      else split separators { s with spaced := false } [] t

/-- Add a part. -/
def addPart (separators : Text) (s : Splitter) : Part → Splitter
  | .fixed quoted t => s.add quoted t
  | .value t => s.split separators [] t
  | .cut => if s.started then s.close false else s

end Splitter

/-- The fields of an expanded word. -/
def splitParts (separators : Text) (parts : List Part) : List Field :=
  let s := parts.foldl (Splitter.addPart separators) ⟨[], [], false, false⟩
  (if s.started then s.close false else s).done.reverse

/-- The characters of a field, each with whether it stands for itself. -/
def Field.marked (f : Field) : List MarkedChar :=
  f.flatMap fun piece => piece.2.map fun c => (c, piece.1)

/-- How a shell reads patterns. -/
def State.globRules (s : State) : GlobRules :=
  ⟨s.dialect, s.has "extglob", s.has "dotglob", s.has "globstar"⟩

/-- Whether a field may be a pattern. -/
def Field.isPattern (s : State) (f : Field) : Bool :=
  !s.has "noglob" &&
    (f.any fun piece => !piece.1 && piece.2.any fun c => "*?[(".toList.any (· == c)) &&
    Glob.isPattern s.globRules f.marked

/-- The texts that a field stands for in a state of the shell; none when it is a pattern that has to
match something and does not. -/
def Field.texts? (s : State) (tree : FileTree) (f : Field) : Option (List Text) :=
  if !f.isPattern s then some [f.text]
  else
    match Glob.paths s.globRules tree s.place f.marked with
    | [] =>
      if s.has "failglob" then none else if s.has "nullglob" then some [] else some [f.text]
    | found => some found

/-! ### Braces -/

/-- A piece of a word with braces: a plain character, or any other piece. -/
abbrev Atom := Except Piece Char

/-- The atoms of a word. -/
def atoms (w : Word) : List Atom :=
  w.flatMap fun
    | .plain t => t.map Except.ok
    | p => [.error p]

/-- The word of atoms. -/
def wordOfAtoms (l : List Atom) : Word :=
  Word.join (l.map fun
    | .ok c => .plain [c]
    | .error p => p)

/-- Whether an atom is a certain character. -/
def Atom.isChar (a : Atom) (c : Char) : Bool :=
  match a with
  | .ok d => c == d
  | .error _ => false

/-- The atoms inside of braces, behind the opening one, and what stands behind the closing one. -/
def insideBraces (depth : Nat) (done : List Atom) : List Atom → Option (List Atom × List Atom)
  | [] => none
  | a :: rest =>
    if Atom.isChar a '\x7d' then
      match depth with
      | 0 => some (done.reverse, rest)
      | n + 1 => insideBraces n (a :: done) rest
    else insideBraces (if Atom.isChar a '\x7b' then depth + 1 else depth) (a :: done) rest

/-- The alternatives of atoms inside of braces. -/
def alternatives (depth : Nat) (done : List (List Atom)) (part : List Atom) :
    List Atom → List (List Atom)
  | [] => (part.reverse :: done).reverse
  | a :: rest =>
    if Atom.isChar a ',' && depth = 0 then alternatives depth (part.reverse :: done) [] rest
    else
      let depth := if Atom.isChar a '\x7b' then depth + 1
        else if Atom.isChar a '\x7d' then depth - 1 else depth
      alternatives depth done (a :: part) rest

/-- The plain text of atoms. -/
def plainAtoms? (l : List Atom) : Option Text :=
  l.mapM fun
    | .ok c => some c
    | .error _ => none

/-- The numbers from one to another. -/
def numbersBetween (first last : Int) (step : Nat) : List Int :=
  let count := (last - first).natAbs / step + 1
  let direction : Int := if last < first then -step else step
  (List.range count).map fun (i : Nat) => first + direction * i

/-- The texts of a sequence inside of braces. -/
def sequence? (t : Text) : Option (List Text) :=
  match (String.ofList t).splitOn ".." |>.map String.toList with
  | [a, b] => between a b 1
  | [a, b, c] => (int? c).bind fun n => between a b (max 1 n.natAbs)
  | _ => none
where
  /-- The texts from one to another. -/
  between (a b : Text) (step : Nat) : Option (List Text) :=
    match int? a, int? b with
    | some i, some j =>
      let isPadded (t : Text) : Bool :=
        let digits := t.filter Char.isDigit
        digits.length > 1 && digits.head? = some '0'
      let width := if isPadded a || isPadded b then max a.length b.length else 0
      some ((numbersBetween i j step).map fun n =>
        if n < 0 then '-' :: padLeft (width - 1) '0' (ofInt (-n)) else padLeft width '0' (ofInt n))
    | _, _ =>
      match a, b with
      | [c], [d] =>
        if c.isAlpha && d.isAlpha then
          some ((numbersBetween c.toNat d.toNat step).map fun n => [Char.ofNat n.toNat])
        else none
      | _, _ => none

/-- The words that atoms with braces stand for. -/
def bracedAtoms : Nat → List Atom → List (List Atom)
  | 0, l => [l]
  | fuel + 1, l =>
    match l with
    | [] => [[]]
    | a :: rest =>
      let others (_ : Unit) := (bracedAtoms fuel rest).map fun more => a :: more
      if !Atom.isChar a '\x7b' then others ()
      else
        match insideBraces 0 [] rest with
        | none => others ()
        | some (inside, behind) =>
          let parts := alternatives 0 [] [] inside
          let heads := if parts.length > 1 then some (parts.flatMap (bracedAtoms fuel))
            else ((plainAtoms? inside).bind sequence?).map fun texts =>
              texts.map fun t => t.map Except.ok
          match heads with
          | none => others ()
          | some heads =>
            let tails := bracedAtoms fuel behind
            heads.flatMap fun head => tails.map fun tail => head ++ tail

/-- The words that a word stands for. -/
def bracedWords (w : Word) : List Word :=
  let l := atoms w
  if l.any fun a => Atom.isChar a '\x7b' then
    (bracedAtoms (l.length + 1) l).map wordOfAtoms
  else [w]

end ComponentFile.Shell
