import ComponentFile.Text.Octets

/-!
# Scripts

A script is a sequence of commands.  Their words are made of pieces, some of which stand for a value
that is known only when the command runs.

## Main definitions

* `Shell.Dialect` : the two forms of the language.
* `Shell.Piece`, `Shell.Modifier` : pieces of words, and what is done to the value of a parameter.
* `Shell.Command` : commands.
-/

namespace ComponentFile.Shell

/-- The plain language, or the one with extensions. -/
inductive Dialect where
  | plain
  | extended
  deriving DecidableEq, Repr

/-- Which matches of a pattern are replaced. -/
inductive Occurrence where
  | first
  | all
  | start
  | stop
  deriving DecidableEq, Repr

/-- How the case of letters is changed. -/
inductive Casing where
  | upper
  | lower
  | swap
  deriving DecidableEq, Repr

/-- Which element of an array is meant. -/
inductive Selection (α : Type) where
  | element (index : α)
  | each
  | joined

/-- What a redirection does to a stream. -/
inductive Direction where
  | input
  | output
  | forced
  | append
  | update
  | copyInput
  | copyOutput
  | both
  | bothAppend
  deriving DecidableEq, Repr

/-- What follows when an item of a choice has been run. -/
inductive Continuation where
  | done
  | fall
  | test
  deriving DecidableEq, Repr

mutual

/-- A piece of a word. -/
inductive Piece where
  | plain (t : Text)
  | quoted (t : Text)
  | double (pieces : List Piece)
  | parameter (name : Text) (selection : Option (Selection (List Piece))) (indirect : Bool)
      (modifier : Modifier)
  | badParameter (source : Text)
  | substitution (commands : List Command)
  | process (inward : Bool) (commands : List Command)
  | arithmetic (pieces : List Piece)

/-- What is done to the value of a parameter. -/
inductive Modifier where
  | value
  | length
  | default (whenEmpty : Bool) (word : List Piece)
  | assign (whenEmpty : Bool) (word : List Piece)
  | alternative (whenEmpty : Bool) (word : List Piece)
  | demand (whenEmpty : Bool) (word : List Piece)
  | trim (fromEnd longest : Bool) (pattern : List Piece)
  | replace (occurrence : Occurrence) (pattern replacement : List Piece)
  | part (start : List Piece) (length : Option (List Piece))
  | casing (casing : Casing) (all : Bool) (pattern : List Piece)
  | keys
  | names (joined : Bool)
  | transform (letter : Char)

/-- A redirection: the number of the stream if one is given, and what it is bound to. -/
inductive Redirection where
  | path (line : Nat) (stream : Option Nat) (direction : Direction) (word : List Piece)
  | document (line : Nat) (stream : Option Nat) (pieces : List Piece)
  | word (line : Nat) (stream : Option Nat) (pieces : List Piece)

/-- An assignment of a value, or of the elements of an array. -/
inductive Assignment where
  | value (name : Text) (index : Option (List Piece)) (append : Bool) (word : List Piece)
  | elements (name : Text) (append : Bool) (words : List (Option (List Piece) × List Piece))

/-- A condition between double brackets. -/
inductive Test where
  | word (w : List Piece)
  | unary (op : Text) (w : List Piece)
  | binary (op : Text) (a b : List Piece)
  | not (t : Test)
  | both (s t : Test)
  | either (s t : Test)

/-- A command. -/
inductive Command where
  | simple (line : Nat) (assignments : List Assignment) (words : List (List Piece))
      (redirections : List Redirection)
  | pipeline (negated : Bool) (commands : List Command)
  | both (a b : Command)
  | either (a b : Command)
  | sequence (commands : List Command)
  | background (command : Command)
  | subshell (line : Nat) (body : Command)
  | group (body : Command)
  | conditional (condition body : Command) (otherwise : Option Command)
  | loop (whileTrue : Bool) (condition body : Command)
  | forEach (line : Nat) (name : Text) (words : Option (List (List Piece))) (body : Command)
  | selection (line : Nat) (name : Text) (words : Option (List (List Piece))) (body : Command)
  | counting (line : Nat) (first condition step : List Piece) (body : Command)
  | choose (line : Nat) (word : List Piece)
      (items : List (List (List Piece) × Command × Continuation))
  | define (line : Nat) (name : Text) (body : Command)
  | timed (short : Bool) (command : Command)
  | redirected (command : Command) (redirections : List Redirection)
  | test (line : Nat) (condition : Test)
  | calculate (line : Nat) (pieces : List Piece)

end

/-- A word. -/
abbrev Word := List Piece

instance : Inhabited Piece := ⟨.plain []⟩

instance : Inhabited Command := ⟨.sequence []⟩

/-- The text of a word when it is plain. -/
def Word.plainText? : Word → Option Text
  | [.plain t] => some t
  | _ => none

/-- The word of the given pieces in which neighbouring plain pieces are joined. -/
def Word.join : Word → Word
  | .plain s :: .plain t :: rest => join (.plain (s ++ t) :: rest)
  | p :: rest => p :: join rest
  | [] => []
termination_by w => w.length

end ComponentFile.Shell
