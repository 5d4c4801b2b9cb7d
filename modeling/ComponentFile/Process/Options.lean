import ComponentFile.Process.Job

/-!
# Options of programs

Options are letters behind a dash, several at once if they like, and words behind two dashes, which
may be cut short.  The word `--` ends the options, and operands may stand between them.

## Main definitions

* `OptionSet` : the options that a program knows.
* `OptionSet.read` : the options and the operands among arguments.
* `Tool.withOptions` : a program behind its options.
-/

namespace ComponentFile

/-- Whether an option has a value. -/
inductive Valued where
  | never
  | always
  | attached
  deriving DecidableEq, Repr

/-- The options that a program knows: the letters, each followed by a colon if the option has a
value and by two if the value has to be attached, and the words with the letters they stand for.
When `mixed`, operands may come before options. -/
structure OptionSet where
  letters : String
  words : List (String × Char × Valued)
  mixed : Bool

/-- What is wrong with an option. -/
inductive OptionFault where
  | unknownWord (word : Text)
  | ambiguous (word : Text) (candidates : List String)
  | wordNeedsValue (word : String)
  | wordHasNoValue (word : String)
  | unknownLetter (letter : Char)
  | letterNeedsValue (letter : Char)

/-- A text between single quotation marks. -/
def quotedPlain (t : Text) : Text :=
  '\'' :: t ++ ['\'']

/-- The wording of a fault. -/
def OptionFault.message : OptionFault → Text
  | unknownWord word => "unrecognized option ".toList ++ quotedPlain ("--".toList ++ word)
  | ambiguous word candidates =>
    "option ".toList ++ quotedPlain ("--".toList ++ word) ++
      " is ambiguous; possibilities:".toList ++
      candidates.flatMap fun c => ' ' :: quotedPlain ("--".toList ++ c.toList)
  | wordNeedsValue word =>
    "option ".toList ++ quotedPlain ("--".toList ++ word.toList) ++ " requires an argument".toList
  | wordHasNoValue word =>
    "option ".toList ++ quotedPlain ("--".toList ++ word.toList) ++
      " doesn't allow an argument".toList
  | unknownLetter letter => "invalid option -- ".toList ++ quotedPlain [letter]
  | letterNeedsValue letter => "option requires an argument -- ".toList ++ quotedPlain [letter]

/-- An option that was given, by its letter, with its value. -/
abbrev GivenOption := Char × Text

namespace OptionSet

/-- What follows a letter in a list of letters says whether the option has a value. -/
def valuedIn (letter : Char) : Text → Option Valued
  | [] => none
  | c :: t =>
    if c = letter && c != ':' then
      match t with
      | ':' :: ':' :: _ => some .attached
      | ':' :: _ => some .always
      | _ => some .never
    else valuedIn letter t

/-- Whether a word is meant by a text: it is the text, or nothing else begins with it that stands
for another option. -/
def word? (s : OptionSet) (t : Text) : Except OptionFault (String × Char × Valued) :=
  match s.words.find? fun w => w.1.toList == t with
  | some w => .ok w
  | none =>
    let candidates := s.words.filter fun w => t.isPrefixOf w.1.toList
    match candidates with
    | [] => .error (.unknownWord t)
    | w :: rest =>
      if rest.all fun v => v.2 == w.2 then .ok w
      else .error (.ambiguous t (candidates.map Prod.fst))

/-- The options of a bundle of letters, given the argument behind it, and whether that argument
is the value of the last one.  Options are put in front of `done` in reverse. -/
def readLetters (s : OptionSet) (next : Option Text) (done : List GivenOption) :
    Text → Except OptionFault (List GivenOption × Bool)
  | [] => .ok (done, false)
  | c :: t =>
    match valuedIn c s.letters.toList with
    | none => .error (.unknownLetter c)
    | some .never => readLetters s next ((c, []) :: done) t
    | some .attached => .ok ((c, t) :: done, false)
    | some .always =>
      if !t.isEmpty then .ok ((c, t) :: done, false)
      else
        match next with
        | some value => .ok ((c, value) :: done, true)
        | none => .error (.letterNeedsValue c)

/-- The option that a word is, given the argument behind it, and whether that argument is its
value. -/
def readWord (s : OptionSet) (next : Option Text) (t : Text) :
    Except OptionFault (GivenOption × Bool) := do
  let name := t.takeWhile (· != '=')
  let value? := if name.length < t.length then some (t.drop (name.length + 1)) else none
  let (word, letter, valued) ←
    (s.word? name).mapError fun
      | .unknownWord _ => .unknownWord t
      | fault => fault
  match valued, value? with
  | .never, some _ => .error (.wordHasNoValue word)
  | .always, none =>
    match next with
    | some value => .ok ((letter, value), true)
    | none => .error (.wordNeedsValue word)
  | _, _ => .ok ((letter, value?.getD []), false)

/-- The options and operands of arguments, put in front of those that are known in reverse.  A fault
comes with the options before it. -/
def readFrom (s : OptionSet) (options : List GivenOption) (operands : List Text) :
    List Text → Except OptionFault (List GivenOption × List Text)
  | [] => .ok (options.reverse, operands.reverse)
  | a :: rest =>
    match a with
    | ['-', '-'] => .ok (options.reverse, operands.reverse ++ rest)
    | '-' :: '-' :: word =>
      match s.readWord rest.head? word with
      | .error fault => .error fault
      | .ok (option, true) => readFrom s (option :: options) operands (rest.drop 1)
      | .ok (option, false) => readFrom s (option :: options) operands rest
    | '-' :: c :: t =>
      match s.readLetters rest.head? options (c :: t) with
      | .error fault => .error fault
      | .ok (options, true) => readFrom s options operands (rest.drop 1)
      | .ok (options, false) => readFrom s options operands rest
    | _ =>
      if s.mixed then readFrom s options (a :: operands) rest
      else .ok (options.reverse, operands.reverse ++ a :: rest)
termination_by arguments => arguments.length
decreasing_by all_goals simp only [List.length_cons, List.length_drop]; omega

/-- The options and the operands among arguments. -/
def read (s : OptionSet) (arguments : List Text) :
    Except OptionFault (List GivenOption × List Text) :=
  s.readFrom [] [] arguments

end OptionSet

/-- Whether an option is given. -/
def given (options : List GivenOption) (letter : Char) : Bool :=
  options.any fun o => o.1 == letter

/-- The last value of an option. -/
def valueOf? (options : List GivenOption) (letter : Char) : Option Text :=
  options.reverse.lookup letter

namespace Tool

/-- Where help is found. -/
def suggestHelp : Tool Unit := do
  let name := (← read).name
  report ("Try '".toList ++ name ++ " --help' for more information.\n".toList)

/-- Complain about how the program is used, and end with a code. -/
def misuse (t : Text) (code : Nat) : Tool Nat := do
  complain t
  suggestHelp
  return code

/-- A program behind its options, which ends with a code when they make no sense. -/
def withOptions (s : OptionSet) (code : Nat)
    (run : List GivenOption → List Text → Tool Nat) : Tool Nat := do
  match s.read (← read).arguments with
  | .ok (options, operands) => run options operands
  | .error fault => misuse fault.message code

/-- Complain about an operand that is missing. -/
def missingOperand : Tool Nat :=
  misuse "missing operand".toList 1

/-- Complain about an operand too many. -/
def extraOperand (operand : Text) : Tool Nat :=
  misuse ("extra operand ".toList ++ quotedPlain operand) 1

end Tool

end ComponentFile
