import ComponentFile.Json.Token

/-!
# Outlines of JSON texts

An outline is as much of a JSON value as a text holds, read from left to right: where the text
stops being JSON, the arrays and objects that are open stay without their end.  So whoever looks
at an outline from left to right meets the first problem of the text first, whether it is a fault
of the text or an unsuitable value.

## Main definitions

* `Json.Key` : what stands in the place of a key.
* `Json.Outline` : values, complete or cut off.
* `Outline.ofTokens` : the outline of the value at the front of a list of tokens.

The value is read with a stack of the arrays and objects that are open, token by token.
-/

namespace ComponentFile.Json

/-- What stands in the place of a key: a text, a string in which some surrogate is not paired, or
no string at all. -/
inductive Key where
  | text (t : Text)
  | unpaired
  | missing
  deriving DecidableEq, Repr

/-- The key that a string is. -/
def Key.ofString : Option Text → Key
  | some t => text t
  | none => unpaired

/-- The text of a key. -/
def Key.text? : Key → Option Text
  | text t => some t
  | _ => none

/-- As much of a value as a text holds.  Arrays and objects are `closed` when their end was found,
and only then is all they hold complete.  Where a key is missing, what stands in its place is kept
as the value of the member. -/
inductive Outline where
  | scalar (value : Scalar)
  | array (items : List Outline) (closed : Bool)
  | object (members : List (Key × Outline)) (closed : Bool)
  | broken
  deriving Repr

namespace Outline

/-- Whether the text went on to the end of the value. -/
def isComplete : Outline → Bool
  | scalar _ => true
  | array _ closed => closed
  | object _ closed => closed
  | broken => false

/-- An array or object that is open, with its finished parts in reverse; of an object also the key
of the member that is being read. -/
inductive Frame where
  | items (done : List Outline)
  | members (done : List (Key × Outline)) (key : Key)

/-- The outline of an array or object that ends here. -/
def Frame.outline (closed : Bool) : Frame → Outline
  | items done => array done.reverse closed
  | members done _ => object done.reverse closed

/-- The outline of the whole value when the innermost open part goes no further than `o`. -/
def cutOff : List Frame → Outline → Outline
  | [], o => o
  | .items done :: frames, o => cutOff frames (array (o :: done).reverse false)
  | .members done key :: frames, o => cutOff frames (object ((key, o) :: done).reverse false)

/-- What may come next. -/
inductive Expectation where
  | value
  | itemOrEnd
  | keyOrEnd
  | key
  | colon
  | commaOrEnd
  deriving DecidableEq

/-- Where reading stands after a token: inside the value, behind it, or at a fault. -/
inductive Progress where
  | inside (frames : List Frame) (expected : Expectation)
  | complete (value : Outline)
  | fault (value : Outline)

/-- A value has been read. -/
def deliver : List Frame → Outline → Progress
  | [], o => .complete o
  | .items done :: frames, o => .inside (.items (o :: done) :: frames) .commaOrEnd
  | .members done key :: frames, o =>
    .inside (.members ((key, o) :: done) .missing :: frames) .commaOrEnd

/-- What has been read when no fitting token comes. -/
def stopped : List Frame → Expectation → Outline
  | frames, .value => cutOff frames broken
  | frames, .colon => cutOff frames broken
  | [], _ => broken
  | frame :: frames, _ => cutOff frames (frame.outline false)

/-- As much of a value as a single token holds. -/
def ofToken : Token → Outline
  | .scalar s => scalar s
  | .beginArray => array [] false
  | .beginObject => object [] false
  | _ => broken

/-- The effect of a token at the place of a value. -/
def stepValue (frames : List Frame) (expected : Expectation) : Token → Progress
  | .scalar s => deliver frames (scalar s)
  | .beginArray => .inside (.items [] :: frames) .itemOrEnd
  | .beginObject => .inside (.members [] .missing :: frames) .keyOrEnd
  | _ => .fault (stopped frames expected)

/-- The effect of a token. -/
def step (frames : List Frame) (expected : Expectation) (token : Token) : Progress :=
  match expected, token, frames with
  | .value, _, _ => stepValue frames expected token
  | .itemOrEnd, .endArray, frame :: outer => deliver outer (frame.outline true)
  | .itemOrEnd, _, _ => stepValue frames expected token
  | .keyOrEnd, .endObject, frame :: outer => deliver outer (frame.outline true)
  | .keyOrEnd, .scalar (.string key), .members done _ :: outer =>
    .inside (.members done (.ofString key) :: outer) .colon
  | .keyOrEnd, _, .members done key :: outer =>
    .fault (cutOff (.members done key :: outer) (ofToken token))
  | .key, .scalar (.string key), .members done _ :: outer =>
    .inside (.members done (.ofString key) :: outer) .colon
  | .colon, .colon, _ => .inside frames .value
  | .commaOrEnd, .comma, .items _ :: _ => .inside frames .value
  | .commaOrEnd, .comma, .members _ _ :: _ => .inside frames .key
  | .commaOrEnd, .endArray, .items done :: outer => deliver outer (array done.reverse true)
  | .commaOrEnd, .endObject, .members done _ :: outer => deliver outer (object done.reverse true)
  | _, _, _ => .fault (stopped frames expected)

/-- Read on through the tokens.  The result is the outline and the tokens behind the value. -/
def readFrom (frames : List Frame) (expected : Expectation) : List Token → Outline × List Token
  | [] => (stopped frames expected, [])
  | token :: rest =>
    match step frames expected token with
    | .inside frames expected => readFrom frames expected rest
    | .complete value => (value, rest)
    | .fault value => (value, [])

/-- The outline of the value at the front of a list of tokens, and the tokens behind it. -/
def ofTokens (ts : List Token) : Outline × List Token :=
  readFrom [] .value ts

/-- The members of an object; none for other values. -/
def members : Outline → List (Key × Outline)
  | object ms _ => ms
  | _ => []

/-- The value of the first member with the key. -/
def member? (o : Outline) (key : Text) : Option Outline :=
  (o.members.find? fun m => m.1 == .text key).map Prod.snd

end Outline

end ComponentFile.Json
