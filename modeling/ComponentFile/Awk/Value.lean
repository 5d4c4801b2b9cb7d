import Std.Data.HashMap
import ComponentFile.Awk.Token

/-!
# Values of programs of patterns and actions

## Main definitions

* `Awk.Value` : numbers, texts, texts from the input that may be numbers, and nothing yet.
* `Awk.Table` : arrays, whose keys come in the order of a hash of theirs.
* `Awk.formatted` : what a format makes of values.
-/

namespace ComponentFile.Awk

open Text

/-- A value. -/
inductive Value where
  | number (x : Float)
  | text (t : Text)
  | input (t : Text)
  | unset

/-- The quantity that a double is. -/
def quantityOf (x : Float) : Quantity :=
  let bits := x.toBits.toNat
  let negative := bits >>> 63 = 1
  let exponent := (bits >>> 52) % 2048
  let fraction := bits % (1 <<< 52)
  if exponent = 2047 then if fraction = 0 then .infinite negative else .undefined negative
  else
    let (mantissa, power) : Nat × Int :=
      if exponent = 0 then (fraction, -1074) else (fraction + (1 <<< 52), (exponent : Int) - 1075)
    let (num, den) := Double.shiftQuotient mantissa 1 power
    .finite negative num den

/-- The integer that a double is, if it is one. -/
def integer? (x : Float) : Option Int :=
  match quantityOf x with
  | .finite negative num den =>
    if num % den = 0 then some (if negative then -((num / den : Nat) : Int) else (num / den : Nat))
    else none
  | _ => none

/-- The integer that a double begins with. -/
def truncated (x : Float) : Int :=
  match quantityOf x with
  | .finite negative num den =>
    if negative then -((num / den : Nat) : Int) else ((num / den : Nat) : Int)
  | .infinite negative => if negative then -maxInt64 - 1 else 2 * maxInt64 + 1
  | .undefined _ => -maxInt64 - 1

namespace Value

/-- The value of a truth value. -/
def ofBool (b : Bool) : Value := .number (if b then 1.0 else 0.0)

/-- The value of a natural number. -/
def ofNat (n : Nat) : Value := .number (Float.ofNat n)

/-- The number at the front of a text. -/
def leading (t : Text) : Float :=
  match Quantity.read (t.dropWhile isWhite) with
  | none => 0.0
  | some (q, _) => floatOf q

/-- Whether a text is a number, with white space around it perhaps. -/
def looksNumeric (t : Text) : Bool :=
  match Quantity.read (t.dropWhile isWhite) with
  | some (.finite _ _ _, rest) => rest.all isWhite
  | _ => false

/-- The number that a value is. -/
def toNumber : Value → Float
  | number x => x
  | text t => leading t
  | input t => leading t
  | unset => 0.0

/-- Whether a value counts as a number. -/
def isNumeric : Value → Bool
  | number _ => true
  | text _ => false
  | input t => looksNumeric t
  | unset => true

/-- Whether a value counts as true. -/
def isTrue : Value → Bool
  | number x => x != 0.0
  | text t => !t.isEmpty
  | input t => if looksNumeric t then leading t != 0.0 else !t.isEmpty
  | unset => false

/-- The integers that are written with all their digits. -/
def plainInteger? (x : Float) : Option Int :=
  (integer? x).filter fun i => -maxInt64 - 1 ≤ i && i ≤ 2 * maxInt64 + 1

end Value

/-! ### Formats -/

/-- What a directive makes of a value. -/
def layOut (toText : Value → Text) (l : Layout) (letter : Char) (v : Value) : Text :=
  let int := truncated v.toNumber
  let unsigned : Nat := (if int < 0 then int + 2 * (maxInt64 + 1) else int).toNat
  let real (places : Layout.Places) (upper : Bool) : Text :=
    l.quantity places upper (quantityOf v.toNumber)
  match letter with
  | 's' => l.word (toText v)
  | 'c' =>
    match v with
    | .number x => l.word [Char.ofNat ((truncated x) % 256).toNat]
    | _ => l.word ((toText v).take 1)
  | 'd' => l.integer int
  | 'i' => l.integer int
  | 'o' => l.natural 8 false unsigned
  | 'u' => l.natural 10 false unsigned
  | 'x' => l.natural 16 false unsigned
  | 'X' => l.natural 16 true unsigned
  | 'e' => real .exponent false
  | 'E' => real .exponent true
  | 'f' => real .fixed false
  | 'F' => real .fixed true
  | 'g' => real .general false
  | 'G' => real .general true
  | _ => []

/-- What a format makes of values, put behind what is known in reverse: the text so far, and
whether it was good to the end. -/
def formattedFrom (toText : Value → Text) (done : List Text) : Nat → Text → List Value →
    List Text × Bool
  | 0, _, _ => (done, true)
  | fuel + 1, format, vs =>
    match format with
    | [] => (done, true)
    | '%' :: '%' :: t => formattedFrom toText (['%'] :: done) fuel t vs
    | '%' :: t =>
      let (l, t) := Format.readFlags .plain t
      let (width, t) := Format.readSize t
      let (precision, t) := match t with
        | '.' :: u =>
          let found := Format.readSize u
          (some (found.1.getD (.given 0)), found.2)
        | _ => (none, t)
      let t := t.dropWhile fun c => c == 'l' || c == 'h'
      let sized (s : Option Format.Size) (vs : List Value) : Option Int × List Value :=
        match s with
        | none => (none, vs)
        | some (.given n) => (some n, vs)
        | some .taken => (vs.head?.map fun v => truncated v.toNumber, vs.drop 1)
      let (width, vs) := sized width vs
      let (precision, vs) := sized precision vs
      let l := match width with
        | some n => { l with width := n.natAbs, left := l.left || n < 0 }
        | none => l
      let l := { l with precision := (precision.filter (· ≥ 0)).map Int.toNat }
      match t, vs with
      | c :: rest, v :: more =>
        if "diouxXeEfFgGcs".toList.any (· == c) then
          formattedFrom toText (layOut toText l c v :: done) fuel rest more
        else (done, false)
      | _, _ => (done, false)
    | _ =>
      let plain := format.takeWhile (· != '%')
      formattedFrom toText (plain :: done) fuel (format.drop plain.length) vs

/-- What a format makes of values, and whether it was good to the end. -/
def formatted (toText : Value → Text) (format : Text) (vs : List Value) : Text × Bool :=
  let (done, good) := formattedFrom toText [] (format.length + 1) format vs
  (done.reverse.flatten, good)

/-- The text of a number by a format for numbers that are no integers. -/
def numberText (format : Text) (x : Float) : Text :=
  match Value.plainInteger? x with
  | some i => ofInt i
  | none => if x.isNaN then "-nan".toList else (formatted (fun _ => []) format [.number x]).1

/-- The text of a value. -/
def Value.toText (format : Text) : Value → Text
  | .number x => numberText format x
  | .text t => t
  | .input t => t
  | .unset => []

/-- The order of two values: of numbers if both are, and of texts otherwise. -/
def Value.compare (format : Text) (a b : Value) : Option Ordering :=
  if a.isNumeric && b.isNumeric then
    let x := a.toNumber
    let y := b.toNumber
    if x < y then some .lt else if x > y then some .gt else if x == y then some .eq else none
  else
    let s := a.toText format
    let t := b.toText format
    some (if s = t then .eq else if Text.le s t then .lt else .gt)

/-! ### Arrays -/

/-- An element of an array, with the time when it was used last. -/
structure Cell where
  value : Value
  stamp : Nat

/-- A text is found in tables by the code points of its characters. -/
instance : Hashable Text :=
  ⟨fun t => t.foldl (fun h c => mixHash h (hash c.toNat)) 7⟩

/-- An array. -/
structure Table where
  cells : Std.HashMap Text Cell
  clock : Nat

namespace Table

/-- The array without elements. -/
def empty : Table := ⟨∅, 0⟩

/-- The value of a key, which is there from then on. -/
def get (a : Table) (key : Text) : Value × Table :=
  let v := match a.cells[key]? with
    | some c => c.value
    | none => .unset
  (v, ⟨a.cells.insert key ⟨v, a.clock⟩, a.clock + 1⟩)

/-- Give a key a value. -/
def set (a : Table) (key : Text) (v : Value) : Table :=
  ⟨a.cells.insert key ⟨v, a.clock⟩, a.clock + 1⟩

/-- Whether a key has a value. -/
def contains (a : Table) (key : Text) : Bool :=
  a.cells.contains key

/-- Take a key away. -/
def erase (a : Table) (key : Text) : Table :=
  { a with cells := a.cells.erase key }

/-- The hash of a key: each character is put in by an exclusive or and a product. -/
def hash (key : Text) : Nat :=
  key.foldl (fun h c => (h ^^^ c.toNat) * 16777619 % 4294967296) 2166136261

/-- The number of lists for a number of elements. -/
def listCount (size : Nat) : Nat → Nat → Nat
  | 0, n => n
  | fuel + 1, n => if size > 12 * n then listCount size fuel (2 * n) else n

/-- The keys: by the remainder of their hash, and those that were used last first. -/
def keys (a : Table) : List Text :=
  let n := listCount a.cells.size 40 64
  let all := a.cells.toList.map fun c => (hash c.1 % n, c.2.stamp, c.1)
  (all.mergeSort fun x y => x.1 < y.1 || (x.1 == y.1 && x.2.1 ≥ y.2.1)).map fun x => x.2.2

end Table

end ComponentFile.Awk
