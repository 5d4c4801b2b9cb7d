import ComponentFile.Decimal.Double
import ComponentFile.Text.Basic

/-!
# JSON numbers

A numeral is the written form of a number.  Its value is an integer when it is written as one and
fits into 64 bits, and a double otherwise.

## Main definitions

* `Json.Numeral`, `Numeral.read?` : numerals and how they are found in a text.
* `Json.Number`, `Numeral.value?` : numbers and the number that a numeral stands for.
-/

namespace ComponentFile.Json

/-- A number: an integer between `-2^63` and `2^64 - 1`, or a double. -/
inductive Number where
  | integer (value : Int)
  | double (value : Double)
  deriving DecidableEq, Repr

/-- A numeral as written.  The exponent is its sign, true for a negative one, and its digits. -/
structure Numeral where
  negative : Bool
  whole : Text
  fraction : Option Text
  exponent : Option (Bool × Text)
  deriving DecidableEq, Repr

namespace Numeral

/-- The digits at the front of a text, if there are any, and the text behind them. -/
def readDigits? (t : Text) : Option (Text × Text) :=
  match t.takeWhile Char.isDigit with
  | [] => none
  | digits => some (digits, t.dropWhile Char.isDigit)

/-- The fraction at the front of a text, if there is one.  The whole result is `none` when no
digit follows the point. -/
def readFraction? : Text → Option (Option Text × Text)
  | '.' :: t => (readDigits? t).map fun found => (some found.1, found.2)
  | t => some (none, t)

/-- The exponent at the front of a text, if there is one.  The whole result is `none` when it has
no digit. -/
def readExponent? : Text → Option (Option (Bool × Text) × Text)
  | [] => some (none, [])
  | c :: t =>
    if c = 'e' || c = 'E' then
      let (negative, u) := match t with
        | '-' :: u => (true, u)
        | '+' :: u => (false, u)
        | u => (false, u)
      (readDigits? u).map fun found => (some (negative, found.1), found.2)
    else some (none, c :: t)

/-- The numeral at the front of a text, and the text behind it.  A zero in front of other digits
is a fault. -/
def read? (t : Text) : Option (Numeral × Text) := do
  let (negative, t) := match t with
    | '-' :: u => (true, u)
    | u => (false, u)
  let (whole, t) ← readDigits? t
  if whole.head? = some '0' && whole.length > 1 then none
  let (fraction, t) ← readFraction? t
  let (exponent, t) ← readExponent? t
  return (⟨negative, whole, fraction, exponent⟩, t)

/-- The number that a list of digits stands for. -/
def digitsValue (digits : Text) : Nat :=
  digits.foldl (fun n c => n * 10 + (c.toNat - '0'.toNat)) 0

/-- Append digits to a number as long as it stays below `2^64`; the digits from the first one that
does not fit are left. -/
def absorb (n : Nat) : Text → Nat × Text
  | [] => (n, [])
  | c :: t =>
    let longer := n * 10 + (c.toNat - '0'.toNat)
    if longer < 1 <<< 64 then absorb longer t else (n, c :: t)

/-- The number that a numeral stands for; `none` beyond the greatest double.  Digits that do not
fit into 64 bits count for their place only. -/
def value? (n : Numeral) : Option Number :=
  let (head, left) := absorb 0 n.whole
  if n.fraction.isNone && n.exponent.isNone && left.isEmpty then
    if !n.negative then some (.integer head)
    else if head = 0 || head > 1 <<< 63 then (Double.scale? true head 0).map .double
    else some (.integer (-head))
  else
    let fraction := n.fraction.getD []
    let (significand, unread) := absorb head fraction
    let point : Int := (left.length : Int) - (fraction.length - unread.length)
    let power : Int := match n.exponent with
      | none => 0
      | some (true, digits) => -(digitsValue digits : Int)
      | some (false, digits) => digitsValue digits
    (Double.scale? n.negative significand (point + power)).map .double

end Numeral

end ComponentFile.Json
