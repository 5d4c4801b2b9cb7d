import ComponentFile.Decimal.Double
import ComponentFile.Text.Basic

/-!
# Shortest decimal text

A double is written with the fewest digits that read back as the same double, and of those
decimals the one nearest to it.

## Main definitions

* `Double.shortest` : the digits and the power of ten.
* `Double.text` : the layout of these digits.
-/

namespace ComponentFile.Double

/-- Whether `a` times ten to the power `k` is less than `b` times two to the power `e`, or, with
`orEqual`, equal to it. -/
def tenLtTwo (a : Nat) (k : Int) (b : Nat) (e : Int) (orEqual : Bool) : Bool :=
  let left := (a * Nat.pow 10 k.toNat) <<< (-e).toNat
  let right := (b * Nat.pow 10 (-k).toNat) <<< e.toNat
  left < right || (orEqual && left == right)

/-- Whether `b` times two to the power `e` is less than `a` times ten to the power `k`, or, with
`orEqual`, equal to it. -/
def twoLtTen (b : Nat) (e : Int) (a : Nat) (k : Int) (orEqual : Bool) : Bool :=
  !tenLtTwo a k b e (!orEqual)

/-- Whether `d` times ten to the power `k` reads back as the double with this mantissa and
exponent: it lies between the two middles to the neighbouring doubles, which count when the
mantissa is even. -/
def readsBack (mantissa : Nat) (exponent : Int) (d : Nat) (k : Int) : Bool :=
  let even := mantissa % 2 == 0
  let below := if mantissa = 1 <<< 52 && exponent > -1074 then 1 else 2
  twoLtTen (4 * mantissa - below) (exponent - 2) d k even &&
    tenLtTwo d k (4 * mantissa + 2) (exponent - 2) even

/-- The best multiple of ten to the power `k` that reads back, if there is one: a neighbour of the
double on this grid, the nearer one if both do, and the even one if they are equally near. -/
def onGrid? (mantissa : Nat) (exponent : Int) (k : Int) : Option Nat :=
  let lower := ((mantissa * Nat.pow 10 (-k).toNat) <<< exponent.toNat) /
    (Nat.pow 10 k.toNat <<< (-exponent).toNat)
  let upper := lower + 1
  let lowerFits := lower ≠ 0 && readsBack mantissa exponent lower k
  let upperFits := readsBack mantissa exponent upper k
  if lowerFits && upperFits then
    let middle := 2 * lower + 1
    if tenLtTwo middle k (2 * mantissa) exponent false then some upper
    else if twoLtTen (2 * mantissa) exponent middle k false then some lower
    else some (if lower % 2 = 0 then lower else upper)
  else if lowerFits then some lower
  else if upperFits then some upper
  else none

/-- The first grid, from coarse to fine, with a decimal that reads back. -/
def searchGrids (mantissa : Nat) (exponent : Int) : Nat → Int → Nat × Int
  | 0, k => (0, k)
  | fuel + 1, k =>
    match onGrid? mantissa exponent k with
    | some d => (d, k)
    | none => searchGrids mantissa exponent fuel (k - 1)

/-- The fewest digits that read back as the double, as an integer and a power of ten. -/
def shortest (mantissa : Nat) (exponent : Int) : Nat × Int :=
  let top := ((mantissa.log2 : Int) + exponent + 1) * 30103 / 100000 + 2
  searchGrids mantissa exponent 25 top

/-- The text of a double.  The point stands among the digits, or up to sixteen places behind the
first digit, or up to five zeros before it; otherwise the digits come in scientific form, with the
sign of the power of ten. -/
def text (x : Double) : Text :=
  let sign := if x.negative then ['-'] else []
  if x.mantissa = 0 then sign ++ "0.0".toList
  else
    let (d, k) := shortest x.mantissa x.exponent
    let digits := Nat.toDigits 10 d
    let place := (digits.length : Int) + k
    sign ++
      if 0 ≤ k && place ≤ 16 then digits ++ List.replicate k.toNat '0' ++ ".0".toList
      else if 0 < place && place ≤ 16 then
        digits.take place.toNat ++ '.' :: digits.drop place.toNat
      else if -5 < place && place ≤ 0 then
        "0.".toList ++ List.replicate (-place).toNat '0' ++ digits
      else
        let tail := if digits.length = 1 then [] else '.' :: digits.drop 1
        digits.take 1 ++ tail ++ 'e' :: (if place ≤ 0 then [] else ['+']) ++
          (toString (place - 1)).toList

end ComponentFile.Double
