/-!
# Doubles

Numbers in settings that are not small integers are binary64 numbers.  They are kept as an integer
times a power of two, and each operation is the exact one followed by rounding to the nearest
double, in integer arithmetic only.

## Main definitions

* `Double` : a finite binary64 number.
* `Double.nearest?` : the double nearest to a quotient of natural numbers.
* `Double.scale?` : a natural number times a power of ten, rounded at each step.
-/

namespace ComponentFile

/-- A finite binary64 number: `mantissa` times two to the `exponent`, with a sign.  The mantissa
is below 2^53 and the exponent at least -1074. -/
structure Double where
  negative : Bool
  mantissa : Nat
  exponent : Int
  deriving DecidableEq, Repr

namespace Double

/-- The quotient of two natural numbers rounded to the nearest one; a half goes to the even
neighbour. -/
def roundQuotient (num den : Nat) : Nat :=
  let whole := num / den
  let twice := 2 * (num % den)
  if twice < den || (twice == den && whole % 2 == 0) then whole else whole + 1

/-- The numerator and the denominator of a quotient times two to the power `shift`. -/
def shiftQuotient (num den : Nat) (shift : Int) : Nat × Nat :=
  (num <<< shift.toNat, den <<< (-shift).toNat)

/-- The greatest power of two that is at most a positive quotient, by its exponent. -/
def floorLog2 (num den : Nat) : Int :=
  let guess : Int := (num.log2 : Int) - den.log2
  let (a, b) := shiftQuotient num den (-guess)
  if a < b then guess - 1 else guess

/-- The mantissa and the exponent of the double nearest to `num / den` times two to the power
`shift`; a tie goes to the even mantissa.  There is none beyond the greatest double. -/
def nearest? (num den : Nat) (shift : Int) : Option (Nat × Int) :=
  let (a, b) := shiftQuotient num den shift
  if a = 0 then some (0, -1074)
  else
    let exponent := max (floorLog2 a b - 52) (-1074)
    let (c, d) := shiftQuotient a b (-exponent)
    let mantissa := roundQuotient c d
    let (mantissa, exponent) :=
      if mantissa = 1 <<< 53 then (1 <<< 52, exponent + 1) else (mantissa, exponent)
    if exponent > 971 then none else some (mantissa, exponent)

/-- The double nearest to ten to the power `n`, which has to be at most 308. -/
def powerOfTen (n : Nat) : Nat × Int :=
  (nearest? (Nat.pow 10 n) 1 0).getD (0, -1074)

/-- The rounded product of two doubles without signs. -/
def mul? (x y : Nat × Int) : Option (Nat × Int) :=
  nearest? (x.1 * y.1) 1 (x.2 + y.2)

/-- The rounded quotient of two doubles without signs. -/
def div (x y : Nat × Int) : Nat × Int :=
  (nearest? x.1 y.1 (x.2 - y.2)).getD (0, -1074)

/-- A double divided by ten to the power `n`, in steps of at most 308 places. -/
def scaleDown (x : Nat × Int) (n : Nat) : Nat × Int :=
  if n ≤ 308 then div x (powerOfTen n)
  else if x.1 = 0 then x
  else scaleDown (div x (powerOfTen 308)) (n - 308)
termination_by n
decreasing_by omega

/-- The double for `significand` times ten to the power `exponent`: the significand is rounded
first, and then the product or quotient with the power of ten.  There is none beyond the greatest
double. -/
def scale? (negative : Bool) (significand : Nat) (exponent : Int) : Option Double := do
  let start ← nearest? significand 1 0
  let result ←
    if start.1 = 0 then some start
    else if exponent < 0 then some (scaleDown start (-exponent).toNat)
    else if exponent ≤ 308 then mul? start (powerOfTen exponent.toNat)
    else none
  return ⟨negative, result.1, result.2⟩

end Double

end ComponentFile
