import ComponentFile.Decimal.Double
import ComponentFile.Text.Numeral

/-!
# Numbers by a format

Formats lay numbers out in a field: in decimal or another radix, with a fixed number of places,
with an exponent, or in the shorter of these two ways.

## Main definitions

* `Quantity` : a quotient, or one of the values beyond all quotients.
* `Quantity.read` : the quantity at the front of a text.
* `Layout` : the field of a number or a text.
* `Layout.integer`, `Layout.natural`, `Layout.word`, `Layout.quantity` : filling the field.
-/

namespace ComponentFile

/-- A quotient of natural numbers with a sign, or one of the values beyond all quotients. -/
inductive Quantity where
  | finite (negative : Bool) (num den : Nat)
  | infinite (negative : Bool)
  | undefined (negative : Bool)
  deriving DecidableEq, Repr

namespace Quantity

/-- The quantity with the sign changed when asked for. -/
def signed (negative : Bool) : Quantity → Quantity
  | finite _ num den => finite negative num den
  | infinite _ => infinite negative
  | undefined _ => undefined negative

/-- A quotient rounded to a number of binary digits; a tie goes to the even neighbour. -/
def roundBits (bits : Nat) (num den : Nat) : Nat × Nat :=
  if num = 0 then (0, 1)
  else
    let exponent := Double.floorLog2 num den - ((bits : Int) - 1)
    let (a, b) := Double.shiftQuotient num den (-exponent)
    Double.shiftQuotient (Double.roundQuotient a b) 1 exponent

/-- The quantity rounded to a number of binary digits. -/
def rounded (bits : Nat) : Quantity → Quantity
  | finite negative num den =>
    let (a, b) := roundBits bits num den
    finite negative a b
  | q => q

/-- The power of a radix that an exponent behind a letter asks for, and the text behind it. -/
def readExponent (letters : Text) (t : Text) : Int × Text :=
  match t with
  | c :: u =>
    if letters.any (· == c) then
      let negative := u.head? = some '-'
      let v := if u.head? = some '-' || u.head? = some '+' then u.drop 1 else u
      let digits := v.takeWhile Char.isDigit
      if digits.isEmpty then (0, t)
      else
        let n : Int := min (Text.leadingNat digits) 5000
        (if negative then -n else n, v.drop digits.length)
    else (0, t)
  | [] => (0, t)

/-- The quantity of digits in a radix, with a fraction and an exponent, and the text behind it. -/
def readDigits (radix base : Nat) (letters : Text) (t : Text) : Option (Nat × Nat × Text) :=
  let isDigit (c : Char) : Bool := (Text.digitIn? radix c).isSome
  let whole := t.takeWhile isDigit
  let t := t.drop whole.length
  let fraction := match t with
    | '.' :: u => u.takeWhile isDigit
    | _ => []
  if whole.isEmpty && fraction.isEmpty then none
  else
    let t := if t.head? = some '.' then t.drop (fraction.length + 1) else t
    let (exponent, t) := readExponent letters t
    let significand := (Text.natIn? radix (whole ++ fraction)).getD 0
    some (significand * Nat.pow base exponent.toNat,
      Nat.pow radix fraction.length * Nat.pow base (-exponent).toNat, t)

/-- The quantity at the front of a text without a sign, and the text behind it. -/
def readUnsigned (t : Text) : Option (Quantity × Text) :=
  let lower := Text.lower (t.take 8)
  if "infinity".toList.isPrefixOf lower then some (infinite false, t.drop 8)
  else if "inf".toList.isPrefixOf lower then some (infinite false, t.drop 3)
  else if "nan".toList.isPrefixOf lower then some (undefined false, t.drop 3)
  else
    let hex := if "0x".toList.isPrefixOf lower then readDigits 16 2 ['p', 'P'] (t.drop 2) else none
    match hex.orElse fun _ => readDigits 10 10 ['e', 'E'] t with
    | some (num, den, rest) => some (finite false num den, rest)
    | none => none

/-- The quantity at the front of a text, and the text behind it. -/
def read (t : Text) : Option (Quantity × Text) :=
  match t with
  | '-' :: u => (readUnsigned u).map fun found => (found.1.signed true, found.2)
  | '+' :: u => readUnsigned u
  | u => readUnsigned u

end Quantity

/-- The field of a number or a text: how it is filled up to its width, what stands for the sign of
numbers that are not negative, whether a radix shows, and the precision. -/
structure Layout where
  left : Bool
  plus : Bool
  blank : Bool
  alternate : Bool
  zero : Bool
  width : Nat
  precision : Option Nat
  deriving DecidableEq, Repr

namespace Layout

/-- The field without any demands. -/
def plain : Layout := ⟨false, false, false, false, false, 0, none⟩

/-- Fill the field, with zeros behind the sign when they are allowed. -/
def fill (l : Layout) (zeros : Bool) (sign body : Text) : Text :=
  if l.left then Text.padRight l.width ' ' (sign ++ body)
  else if l.zero && zeros then sign ++ Text.padLeft (l.width - sign.length) '0' body
  else Text.padLeft l.width ' ' (sign ++ body)

/-- The sign of a number. -/
def sign (l : Layout) (negative : Bool) : Text :=
  if negative then ['-'] else if l.plus then ['+'] else if l.blank then [' '] else []

/-- At least as many digits as the precision asks for.  Zero has none with the precision zero. -/
def digits (l : Layout) (radix n : Nat) : Text :=
  let shown := if n = 0 && l.precision = some 0 then [] else Nat.toDigits radix n
  Text.padLeft (l.precision.getD 1) '0' shown

/-- An integer in decimal. -/
def integer (l : Layout) (i : Int) : Text :=
  l.fill l.precision.isNone (l.sign (i < 0)) (l.digits 10 i.natAbs)

/-- A natural number in a radix, with letters of either case as digits. -/
def natural (l : Layout) (radix : Nat) (upper : Bool) (n : Nat) : Text :=
  let body := l.digits radix n
  let body := if upper then body.map Char.toUpper else body
  let mark : Text := if l.alternate && radix = 16 && n ≠ 0 then
      if upper then ['0', 'X'] else ['0', 'x'] else []
  let body := if l.alternate && radix = 8 && body.head? ≠ some '0' then '0' :: body else body
  l.fill l.precision.isNone mark body

/-- A text, cut off at the precision. -/
def word (l : Layout) (t : Text) : Text :=
  l.fill false [] (match l.precision with
    | some n => t.take n
    | none => t)

/-! ### Quantities -/

/-- The places that a quantity is written with. -/
inductive Places where
  | fixed
  | exponent
  | general
  deriving DecidableEq, Repr

/-- Digits with a point before the last `places` of them. -/
def pointed (alternate : Bool) (places : Nat) (t : Text) : Text :=
  let t := Text.padLeft (places + 1) '0' t
  let whole := t.take (t.length - places)
  if places = 0 then if alternate then whole ++ ['.'] else whole
  else whole ++ '.' :: t.drop whole.length

/-- A quotient with a fixed number of places. -/
def fixedText (alternate : Bool) (places num den : Nat) : Text :=
  pointed alternate places (Text.ofNat (Double.roundQuotient (num * Nat.pow 10 places) den))

/-- The greatest power of ten that is at most a positive quotient, by its exponent; the search
begins above it. -/
def floorLog10From (num den : Nat) : Nat → Int → Int
  | 0, k => k
  | fuel + 1, k =>
    if num * Nat.pow 10 (-k).toNat ≥ den * Nat.pow 10 k.toNat then k
    else floorLog10From num den fuel (k - 1)

/-- The greatest power of ten that is at most a positive quotient, by its exponent. -/
def floorLog10 (num den : Nat) : Int :=
  let high : Int := ((Text.ofNat num).length : Int) - (Text.ofNat den).length + 1
  floorLog10From num den 3 high

/-- A quotient with one digit before the point: all digits, and the exponent. -/
def scientific (places num den : Nat) : Text × Int :=
  if num = 0 then (List.replicate (places + 1) '0', 0)
  else
    let k := floorLog10 num den
    let shift := (places : Int) - k
    let n := Double.roundQuotient (num * Nat.pow 10 shift.toNat) (den * Nat.pow 10 (-shift).toNat)
    let t := Text.ofNat n
    if t.length > places + 1 then (t.dropLast, k + 1) else (t, k)

/-- An exponent with its sign and at least two digits. -/
def exponentText (k : Int) : Text :=
  'e' :: (if k < 0 then '-' else '+') :: Text.padLeft 2 '0' (Text.ofNat k.natAbs)

/-- A decimal fraction without the zeros at its end, and without its point if no places are left. -/
def trimZeros (t : Text) : Text :=
  if t.any (· == '.') then
    let kept := t.reverse.dropWhile (· == '0')
    (if kept.head? = some '.' then kept.drop 1 else kept).reverse
  else t

/-- A quotient with a number of significant digits, in the shorter way. -/
def generalText (alternate : Bool) (precision num den : Nat) : Text :=
  let precision := max precision 1
  let (t, k) := scientific (precision - 1) num den
  let trim (t : Text) : Text := if alternate then t else trimZeros t
  if k < -4 || k ≥ precision then trim (pointed alternate (precision - 1) t) ++ exponentText k
  else trim (fixedText alternate ((precision : Int) - 1 - k).toNat num den)

/-- A quotient without its sign. -/
def quotientText (l : Layout) (places : Places) (num den : Nat) : Text :=
  let precision := l.precision.getD 6
  match places with
  | .fixed => fixedText l.alternate precision num den
  | .exponent =>
    let (t, k) := scientific precision num den
    pointed l.alternate precision t ++ exponentText k
  | .general => generalText l.alternate precision num den

/-- A quantity, with letters of either case. -/
def quantity (l : Layout) (places : Places) (upper : Bool) (q : Quantity) : Text :=
  let cased (t : Text) : Text := if upper then t.map Char.toUpper else t
  match q with
  | .finite negative num den =>
    l.fill true (l.sign negative) (cased (l.quotientText places num den))
  | .infinite negative => l.fill false (l.sign negative) (cased "inf".toList)
  | .undefined negative => l.fill false (l.sign negative) (cased "nan".toList)

end Layout

end ComponentFile
