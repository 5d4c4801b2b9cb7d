import ComponentFile.Text.Basic

/-!
# Numerals

## Main definitions

* `Text.ofNat`, `Text.ofInt` : a number in decimal.
* `Text.natIn?`, `Text.nat?`, `Text.int?` : the number that a text is.
* `Text.leadingNat` : the number at the front of a text.
-/

namespace ComponentFile.Text

/-- A natural number in decimal. -/
def ofNat (n : Nat) : Text :=
  Nat.toDigits 10 n

/-- An integer in decimal. -/
def ofInt (i : Int) : Text :=
  if i < 0 then '-' :: ofNat i.natAbs else ofNat i.natAbs

/-- The value of a character as a digit below the radix. -/
def digitIn? (radix : Nat) (c : Char) : Option Nat :=
  (hexDigit? c).filter (· < radix)

/-- The number that digits stand for. -/
def natIn? (radix : Nat) (t : Text) : Option Nat :=
  if t.isEmpty then none
  else t.foldlM (fun n c => (digitIn? radix c).map fun d => n * radix + d) 0

/-- The number that a text of decimal digits is. -/
def nat? (t : Text) : Option Nat :=
  natIn? 10 t

/-- The number that a text of decimal digits is, with a sign or without one. -/
def int? : Text → Option Int
  | '-' :: t => (nat? t).map fun n => -(n : Int)
  | '+' :: t => (nat? t).map Int.ofNat
  | t => (nat? t).map Int.ofNat

/-- The number that the decimal digits at the front of a text stand for; zero without any. -/
def leadingNat (t : Text) : Nat :=
  (nat? (t.takeWhile Char.isDigit)).getD 0

/-- A text filled up in front to a width. -/
def padLeft (width : Nat) (fill : Char) (t : Text) : Text :=
  List.replicate (width - t.length) fill ++ t

/-- A text filled up behind to a width. -/
def padRight (width : Nat) (fill : Char) (t : Text) : Text :=
  t ++ List.replicate (width - t.length) fill

/-! ### Integers of 64 bits -/

/-- The greatest integer of 64 bits. -/
def maxInt64 : Int := 9223372036854775807

/-- The integer of 64 bits that an integer leaves when the bits above are lost. -/
def wrap64 (i : Int) : Int :=
  let m := i % 18446744073709551616
  if m > maxInt64 then m - 18446744073709551616 else m

/-- The integer of 64 bits that is nearest to an integer. -/
def clamp64 (i : Int) : Int :=
  max (-maxInt64 - 1) (min maxInt64 i)

end ComponentFile.Text
