import ComponentFile.Text.Basic

/-!
# Punycode

A label of a domain name that is not ASCII is written in ASCII as its ASCII characters, a hyphen,
and the places and values of the others.  These are numbers in base 36 whose lowest digits come
first; each ends with a digit below a threshold, which adapts to the size of the numbers before.

## Main definitions

* `Url.Punycode.decode?` : the code points that such a text stands for.
-/

namespace ComponentFile.Url.Punycode

/-- The value of a digit: letters come before decimal digits, in either case. -/
def digitValue? (c : Char) : Option Nat :=
  if c.isLower then some (c.toNat - 'a'.toNat)
  else if c.isUpper then some (c.toNat - 'A'.toNat)
  else if c.isDigit then some (c.toNat - '0'.toNat + 26)
  else none

/-- The threshold of the digit at a place, counted in steps of 36. -/
def threshold (place bias : Nat) : Nat :=
  if place ≤ bias then 1 else if bias + 26 ≤ place then 26 else place - bias

/-- The number of times by which a step is divided by 35 to come to at most 455, in steps of 36,
and what is left. -/
def shrink (steps delta : Nat) : Nat × Nat :=
  if h : delta > 455 then
    have : delta / 35 < delta := Nat.div_lt_self (by omega) (by omega)
    shrink (steps + 36) (delta / 35)
  else (steps, delta)
termination_by delta

/-- The bias behind a number `delta` that placed one of `count` characters. -/
def adapt (delta count : Nat) (isFirst : Bool) : Nat :=
  let delta := if isFirst then delta / 700 else delta / 2
  let (steps, delta) := shrink 0 (delta + delta / count)
  steps + 36 * delta / (delta + 38)

/-- The number at the front of a text, and the text behind it. -/
def readNumber? (bias : Nat) (value weight place : Nat) : Text → Option (Nat × Text)
  | [] => none
  | c :: t =>
    match digitValue? c with
    | none => none
    | some d =>
      let value := value + d * weight
      let limit := threshold place bias
      if d < limit then some (value, t)
      else readNumber? bias value (weight * (36 - limit)) (place + 36) t

/-- The greatest number that may occur. -/
def maxNumber : Nat := 0xFFFFFFFF

/-- Insert the characters that the numbers in a text describe, of which there are at most as many
as `bound` says: each number counts on through the places of the characters and their values. -/
def insertFrom : Nat → Nat → Nat → Nat → List Nat → Text → Option (List Nat)
  | _, _, _, _, done, [] => some done
  | 0, _, _, _, _, _ :: _ => none
  | bound + 1, bias, position, code, done, c :: t =>
    match readNumber? bias 0 1 36 (c :: t) with
    | none => none
    | some (delta, rest) =>
      let count := done.length + 1
      let total := position + delta
      let next := code + total / count
      let place := total % count
      if total > maxNumber || !decide next.isValidChar then none
      else
        insertFrom bound (adapt delta count (position == 0)) (place + 1) next
          (done.take place ++ next :: done.drop place) rest

/-- The code points that a text stands for. -/
def decode? (t : Text) : Option (List Nat) :=
  let numbers := (t.reverse.takeWhile (· != '-')).reverse
  let plain := t.take (t.length - numbers.length - 1)
  if plain.isEmpty && numbers.length < t.length then none
  else insertFrom t.length 72 0 128 (plain.map Char.toNat) numbers

end ComponentFile.Url.Punycode
