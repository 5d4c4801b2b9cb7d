import ComponentFile.Text.Utf8

/-!
# Percent encoding

## Main definitions

* `Url.percentEncode` : a path segment as it is written in a URL.
* `Url.percentDecode` : the bytes that a part of a URL stands for.
-/

namespace ComponentFile.Url

/-- Whether a byte of a path segment is written as itself: the visible ASCII characters but a few
that have a meaning in URLs or do not belong there. -/
def isPlain (b : UInt8) : Bool :=
  0x20 < b && b < 0x7F &&
    !("\"#%/<>?\\\x60\x7b\x7d".toList.contains (Char.ofNat b.toNat))

/-- The capital hexadecimal digit of a number below sixteen. -/
def hexDigit (n : Nat) : Char :=
  if n < 10 then Char.ofNat ('0'.toNat + n) else Char.ofNat ('A'.toNat + (n - 10))

/-- A byte in a path segment. -/
def percentEncodeByte (b : UInt8) : Text :=
  if isPlain b then [Char.ofNat b.toNat]
  else ['%', hexDigit (b.toNat / 16), hexDigit (b.toNat % 16)]

/-- A path segment as it is written in a URL. -/
def percentEncode (segment : Text) : Text :=
  (Text.encode segment).flatMap percentEncodeByte

/-- The byte that two hexadecimal digits stand for. -/
def hexByte? (a b : Char) : Option UInt8 := do
  let high ← Text.hexDigit? a
  let low ← Text.hexDigit? b
  return UInt8.ofNat (high * 16 + low)

/-- The bytes that a part of a URL stands for.  A percent sign without two hexadecimal digits
stands for itself. -/
def percentDecode : Text → Bytes
  | [] => []
  | '%' :: a :: b :: t =>
    match hexByte? a b with
    | some byte => byte :: percentDecode t
    | none => 0x25 :: percentDecode (a :: b :: t)
  | c :: t => String.utf8EncodeChar c ++ percentDecode t

end ComponentFile.Url
