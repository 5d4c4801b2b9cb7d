import ComponentFile.Url.Domain
import ComponentFile.Url.Percent

/-!
# Hosts

The host of a URL is a domain or a numeric address.  Only the forms matter here: which texts are
hosts at all, and which of them name this computer.

## Main definitions

* `Url.Host` : no host, a domain, or an address.
* `Url.Host.readDomain?` : the host of a URL whose scheme is one of the special ones.
* `Url.Host.readOther?` : the host of another URL.
-/

namespace ComponentFile.Url

/-- The host of a URL. -/
inductive Host where
  | none
  | domain (name : Text)
  | address
  deriving DecidableEq, Repr

/-- The characters that no host may hold. -/
def isForbiddenInHost (c : Char) : Bool :=
  "\x00\t\n\r #/:<>?@[\\]^|".toList.contains c

/-- The characters that no domain may hold. -/
def isForbiddenInDomain (c : Char) : Bool :=
  isForbiddenInHost c || c.toNat < 0x20 || c == '%' || c == '\x7f'

/-! ### Addresses of version 4 -/

/-- The value of digits in a base up to sixteen. -/
def digitsIn? (base : Nat) (digits : Text) : Option Nat :=
  digits.foldlM (fun n c =>
    (Text.hexDigit? c).bind fun d => if d < base then some (n * base + d) else .none) 0

/-- A number of an address: decimal, octal behind `0`, or hexadecimal behind `0x`. -/
def addressNumber? : Text → Option Nat
  | [] => .none
  | '0' :: 'x' :: t => digitsIn? 16 t
  | '0' :: 'X' :: t => digitsIn? 16 t
  | '0' :: c :: t => digitsIn? 8 (c :: t)
  | t => digitsIn? 10 t

/-- The parts of a domain between dots, without an empty part at the end. -/
def labels (name : Text) : List Text :=
  let parts := name.splitOn '.'
  if parts.length > 1 && parts.getLast? = some [] then parts.dropLast else parts

/-- Whether the last part of a domain is a number, so that the whole has to be an address. -/
def endsInNumber (name : Text) : Bool :=
  match (labels name).getLast? with
  | some last => !last.isEmpty && (last.all Char.isDigit || (addressNumber? last).isSome)
  | _ => false

/-- Whether a text is an address of version 4.  The last of at most four numbers fills the bytes
that are left. -/
def isAddress4 (name : Text) : Bool :=
  match (labels name).mapM addressNumber? with
  | some numbers =>
    numbers.length ≤ 4 && numbers.dropLast.all (· ≤ 255) &&
      (numbers.getLast?.getD 0) < Nat.pow 256 (5 - numbers.length)
  | _ => false

/-! ### Addresses of version 6 -/

/-- Whether a text is one of the bytes at the end of an address of version 6. -/
def isDecimalByte (t : Text) : Bool :=
  !t.isEmpty && t.length ≤ 3 && t.all Char.isDigit && (t.length == 1 || t.head? != some '0') &&
    ((digitsIn? 10 t).getD 256) ≤ 255

/-- The number of 16-bit groups that a part between colons stands for; the last part may be four
decimal bytes. -/
def groupCount? (isLast : Bool) (part : Text) : Option Nat :=
  if !part.isEmpty && part.length ≤ 4 && (digitsIn? 16 part).isSome then some 1
  else if isLast && (part.splitOn '.').length == 4 && (part.splitOn '.').all isDecimalByte then
    some 2
  else .none

/-- The number of groups in a text between the ends or the double colon of an address. -/
def groups? (atEnd : Bool) (t : Text) : Option Nat :=
  if t.isEmpty then some 0
  else
    let parts := t.splitOn ':'
    (parts.zipIdx.mapM fun (part, i) => groupCount? (atEnd && i + 1 == parts.length) part).map
      (List.foldl (· + ·) 0)

/-- Whether a text is an address of version 6: eight groups, or fewer around a double colon. -/
def isAddress6 (t : Text) : Bool :=
  match Text.cut? [':', ':'] t with
  | some (before, after) =>
    match groups? false before, groups? true after with
    | some m, some n => m + n ≤ 7
    | _, _ => false
  | .none => groups? true t == some 8

/-! ### Hosts -/

/-- The address between square brackets. -/
def readBracketed? (t : Text) : Option Host :=
  if t.getLast? = some ']' && isAddress6 (t.drop 1).dropLast then some .address else .none

namespace Host

/-- The host of a URL with a special scheme. -/
def readDomain? (t : Text) : Option Host :=
  if t.head? = some '[' then readBracketed? t
  else
    match Domain.name? (Text.decodeLossy (percentDecode t)) with
    | Option.none => Option.none
    | some name =>
      if name.isEmpty || name.any isForbiddenInDomain then Option.none
      else if endsInNumber name then
        if isAddress4 name then some .address else Option.none
      else some (.domain name)

/-- The host of a URL with any other scheme. -/
def readOther? (t : Text) : Option Host :=
  if t.isEmpty then some none
  else if t.head? = some '[' then readBracketed? t
  else if t.any isForbiddenInHost then Option.none
  else some (.domain t)

/-- Whether the host is this computer. -/
def isLocal : Host → Bool
  | none => true
  | domain name => name == "localhost".toList
  | address => false

end Host

end ComponentFile.Url
