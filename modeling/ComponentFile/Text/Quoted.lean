import ComponentFile.Text.Basic
import ComponentFile.Text.Unprintable

/-!
# Quoted texts

Messages show a text between double quotation marks, with a backslash form for everything that
would not show as itself.

## Main definitions

* `Text.quote` : the quoted form of a text.
-/

namespace ComponentFile.Text

/-- The form of a character between quotation marks. -/
def quoteChar (c : Char) : Text :=
  match c with
  | '\x00' => ['\\', '0']
  | '\t' => ['\\', 't']
  | '\n' => ['\\', 'n']
  | '\r' => ['\\', 'r']
  | '"' => ['\\', '"']
  | '\\' => ['\\', '\\']
  | _ =>
    if c.toNat < 0x20 || c.toNat == 0x7F || isUnprintable c then
      ['\\', 'u', '\x7b'] ++ Nat.toDigits 16 c.toNat ++ ['\x7d']
    else [c]

/-- A text between quotation marks. -/
def quote (t : Text) : Text :=
  '"' :: t.flatMap quoteChar ++ ['"']

end ComponentFile.Text
