import ComponentFile.Tools.Words

/-!
# Prime factors

## Main definitions

* `Factors.ofNat` : the prime factors of a number.
* `Tools.factor` : the tool that prints them.
-/

namespace ComponentFile

open Text Tool Tools

namespace Factors

/-- The prime factors of a number that has none below `d`, at most as many steps as `bound` says
being made to find them. -/
def search (bound d n : Nat) : List Nat :=
  match bound with
  | 0 => if n ≤ 1 then [] else [n]
  | bound + 1 =>
    if n ≤ 1 then []
    else if n < d * d then [n]
    else if n % d = 0 then d :: search bound d (n / d)
    else search bound (if d = 2 then 3 else d + 2) n

/-- The number of steps that are made to find factors. -/
def maxSteps : Nat := 20000000

/-- The prime factors of a number. -/
def ofNat (n : Nat) : List Nat :=
  search maxSteps 2 n

end Factors

/-- Print the prime factors of numbers. -/
def Tools.factor : Tool Nat :=
  withOptions ⟨"h", [("exponents", 'h', .never)], true⟩ 1 fun options operands => do
    let ws ← if operands.isEmpty then (do return words (← input)) else pure operands
    let shown (n : Nat) : Text :=
      let found := Factors.ofNat n
      let parts := if given options 'h' then
          found.eraseDups.map fun p =>
            let count := found.count p
            if count = 1 then Text.ofNat p else Text.ofNat p ++ '^' :: Text.ofNat count
        else found.map Text.ofNat
      Text.ofNat n ++ [':'] ++ (parts.flatMap fun t => ' ' :: t)
    let (lines, code) ← ws.foldlM (fun (lines, code) w => do
      match nat? (if w.head? = some '+' then w.drop 1 else w) with
      | none =>
        complain (quotedPlain w ++ " is not a valid positive integer".toList)
        return (lines, 1)
      | some n => return (shown n :: lines, code)) (([] : List Text), 0)
    say (joinLines lines.reverse)
    return code

end ComponentFile
