/-!
# Pieces of equal length

## Main definitions

* `chunks` : the pieces of a list that have a given length, the last one perhaps less.
-/

namespace ComponentFile

/-- The pieces of a list, put behind those that are known in reverse; the piece that is being read
is kept in reverse, with its length. -/
def chunksFrom {α : Type} (n : Nat) (done : List (List α)) (piece : List α) (size : Nat) :
    List α → List (List α)
  | [] => (if piece.isEmpty then done else piece.reverse :: done).reverse
  | x :: rest =>
    if size + 1 = n then chunksFrom n ((x :: piece).reverse :: done) [] 0 rest
    else chunksFrom n done (x :: piece) (size + 1) rest

/-- The pieces of a list that have `n` members, the last one perhaps fewer. -/
def chunks {α : Type} (n : Nat) (xs : List α) : List (List α) :=
  chunksFrom n [] [] 0 xs

end ComponentFile
