import ThreeAddress.Bytes

/-!
# Edit distance

How many bytes have to be inserted, removed or replaced to turn one word into another. The distances
to all beginnings of the target are kept in a row, and every byte of the word gives the next row.
-/

namespace ThreeAddress.EditDistance

/-- The rest of the next row: `left` is the distance just computed, and the old row starts with the
distance diagonally above. -/
def fillRow (c : UInt8) : (left : Nat) → Bytes → List Nat → List Nat
  | left, x :: target, diagonal :: up :: row =>
    let d := if c == x then diagonal else min (min up left) diagonal + 1
    d :: fillRow c d target (up :: row)
  | _, _, _ => []

/-- The row behind a further byte of the word. -/
def nextRow (target : Bytes) (row : List Nat) (c : UInt8) : List Nat :=
  let first := row.headD 0 + 1
  first :: fillRow c first target row

/-- The number of changes that turn one word into another. -/
def distance (word target : Bytes) : Nat :=
  (word.foldl (nextRow target) (List.range (target.length + 1))).getLast?.getD 0

end ThreeAddress.EditDistance
