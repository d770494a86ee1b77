import CanaryGate.Numeric.Binary64

/-!
# Sums of doubles

The order in which a list of doubles is added, which decides the last bits of the sum. Short lists
are added from left to right, medium ones in eight lanes, and long ones are split in two.
-/

namespace CanaryGate

namespace Binary64

/-- Negative zero, which changes no double it is added to. -/
def negativeZero : Binary64 := ofRank true 0

/-- Added from left to right. -/
def sumInOrder (start : Binary64) (xs : List Binary64) : Binary64 := xs.foldl add start

/-- Each row of eight added to eight lanes, until fewer than eight are left; `rows` bounds the rows. -/
def sumLanes : Nat → List Binary64 → List Binary64 → List Binary64 × List Binary64
  | 0, lanes, xs => (lanes, xs)
  | rows + 1, lanes, xs =>
    if xs.length < 8 then (lanes, xs)
    else sumLanes rows (List.zipWith add lanes (xs.take 8)) (xs.drop 8)

/-- The lanes added as a tree, then what was left over in order. -/
def sumBlocks (xs : List Binary64) : Binary64 :=
  match sumLanes xs.length (xs.take 8) (xs.drop 8) with
  | ([a, b, c, d, e, f, g, h], rest) =>
    sumInOrder (((a.add b).add (c.add d)).add ((e.add f).add (g.add h))) rest
  | (lanes, rest) => sumInOrder negativeZero (lanes ++ rest)

/-- The sum of a list; `depth` bounds how often it is split. -/
def sumSplit : Nat → List Binary64 → Binary64
  | 0, xs => sumInOrder negativeZero xs
  | depth + 1, xs =>
    let n := xs.length
    if n < 8 then sumInOrder negativeZero xs
    else if n ≤ 128 then sumBlocks xs
    else
      let half := n / 2 - (n / 2) % 8
      (sumSplit depth (xs.take half)).add (sumSplit depth (xs.drop half))

def sum (xs : List Binary64) : Binary64 := zero.add (sumSplit xs.length xs)

end Binary64

end CanaryGate
