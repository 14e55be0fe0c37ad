/-!
# Functions of natural numbers

Factorials, permutations, combinations and square roots of natural numbers.

## Main definitions

* `rangeProduct`: the product of consecutive numbers
* `factorial`, `permutations`, `combinations`
* `isqrt`: the integer square root
-/

namespace SmallLisp.Number

/-- The product of the `count` numbers from `start` on, by halves. -/
def rangeProduct (start count : Nat) : Nat :=
  if count < 2 then (if count = 0 then 1 else start)
  else rangeProduct start (count / 2) * rangeProduct (start + count / 2) (count - count / 2)
termination_by count
decreasing_by all_goals omega

/-- The product of the first `n` positive numbers. -/
def factorial (n : Nat) : Nat :=
  rangeProduct 1 n

/-- The number of ways to choose `k` of `n` things in order. -/
def permutations (n k : Nat) : Nat :=
  if n < k then 0 else rangeProduct (n - k + 1) k

/-- The number of ways to choose `k` of `n` things. -/
def combinations (n k : Nat) : Nat :=
  if n < k then 0
  else
    let j := min k (n - k)
    permutations n j / factorial j

/-- Newton's method for the integer square root, from above. -/
def isqrtFrom (n : Nat) : Nat → Nat → Nat
  | 0, x => x
  | fuel + 1, x =>
    let y := (x + n / x) / 2
    if y < x then isqrtFrom n fuel y else x

/-- The greatest integer whose square is not above `n`. -/
def isqrt (n : Nat) : Nat :=
  if n = 0 then 0 else isqrtFrom n (n.log2 + 2) (1 <<< (n.log2 / 2 + 1))

end SmallLisp.Number
