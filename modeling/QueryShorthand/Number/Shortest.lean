import QueryShorthand.Number.Decimal

/-!
The shortest decimal that rounds to a given binary number, and the text of a number without an
exponent.
-/

namespace QueryShorthand

inductive Tie where
  | up
  | even
  deriving DecidableEq, Repr

namespace Binary64

/-- The bounds of the reals that round to `x`, in quarters of its unit in the last place. Below a
power of two the numbers lie closer together. -/
def quarterBounds (x : Binary64) : Nat × Nat :=
  let m := 4 * x.significand
  (m - if x.fraction.val = 0 ∧ 1 < x.exponent.val then 1 else 2, m + 2)

/-- `c · 10 ^ k` rounds to `x`; the bounds themselves do if the significand is even. -/
def admits (x : Binary64) (k : Int) (c : Nat) : Bool :=
  let (low, high) := x.quarterBounds
  let (ln, ld) := scaled low 1 2 (x.scale - 2)
  let (hn, hd) := scaled high 1 2 (x.scale - 2)
  let (n, d) := scaled c 1 10 k
  if x.significand % 2 = 0 then ln * d ≤ n * ld && n * hd ≤ hn * d
  else ln * d < n * ld && n * hd < hn * d

/-- How many digits the whole part of a positive number has; for one below 1, minus the number of
zeros that follow the point. -/
def wholeDigits (x : Binary64) : Int :=
  let (n, d) := x.magnitude
  (Decimal.digitCount (n * Nat.pow 10 400 / d) : Int) - 400

/-- The neighbour of `x` on the grid of multiples of `10 ^ k` that rounds to `x`, the nearer one if
both do. -/
def onGrid? (tie : Tie) (x : Binary64) (k : Int) : Option Nat :=
  let (n, d) := x.magnitude
  let (n, d) := scaled n d 10 (-k)
  let low := n / d
  let rest := n % d
  match x.admits k low, x.admits k (low + 1) with
  | false, false => none
  | true, false => some low
  | false, true => some (low + 1)
  | true, true =>
    if 2 * rest < d then some low
    else if d < 2 * rest then some (low + 1)
    else match tie with
      | .up => some (low + 1)
      | .even => some (low + low % 2)

/-- The shortest decimal that rounds to the finite number `x`, and of those the nearest. Seventeen
digits always suffice. -/
def shortest (tie : Tie) (x : Binary64) : Decimal :=
  if x.isZero then ⟨x.negative, 0, 0⟩
  else
    let top := x.wholeDigits
    let found := (List.range 17).findSome? fun i =>
      let k := top - ((i + 1 : Nat) : Int)
      (x.onGrid? tie k).map fun c => (⟨x.negative, c, k⟩ : Decimal)
    (found.getD ⟨x.negative, 0, 0⟩).trimmed

def text (x : Binary64) : Text :=
  if x.isNaN then "NaN".toList
  else if x.isFinite then (x.shortest .up).positional
  else if x.negative then "-inf".toList
  else "inf".toList

end Binary64

end QueryShorthand
