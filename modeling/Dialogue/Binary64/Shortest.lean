import Dialogue.Binary64.Basic

/-!
# Shortest decimals

`shortest` is the decimal with the fewest digits among those that are nearer to
a number than to any other one, and the nearest of these to the number itself.
A decimal on the border between two numbers counts for the one with the even
significand.

On the grid of decimals with a fixed number of digits only the two neighbours of
the number need a test: if any grid point lies in the interval, one of them
does. Seventeen digits always suffice.
-/

namespace Dialogue

/-- The number `coefficient · 10 ^ exponent`. -/
structure Decimal where
  coefficient : Nat
  exponent : Int
  deriving DecidableEq, Repr

/-- Which way a choice between two equally near neighbours goes. -/
inductive Tie where
  | even
  | up
  deriving DecidableEq, Repr

namespace Binary64

/-- The greatest `e` with `10 ^ e ≤ n / d`, for positive `n` and `d`. -/
def floorLog10 (n d : Nat) : Int :=
  let e : Int := ((Nat.toDigits 10 n).length : Int) - (Nat.toDigits 10 d).length
  if n * Nat.pow 10 (-e).toNat < d * Nat.pow 10 e.toNat then e - 1 else e

/-- The reals that round to a number: all in quarters of its last binary place,
which is `unit.1 / unit.2`. -/
structure Interval where
  low : Nat
  centre : Nat
  high : Nat
  unit : Nat × Nat
  /-- The ends belong to the interval. -/
  closed : Bool

/-- The reals that round to a positive finite number. Below a power of two the
next smaller number is only half as far away. -/
def interval (x : Binary64) : Interval where
  low := 4 * x.significand - if x.fraction = 0 ∧ 1 < x.field then 1 else 2
  centre := 4 * x.significand
  high := 4 * x.significand + 2
  unit := (Nat.pow 2 (x.exponent - 2).toNat, Nat.pow 2 (2 - x.exponent).toNat)
  closed := x.significand % 2 == 0

/-- A quarter of the last binary place, as a fraction of `10 ^ k`. -/
def Interval.quarter (i : Interval) (k : Int) : Nat × Nat :=
  (i.unit.1 * Nat.pow 10 (-k).toNat, i.unit.2 * Nat.pow 10 k.toNat)

/-- The decimal `c · 10 ^ k` lies in the interval. -/
def Interval.holds (i : Interval) (c : Nat) (k : Int) : Bool :=
  let (n, d) := i.quarter k
  if i.closed then i.low * n ≤ c * d && c * d ≤ i.high * n
  else i.low * n < c * d && c * d < i.high * n

/-- The neighbour of the centre on the grid of multiples of `10 ^ k` that lies in
the interval; of two the nearer one, and at a tie as `tie` says. -/
def Interval.onGrid (i : Interval) (tie : Tie) (k : Int) : Option Nat :=
  let (n, d) := i.quarter k
  let below := i.centre * n / d
  match i.holds below k, i.holds (below + 1) k with
  | true, false => some below
  | false, true => some (below + 1)
  | false, false => none
  | true, true =>
    match compare (2 * (i.centre * n % d)) d, tie with
    | .lt, _ => some below
    | .gt, _ => some (below + 1)
    | .eq, .up => some (below + 1)
    | .eq, .even => some (if below % 2 = 0 then below else below + 1)

/-- Tries grids of ever more digits, the first one multiples of `10 ^ k`. -/
def Interval.search (i : Interval) (tie : Tie) : Nat → Int → Decimal
  | 0, k => ⟨i.centre * (i.quarter k).1 / (i.quarter k).2, k⟩
  | grids + 1, k =>
    match i.onGrid tie k with
    | some c => ⟨c, k⟩
    | none => i.search tie grids (k - 1)

/-- The shortest decimal that reads back as a positive finite number. -/
def shortest (tie : Tie) (x : Binary64) : Decimal :=
  (interval x).search tie 17 (floorLog10 x.ratio.1 x.ratio.2)

example : shortest .even ⟨0x3FB999999999999A⟩ = ⟨1, -1⟩ := by decide +kernel
example : shortest .even ⟨1⟩ = ⟨5, -324⟩ := by decide +kernel
example : shortest .even ⟨0x44B52D02C7E14AF6⟩ = ⟨10, 22⟩ := by decide +kernel

end Binary64

end Dialogue
