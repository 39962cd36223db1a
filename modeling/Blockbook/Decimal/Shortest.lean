/-!
# Shortest decimals

The decimal with the fewest digits that still reads back as a given binary number. A binary number
`m * 2 ^ q` stands for all reals that round to it, an interval around it. `shortest` walks down the
powers of ten and stops at the first one that has a multiple in the interval. All arithmetic is on
natural numbers.
-/

namespace Blockbook

/-- The number `digits * 10 ^ exponent`. -/
structure Decimal where
  digits : Nat
  exponent : Int
deriving DecidableEq, Repr

namespace Decimal

/-- A fraction of natural numbers. -/
structure Ratio where
  num : Nat
  den : Nat

/-- The number `n * 2 ^ e` as a fraction. -/
def Ratio.scale2 (n : Nat) (e : Int) : Ratio := ⟨n * Nat.pow 2 e.toNat, Nat.pow 2 (-e).toNat⟩

/-- Comparison of `a` with `n * 10 ^ k`. -/
def Ratio.compareWith (a : Ratio) (n : Nat) (k : Int) : Ordering :=
  compare (a.num * Nat.pow 10 (-k).toNat) (n * Nat.pow 10 k.toNat * a.den)

/-- The greatest `n` with `n * 10 ^ k` at most `a`. -/
def Ratio.floorAt (a : Ratio) (k : Int) : Nat :=
  (a.num * Nat.pow 10 (-k).toNat) / (Nat.pow 10 k.toNat * a.den)

/-- The reals that round to one binary number, which is one of them. The ends belong to them when
its significand is even. -/
structure Interval where
  low : Ratio
  value : Ratio
  high : Ratio
  closed : Bool

/-- Whether `n * 10 ^ k` lies in the interval. -/
def Interval.holds (i : Interval) (n : Nat) (k : Int) : Bool :=
  match i.low.compareWith n k, i.high.compareWith n k with
  | .lt, .gt => true
  | .eq, _ => i.closed
  | _, .eq => i.closed
  | _, _ => false

/-- The multiple of `10 ^ k` in the interval that is nearest to its value, and of two equally near
ones the even one. -/
def Interval.nearest? (i : Interval) (k : Int) : Option Nat :=
  let below := i.value.floorAt k
  match i.holds below k, i.holds (below + 1) k with
  | true, true =>
    match (⟨2 * i.value.num, i.value.den⟩ : Ratio).compareWith (2 * below + 1) k with
    | .lt => some below
    | .gt => some (below + 1)
    | .eq => some (if below % 2 = 0 then below else below + 1)
  | true, false => some below
  | false, true => some (below + 1)
  | false, false => none

/-- The first multiple found in the interval, going down from `10 ^ k`. -/
def Interval.search (i : Interval) (k : Int) : Nat → Decimal
  | 0 => ⟨0, k⟩
  | fuel + 1 =>
    match i.nearest? k with
    | some n => ⟨n, k⟩
    | none => i.search (k - 1) fuel

/-- The interval of the binary number `m * 2 ^ q`. Below a power of two its neighbour is nearer. -/
def Interval.of (m : Nat) (q : Int) (narrow : Bool) : Interval where
  low := .scale2 (if narrow then 4 * m - 1 else 4 * m - 2) (q - 2)
  value := .scale2 (4 * m) (q - 2)
  high := .scale2 (4 * m + 2) (q - 2)
  closed := m % 2 = 0

/-- The decimal with the fewest digits that reads back as a double, given by its significand, its
exponent and whether the gap below it is half the gap above. -/
def shortest (m : Nat) (q : Int) (narrow : Bool) : Decimal :=
  (Interval.of m q narrow).search 309 700

end Decimal

end Blockbook
