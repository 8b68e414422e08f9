import RoadTraffic.Scalar.Double

/-!
# The shortest decimal of a double

A positive finite double is `m * 2 ^ q`. The numbers that are read back as it form an interval
around it, whose ends belong to it exactly when `m` is even. Grids of powers of ten are tried from
the coarsest one down; the first grid that has a point in the interval gives the fewest digits, and
of two points the one nearer to the double is taken.

A grid has a point in the interval if and only if one of the two neighbours of the double on that
grid lies in it, so that only these two are looked at.
-/

namespace RoadTraffic

/-- The number `digits * 10 ^ exponent`. -/
structure Decimal where
  digits : Nat
  exponent : Int
  deriving DecidableEq, Repr, Inhabited

namespace Decimal

/-- The numbers that round to a double, in quarters of its last place: from `low` to `high` around
`middle`, each times `num / den`. -/
structure Rounding where
  low : Nat
  middle : Nat
  high : Nat
  num : Nat
  den : Nat
  closed : Bool

namespace Rounding

/-- The interval of `m * 2 ^ q`. Below a power of two the next double is only half as far away. -/
def ofSignificand (m : Nat) (q : Int) : Rounding where
  low := if m = Nat.pow 2 52 ∧ -1074 < q then 4 * m - 1 else 4 * m - 2
  middle := 4 * m
  high := 4 * m + 2
  num := Nat.pow 2 q.toNat
  den := 4 * Nat.pow 2 (-q).toNat
  closed := m % 2 = 0

/-- The interval measured in units of `10 ^ k`. -/
def inUnits (i : Rounding) (k : Int) : Rounding :=
  { i with num := i.num * Nat.pow 10 (-k).toNat, den := i.den * Nat.pow 10 k.toNat }

/-- Whether a whole number of units lies in the interval. -/
def contains (i : Rounding) (n : Nat) : Bool :=
  if i.closed then decide (i.low * i.num ≤ n * i.den) && decide (n * i.den ≤ i.high * i.num)
  else decide (i.low * i.num < n * i.den) && decide (n * i.den < i.high * i.num)

/-- The whole number of units in the interval that is nearest to the middle, the upper one if
both neighbours are equally near. -/
def nearest? (i : Rounding) : Option Nat :=
  let below := i.middle * i.num / i.den
  let excess := i.middle * i.num % i.den
  let above := below + 1
  match i.contains below, i.contains above with
  | true, true => some (if 2 * excess < i.den then below else above)
  | true, false => some below
  | false, true => some above
  | false, false => none

/-- Looks for a point on the grids from `10 ^ k` downwards. -/
def search (i : Rounding) : Nat → Int → Decimal
  | 0, k => ⟨0, k⟩
  | grids + 1, k =>
    match (i.inUnits k).nearest? with
    | some n => ⟨n, k⟩
    | none => search i grids (k - 1)

end Rounding

/-- The shortest decimal of `m * 2 ^ q`, for `0 < m < 2 ^ 53`. The search begins at a power of ten
above the number; seventeen digits always suffice. -/
def shortest (m : Nat) (q : Int) : Decimal :=
  (Rounding.ofSignificand m q).search 24 (((m.log2 : Int) + 1 + q) * 30103 / 100000 + 2)

end Decimal

end RoadTraffic
