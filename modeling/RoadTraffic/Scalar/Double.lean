import RoadTraffic.Scalar

/-!
# IEEE doubles as scalars

The instance that programs run on. The core type `Float` supplies all operations but two: the
exact remainder, which is computed on the integers that two doubles stand for, and the total order,
which reads the bit pattern.
-/

namespace RoadTraffic.Double

/-- A finite double without its sign as `m * 2 ^ e`. -/
def significand (x : Float) : Nat × Int :=
  let bits := x.toBits.toNat
  let biased : Nat := bits / Nat.pow 2 52 % Nat.pow 2 11
  let fraction : Nat := bits % Nat.pow 2 52
  if biased = 0 then (fraction, -1074) else (fraction + Nat.pow 2 52, Int.ofNat biased - 1075)

/-- The remainder of the truncated quotient, which is exact: with both magnitudes written over
the smaller of their two powers of two it is a remainder of natural numbers below `2 ^ 53`. -/
def rem (x y : Float) : Float :=
  if x.isNaN || y.isNaN || x.isInf || y == 0 then 0.0 / 0.0
  else if y.isInf then x
  else
    let (m, e) := significand x
    let (n, f) := significand y
    let low := Min.min e f
    let r := (m * Nat.pow 2 (e - low).toNat) % (n * Nat.pow 2 (f - low).toNat)
    let magnitude := (Float.ofNat r).scaleB low
    if x < 0 then -magnitude else magnitude

/-- A bit pattern as an unsigned key: negative numbers in reverse below all others. -/
def orderKey (x : Float) : UInt64 :=
  let bits := x.toBits
  if bits >>> 63 == 1 then ~~~bits else bits ||| ((1 : UInt64) <<< 63)

/-- The circle constant. -/
def pi : Float := 3.141592653589793

instance : Scalar Float where
  add := Float.add
  sub := Float.sub
  mul := Float.mul
  div := Float.div
  neg := Float.neg
  lt a b := a < b
  le a b := a ≤ b
  decLt a b := inferInstanceAs (Decidable (a < b))
  decLe a b := inferInstanceAs (Decidable (a ≤ b))
  totalLe a b := orderKey a ≤ orderKey b
  ofNat := Float.ofNat
  infinity := 1.0 / 0.0
  pi := pi
  sqrt := Float.sqrt
  sin := Float.sin
  cos := Float.cos
  acos := Float.acos
  atan2 := Float.atan2
  exp := Float.exp
  log := Float.log
  floor := Float.floor
  round := Float.round
  rem := rem
  toNat limit x := Min.min limit x.toUInt64.toNat
  nextBelow x := Float.ofBits (x.toBits - 1)
  single x := x.toFloat32.toFloat

end RoadTraffic.Double
