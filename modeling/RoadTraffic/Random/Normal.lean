import RoadTraffic.Random.Uniform
import RoadTraffic.Random.Ziggurat

/-!
# Normal draws

The ziggurat method. A random word picks a layer and a position on it; a position left of the next
edge lies under the curve, one right of it is settled by a second draw, and one in the base beyond
the start of the tail is replaced by a draw from the tail.
-/

namespace RoadTraffic

namespace RandomSource

variable {ρ : Type} [RandomSource ρ] {α : Type} [Scalar α]

/-- A number strictly between 0 and 1: the middle of one of `2 ^ 52` equal parts. -/
def insideUnit (r : ρ) : α × ρ :=
  let (w, r) := longWord r
  (Scalar.ofNat (2 * (w >>> 12).toNat + 1) / Scalar.ofNat (Nat.pow 2 53), r)

/-- How far beyond the start of the tail a draw from the tail lies, as a number that is not
positive. -/
def tailExcess : Nat → α → α → ρ → α × ρ
  | 0, a, _, r => (a, r)
  | n + 1, a, b, r =>
    if -2 * b < a * a then
      let (p, r) := insideUnit r
      let (q, r) := insideUnit r
      tailExcess n (Scalar.log p / Ziggurat.tailStart) (Scalar.log q) r
    else (a, r)

/-- A draw from the tail on the side that the sign of `u` says. -/
def tail (u : α) (r : ρ) : α × ρ :=
  let (excess, r) := tailExcess attemptLimit 1 0 r
  (if u < 0 then excess - Ziggurat.tailStart else Ziggurat.tailStart - excess, r)

/-- One attempt at a standard normal number. -/
def attemptNormal (r : ρ) : Option α × ρ :=
  let (bits, r) := longWord r
  let i := (bits &&& 255).toNat
  let u : α := Scalar.ofNat (bits >>> 12).toNat / Scalar.ofNat (Nat.pow 2 51) - 1
  let x := u * Ziggurat.edge i
  if Scalar.abs x < Ziggurat.edge (i + 1) then (some x, r)
  else if i = 0 then
    let (x, r) := tail u r
    (some x, r)
  else
    let (v, r) := unit r
    let top : α := Ziggurat.height (i + 1) + (Ziggurat.height i - Ziggurat.height (i + 1)) * v
    if top < Scalar.exp (-x * x / 2) then (some x, r) else (none, r)

/-- A standard normal number. -/
def standardNormal (r : ρ) : α × ρ := retry 0 attemptNormal attemptLimit r

/-- A normal number of a mean and a standard deviation, which has to be finite. -/
def normal (mean deviation : α) (r : ρ) : Option (α × ρ) :=
  if Scalar.isFinite deviation then
    let (z, r) := standardNormal r
    some (mean + deviation * z, r)
  else none

end RandomSource

end RoadTraffic
