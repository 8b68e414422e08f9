import RoadTraffic.Millis
import RoadTraffic.Random.Uniform

/-!
# Closed intervals

A range of settings: both ends belong to it. An interval with its ends in the wrong order contains
nothing, and a draw from it gives its minimum.
-/

namespace RoadTraffic

/-- The values from `min` to `max`. -/
structure Interval (β : Type) where
  min : β
  max : β
  deriving DecidableEq, Inhabited

namespace Interval

/-- Whether a value lies between the ends. -/
def contains {β : Type} [LE β] [DecidableLE β] (i : Interval β) (b : β) : Bool :=
  decide (i.min ≤ b) && decide (b ≤ i.max)

/-- Whether the ends are in order. -/
def isOrdered {β : Type} [LE β] [DecidableLE β] (i : Interval β) : Bool :=
  decide (i.min ≤ i.max)

/-- The length of an interval of natural numbers, which has to be ordered. -/
def count (i : Interval Nat) : Except Fault Nat := Millis.since i.max i.min

/-- A uniform draw from an interval of 64-bit numbers. Without a choice nothing is drawn. -/
def draw {ρ : Type} [RandomSource ρ] (i : Interval Nat) (r : ρ) : Nat × ρ :=
  if i.min < i.max then RandomSource.between i.min i.max r else (i.min, r)

variable {α : Type} [Scalar α]

/-- The length of an interval of scalars. -/
def length (i : Interval α) : α := i.max - i.min

/-- A uniform draw from an interval of scalars. Without a choice nothing is drawn. -/
def drawScalar {ρ : Type} [RandomSource ρ] (i : Interval α) (r : ρ) : Except Fault (α × ρ) :=
  if i.min < i.max then RandomSource.betweenScalars i.min i.max r else .ok (i.min, r)

end Interval

end RoadTraffic
