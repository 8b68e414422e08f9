import RoadTraffic.Vec3

/-!
# Cubic Hermite segments

The curve that a vehicle follows between two road points: the cubic that passes through both with
given tangents.
-/

namespace RoadTraffic

/-- A cubic curve from `start` to `finish` with the derivative given at both ends. -/
structure Hermite (α : Type) where
  start : Vec3 α
  finish : Vec3 α
  startTangent : Vec3 α
  finishTangent : Vec3 α

namespace Hermite

variable {α : Type} [Scalar α]

/-- A weighted sum of the four data of a curve, taken from left to right. -/
def blend (c : Hermite α) (s st f ft : α) : Vec3 α :=
  c.start.scale s + c.startTangent.scale st + c.finish.scale f + c.finishTangent.scale ft

/-- The position at the parameter `t`. -/
def position (c : Hermite α) (t : α) : Vec3 α :=
  let t2 := t * t
  let t3 := t2 * t
  c.blend (2 * t3 - 3 * t2 + 1) (t3 - 2 * t2 + t) (-2 * t3 + 3 * t2) (t3 - t2)

/-- The derivative of the position at the parameter `t`. -/
def tangent (c : Hermite α) (t : α) : Vec3 α :=
  let t2 := t * t
  c.blend (6 * t2 - 6 * t) (3 * t2 - 4 * t + 1) (-6 * t2 + 6 * t) (3 * t2 - 2 * t)

/-- Position and derivative at the parameter of `[0, 1]` nearest to `t`. -/
def sample (c : Hermite α) (t : α) : Vec3 α × Vec3 α :=
  let t := Scalar.clampTo 0 1 t
  (c.position t, c.tangent t)

end Hermite

end RoadTraffic
