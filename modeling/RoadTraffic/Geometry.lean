import RoadTraffic.Vec3

/-!
# Geometry of the road

Braking distances, the grip limit in a bend, the radius of a bend through three points and the
angles that a heading makes.
-/

namespace RoadTraffic

variable {α : Type} [Scalar α]

/-- Gravitational acceleration in m/s². -/
def gravity : α := 981 / 100

/-- The distance in which a constant deceleration brings the speed `speedDelta` down to nothing,
`v² / 2a`. Without a deceleration no distance is enough. -/
def brakingDistance (speedDelta deceleration : α) : α :=
  if deceleration ≤ 0 then Scalar.infinity
  else speedDelta * speedDelta / (2 * deceleration)

/-- The speed at which a bend of the given radius uses up the fraction `grip` of gravity. -/
def corneringSpeed (radius grip : α) : α :=
  Scalar.sqrt (Scalar.max (gravity * radius * grip) 0)

/-- The radius of the circle through three positions, infinite for positions on one line. -/
def circumradius (a b c : Vec3 α) : α :=
  let ab := b - a
  let bc := c - b
  let ca := a - c
  let doubleArea := (ab.cross (-ca)).length
  if doubleArea < Scalar.tiny then Scalar.infinity
  else ab.length * bc.length * ca.length / (2 * doubleArea)

/-- A quarter turn in radians. -/
def quarterTurn : α := Scalar.pi / 2

/-- The yaw and pitch of a direction in radians: no yaw along the `z` axis, positive pitch
uphill. -/
def yawPitch (d : Vec3 α) : α × α :=
  let yaw := Scalar.atan2 d.z d.x - quarterTurn
  let horizontal := Scalar.sqrt (d.x * d.x + d.z * d.z)
  (yaw, -(Scalar.atan2 horizontal d.y - quarterTurn))

/-- An angle in degrees. -/
def degrees (radians : α) : α := radians * (180 / Scalar.pi)

/-- The angle between the horizontal parts of two vectors in degrees. A vector without a
horizontal part counts as pointing the opposite way. -/
def horizontalAngle (a b : Vec3 α) : α :=
  let a := a.flat.direction
  let b := b.flat.direction
  if a.lengthSquared < 1 / 2 ∨ b.lengthSquared < 1 / 2 then 180
  else degrees (Scalar.acos (Scalar.clampTo (-1) 1 (a.dot b)))

end RoadTraffic
