import RoadTraffic.Geometry
import RoadTraffic.Hermite
import RoadTraffic.Journal.Basic
import RoadTraffic.Random.Normal
import RoadTraffic.Vehicle.Basic

/-!
# The motion of vehicles

Placing a vehicle on the road, and moving it on to a time. A moving vehicle drives the distance
that its speed gives, passes as many points as lie on that distance, and restarts at the origin of
the map when its way ends.
-/

namespace RoadTraffic

namespace Vehicle

variable {α ρ : Type} [Scalar α] [RandomSource ρ]

/-- The flags that the vehicle shows at a time. -/
def flagsAt (v : Vehicle α ρ) (now : Millis) : Flags :=
  let horn := match v.wait.horn with
    | some window => if window.contains now then Flags.horn else .empty
    | none => .empty
  let indicator := match v.signal.indicator with
    | .left => Flags.indicateLeft
    | .right => Flags.indicateRight
    | .off => .empty
  horn.union indicator

/-- The fraction `a / b` held between zero and one, and zero for a `b` that is not positive. -/
def share (a b : α) : α := if 0 < b then Scalar.clampTo 0 1 (a / b) else 0

/-- The vehicle with the report that its place on the road gives. -/
def report (m : RoadMap α) (s : Settings α) (now : Millis) (v : Vehicle α ρ) : Vehicle α ρ :=
  let start := m.point v.segment.start
  let finish := m.point v.segment.finish
  let t := share v.progress v.segment.length
  let curve : Hermite α :=
    ⟨start.position, finish.position, v.segment.startTangent, v.segment.finishTangent⟩
  let (position, tangent) := curve.sample t
  let heading := tangent.direction
  let (yaw, pitch) := yawPitch heading
  let speed := v.speed.current
  let tyreSpeed :=
    if 0 < v.profile.tyreDiameter then
      Scalar.single (speed / (1 / 2 * v.profile.tyreDiameter))
    else 0
  let rpm := Scalar.lerp s.idleRpm s.maxRpm (share speed s.maxSpeed)
  { v with
    status :=
      { timestamp := now
        position := position + ⟨0, v.profile.heightOffset, 0⟩
        rotation := ⟨yaw, pitch, Scalar.lerp start.camber finish.camber t⟩
        velocity := heading.scale speed
        tyreSpeed
        engineRpm := Scalar.toNat (Nat.pow 2 16 - 1) rpm
        gear := if speed < standingSpeed then 1 else 2
        steerAngle := Status.straight
        wheelAngle := Status.straight
        flags := v.flagsAt now
        color := v.status.color } }

/-- The vehicle with the tangents of its segment: half the way from the point before to the point
after each end, and half the segment itself where there is no such point. -/
def fitTangents (m : RoadMap α) (v : Vehicle α ρ) : Vehicle α ρ :=
  let start := (m.point v.segment.start).position
  let finish := (m.point v.segment.finish).position
  let (before, walker) := v.walker.tryPrevious m v.segment.start
  let (after, walker) := walker.tryNext m v.segment.finish
  let chord := (finish - start).scale (1 / 2)
  let startTangent := match before with
    | some p => (finish - (m.point p).position).scale (1 / 2)
    | none => chord
  let finishTangent := match after with
    | some p => ((m.point p).position - start).scale (1 / 2)
    | none => chord
  { v with segment := { v.segment with startTangent, finishTangent }, walker }

/-- The segment from one point to another, with tangents still to be fitted. -/
def enter (m : RoadMap α) (start finish : PointId) (v : Vehicle α ρ) : Vehicle α ρ :=
  { v with segment := { v.segment with start, finish, length := m.distance start finish } }

/-- The speed that vehicles are given at a point on average: a bonus goes to lanes with another
one of the same direction to their right. -/
def baseSpeed (m : RoadMap α) (s : Settings α) (point : PointId) : α :=
  let isFast := match (m.point point).right with
    | some right => m.sameDirection point right
    | none => false
  s.maxSpeed + if isFast then s.fastLaneBonus else 0

/-- A random factor around one that deviates by at most half the variation. -/
def speedFactor (variation : α) (r : ρ) : Except Fault (α × ρ) :=
  let spread := 1 / 2 * variation
  let (factor, r) := (RandomSource.normal 1 (1 / 2 * spread) r).getD (1, r)
  if 1 - spread ≤ 1 + spread then .ok (Scalar.clampTo (1 - spread) (1 + spread) factor, r)
  else .error .emptyRange

/-- The vehicle with a new speed of its own and, if its car has several, a new colour. -/
def renew (m : RoadMap α) (s : Settings α) (point : PointId) (v : Vehicle α ρ) :
    Except Fault (Vehicle α ρ) := do
  let (factor, random) ← speedFactor s.speedVariation v.random
  let maxSpeed := baseSpeed m s point * factor
  let v := { v with maxSpeed, initialMaxSpeed := maxSpeed, speed := .steady maxSpeed, random }
  if v.profile.changesColor ∧ 1 < v.profile.colors then
    let (color, random) := RandomSource.belowSmall v.profile.colors v.random
    return { v with status := { v.status with color }, random }
  else return v

/-- The vehicle at the beginning of a segment with everything that belongs to an earlier place
forgotten. -/
def settle (m : RoadMap α) (s : Settings α) (now : Millis) (v : Vehicle α ρ) :
    Except Fault (Vehicle α ρ) := do
  let (protection, random) := s.spawnProtection.draw v.random
  let protectedUntil ← Millis.later now protection
  let (safetyDistance, random) ← s.safetyDistance.drawScalar random
  let v := { v with
    protectedUntil, random
    safetyDistanceSquared := Scalar.square safetyDistance
    obstacleDistance := s.obstacleDistance
    wait := .over
    signal := .off
    placed := true
    lastMoved := now }
  return v.report m s now

/-- Places the vehicle at the beginning of the segment that begins at a point. With `renewed` it
gets a new speed as well. At a dead end it stays where it was, but its route is forgotten. -/
def place (m : RoadMap α) (s : Settings α) (point : PointId) (now : Millis) (renewed : Bool)
    (v : Vehicle α ρ) : Except Fault (Except DeadEnd Unit × Vehicle α ρ) := do
  discard <| m.demandPoint point
  match v.walker.clear.tryNext m point with
  | (none, walker) => return (.error ⟨point⟩, { v with walker })
  | (some next, walker) =>
    let v := { v with progress := 0, walker }
    let v := (v.enter m point next).fitTangents m
    let v ← if renewed then v.renew m s point else pure v
    return (.ok (), ← v.settle m s now)

/-- What the vehicle signals once it has passed a point: a signal that has done its work goes off
after some distance, and a signal for a junction has done its work when the vehicle has taken the
exit of the junction's start that it decided for. -/
def passSignal (m : RoadMap α) (point : PointId) (v : Vehicle α ρ) : Vehicle α ρ :=
  if v.signal.passed then
    let remaining := v.signal.remaining - v.segment.length
    if remaining < 0 then { v with signal := ⟨.off, none, false, remaining⟩ }
    else { v with signal := { v.signal with remaining } }
  else
    match v.signal.junction with
    | none => v
    | some j =>
      let junction := m.junction j
      let (taken, walker) := v.walker.takes m j
      let exit := if taken then some junction.finish else (m.point junction.start).next
      let v := { v with walker }
      if exit = some point then
        { v with signal := { v.signal with passed := true, remaining := junction.distanceAfter } }
      else v

/-- Where a vehicle comes to when it drives the distance before it. -/
inductive Drive (α ρ : Type) where
  /-- The vehicle is on a segment longer than its progress. -/
  | onSegment (v : Vehicle α ρ)
  /-- The way ends where the vehicle's segment does. -/
  | atDeadEnd (v : Vehicle α ρ)

/-- Passes the points up to the vehicle's progress, at most `limit` of them. -/
def drive (m : RoadMap α) : Nat → Vehicle α ρ → Except Fault (Drive α ρ)
  | 0, _ => .error .endlessRoad
  | limit + 1, v =>
    if v.segment.length < v.progress then
      let v := { v with progress := v.progress - v.segment.length }
      let reached := v.segment.finish
      match v.walker.tryNext m reached with
      | (none, walker) => .ok (.atDeadEnd { v with walker })
      | (some next, walker) =>
        drive m limit ((({ v with walker }).passSignal m reached).enter m reached next)
    else .ok (.onSegment v)

/-- A vehicle that passes this many points at once is taken to pass points without end. -/
def pointLimit : Nat := Nat.pow 10 15

/-- Moves the vehicle on to a time. At a dead end it restarts at the origin with its speed. -/
def update (m : RoadMap α) (s : Settings α) (now : Millis) (v : Vehicle α ρ) :
    Logged α (Except DeadEnd Unit × Vehicle α ρ) := do
  if v.placed then
    let dt : α := Scalar.ofNat (now - v.lastMoved) / 1000
    let (distance, speed) := v.speed.advance dt v.maxSpeed
    let v := { v with lastMoved := now, speed, progress := v.progress + distance }
    match ← v.drive m pointLimit with
    | .onSegment v => return (.ok (), (v.fitTangents m).report m s now)
    | .atDeadEnd v =>
      note (.restarted v.slot v.segment.finish m.origin)
      v.place m s m.origin now false
  else return (.ok (), v)

end Vehicle

end RoadTraffic
