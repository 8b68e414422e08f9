import RoadTraffic.Interval
import RoadTraffic.Route.Walker
import RoadTraffic.Settings.Basic
import RoadTraffic.Vehicle.Speed
import RoadTraffic.Vehicle.Status

/-!
# Vehicles

A vehicle of the traffic: the segment of the road that it is on, its speed, its route, what it
signals and how long it has been waiting. A vehicle that is not placed has none of these; it is
kept until it is placed again.
-/

namespace RoadTraffic

/-- The piece of road between two points that a vehicle is on. -/
structure Segment (α : Type) where
  start : PointId
  finish : PointId
  length : α
  startTangent : Vec3 α
  finishTangent : Vec3 α
  deriving DecidableEq

/-- What a vehicle signals, and for which junction. -/
structure Signal (α : Type) where
  indicator : Indicator
  /-- The junction that the vehicle signals for. -/
  junction : Option JunctionId
  /-- Whether the vehicle has left that junction's start. -/
  passed : Bool
  /-- How far behind the junction the vehicle still signals, in m. -/
  remaining : α
  deriving DecidableEq

/-- No signal. -/
def Signal.off {α : Type} [Scalar α] : Signal α := ⟨.off, none, false, 0⟩

/-- How long a vehicle has been standing and what it does about it. -/
structure Wait where
  /-- When the vehicle was first seen standing. -/
  since : Option Millis
  /-- Until when the vehicle goes ahead whatever is in its way. -/
  ignoresUntil : Millis
  /-- When the horn sounds. -/
  horn : Option (Interval Millis)
  deriving DecidableEq

/-- No wait. -/
def Wait.over : Wait := ⟨none, 0, none⟩

/-- A vehicle of the traffic. -/
structure Vehicle (α ρ : Type) where
  id : VehicleId
  profile : Profile α
  /-- The latest report about the vehicle. -/
  status : Status α
  /-- Whether the vehicle is on the road. -/
  placed : Bool
  segment : Segment α
  /-- The distance driven on the segment. -/
  progress : α
  speed : Speed α
  /-- The speed that the vehicle may drive at present. -/
  maxSpeed : α
  /-- The speed that the vehicle was given when it was placed. -/
  initialMaxSpeed : α
  /-- Until when the vehicle is left alone. -/
  protectedUntil : Millis
  safetyDistanceSquared : α
  obstacleDistance : α
  /-- When the vehicle was last moved. -/
  lastMoved : Millis
  walker : Walker ρ
  random : ρ
  wait : Wait
  signal : Signal α

namespace Vehicle

variable {α ρ : Type} [Scalar α] [RandomSource ρ]

/-- Below this speed a vehicle counts as standing, in m/s. -/
def standingSpeed : α := 1 / 10

/-- A vehicle that is not on the road yet. -/
def new (id : VehicleId) (profile : Profile α) (s : Settings α) (seed : UInt64) : Vehicle α ρ :=
  let random : ρ := RandomSource.seeded seed
  let (walkerSeed, random) := RandomSource.longWord random
  { id, profile
    status := .unknown
    placed := false
    segment := ⟨⟨0⟩, ⟨0⟩, 0, .zero, .zero⟩
    progress := 0
    speed := .stopped
    maxSpeed := s.maxSpeed
    initialMaxSpeed := s.maxSpeed
    protectedUntil := 0
    safetyDistanceSquared := Scalar.square s.safetyDistance.min
    obstacleDistance := s.obstacleDistance
    lastMoved := 0
    walker := .remembering walkerSeed
    random
    wait := .over
    signal := .off }

/-- The slot that the vehicle belongs to. -/
def slot (v : Vehicle α ρ) : SlotKey := v.id.slot

/-- The point that the vehicle has passed last. -/
def point (v : Vehicle α ρ) : PointId := v.segment.start

/-- Where the vehicle was last reported. -/
def position (v : Vehicle α ρ) : Vec3 α := v.status.position

/-- What other vehicles see of the vehicle. -/
def snapshot (v : Vehicle α ρ) : Snapshot α where
  id := v.id
  point := v.point
  position := v.position
  speed := v.speed.current
  targetSpeed := v.speed.target
  rearLength := v.profile.rearLength
  safetyDistanceSquared := v.safetyDistanceSquared

/-- Takes the vehicle off the road. -/
def remove (v : Vehicle α ρ) : Vehicle α ρ := { v with placed := false, speed := .stopped }

/-- Gives the vehicle a speed to ramp to. -/
def aim (v : Vehicle α ρ) (target deceleration acceleration : α) : Vehicle α ρ :=
  { v with speed := v.speed.aim target deceleration acceleration }

end Vehicle

end RoadTraffic
