import RoadTraffic.Geometry
import RoadTraffic.Vehicle.Basic
import RoadTraffic.Vehicle.Occupancy

/-!
# The outlook of a vehicle

What a vehicle sees when it looks along its own route: the first vehicle ahead and the gap to it,
the lowest speed that a bend ahead asks for, and the junction that it begins to signal for; and the
nearest player before it.
-/

namespace RoadTraffic

/-- What lies ahead on the road. -/
structure Outlook (α : Type) where
  /-- The first vehicle ahead and the gap to it in m. -/
  vehicle : Option (Snapshot α × α)
  /-- The speed to brake down to for the bends ahead. -/
  bendSpeed : α

namespace Vehicle

variable {α ρ : Type} [Scalar α] [RandomSource ρ]

/-- How far a vehicle looks beyond twice its braking distance, in m. -/
def outlookMargin : α := 20

/-- The largest number of points that a vehicle looks ahead. -/
def outlookPoints : Nat := 256

/-- The distance that a vehicle looks ahead when it sheds `speedDelta` in an emergency. -/
def outlookDistance (speedDelta deceleration : α) : α :=
  2 * brakingDistance speedDelta deceleration + outlookMargin

/-- The vehicle seen at a point of the route and the gap to it. At the vehicle's own point another
one only counts if it stands ahead. -/
def seenAt (m : RoadMap α) (vehicles : Occupancy α) (v : Vehicle α ρ) (point : PointId) :
    Option (Snapshot α × α) :=
  match vehicles.get? point with
  | none => none
  | some other =>
    if other.id = v.id then none
    else if point ≠ v.point ∨ 0 < (m.forward v.point).dot (other.position - v.position) then
      some (other,
        v.position.distance other.position - v.profile.frontLength - other.rearLength)
    else none

/-- The speed to brake down to when a point of the route lies `ahead` metres before the vehicle.
The bend at a point limits the speed once the distance to it is needed for braking. -/
def bendLimit (m : RoadMap α) (v : Vehicle α ρ) (point : PointId) (ahead limit : α) : α :=
  if point = v.point then limit
  else
    let speed := v.speed.current
    let bend := corneringSpeed (m.point point).radius v.profile.corneringGrip
    let force := v.profile.deceleration * v.profile.corneringBrake
    let needed := brakingDistance (speed - bend) force * v.profile.corneringMargin
    if bend < speed ∧ ahead < needed then Scalar.min limit bend else limit

/-- The vehicle with the signal for the junction at a point of its route, which lies `ahead` metres
before it, if it is near enough and the vehicle does not signal for another one. -/
def signalFor (m : RoadMap α) (point : PointId) (ahead : α) (v : Vehicle α ρ) : Vehicle α ρ :=
  match (m.point point).branch with
  | none => v
  | some j =>
    let junction := m.junction j
    if v.signal.junction.isNone ∧ ahead < junction.distanceBefore then
      let (taken, walker) := v.walker.takes m j
      let indicator := if taken then junction.whenTaken else junction.whenPassed
      { v with walker, signal := { v.signal with indicator, junction := some j, passed := false } }
    else v

/-- Looks ahead from a point of the route on, which lies `ahead` metres before the vehicle. -/
def lookFrom (m : RoadMap α) (vehicles : Occupancy α) (reach : α) :
    Nat → PointId → α → α → Vehicle α ρ → Outlook α × Vehicle α ρ
  | 0, _, _, bendSpeed, v => (⟨none, bendSpeed⟩, v)
  | points + 1, point, ahead, bendSpeed, v =>
    if reach < ahead then (⟨none, bendSpeed⟩, v)
    else
      match v.seenAt m vehicles point with
      | some seen => (⟨some seen, bendSpeed⟩, v)
      | none =>
        let bendSpeed := v.bendLimit m point ahead bendSpeed
        let v := v.signalFor m point ahead
        match v.walker.tryNext m point with
        | (none, walker) => (⟨none, bendSpeed⟩, { v with walker })
        | (some next, walker) =>
          lookFrom m vehicles reach points next (ahead + m.distance point next) bendSpeed
            { v with walker }

/-- Looks ahead along the vehicle's route. -/
def lookAhead (m : RoadMap α) (vehicles : Occupancy α) (v : Vehicle α ρ) :
    Outlook α × Vehicle α ρ :=
  lookFrom m vehicles (outlookDistance v.speed.current v.profile.deceleration) outlookPoints
    v.point (-v.progress) Scalar.infinity v

/-- Players within this angle of a vehicle's heading are before it, in degrees. -/
def playerCone : α := 15

/-- The heading of a vehicle: where it moves to, or where it was turned to when it stands. -/
def heading (v : Vehicle α ρ) : Vec3 α :=
  if 0 < v.status.velocity.lengthSquared then v.status.velocity
  else
    let yaw := v.status.rotation.x
    ⟨-Scalar.sin yaw, 0, Scalar.cos yaw⟩

/-- The first of the pairs with the smallest distance. -/
def nearestOf {β : Type} : List (β × α) → Option (β × α)
  | [] => none
  | first :: rest =>
    some (rest.foldl (fun best p => if Scalar.totalLe best.2 p.2 then best else p) first)

/-- The speed of the nearest player before the vehicle and the gap to the player. -/
def playerAhead (players : List (PlayerSnapshot α)) (v : Vehicle α ρ) : Option (α × α) :=
  let before := players.filter fun p =>
    decide (p.slot ≠ v.slot) &&
      decide (horizontalAngle v.heading (p.position - v.position) < playerCone)
  let nearest := nearestOf (before.map fun p => (p, v.position.distanceSquared p.position))
  nearest.map fun (p, d) => (p.velocity.length, Scalar.sqrt d - v.profile.frontLength)

end Vehicle

end RoadTraffic
