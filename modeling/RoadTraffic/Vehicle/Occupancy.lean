import Std.Data.HashMap
import RoadTraffic.Vehicle.Status

/-!
# Occupancy

The vehicle that is seen at each point of the road: the slowest one there, and the first of several
equally slow ones.
-/

namespace RoadTraffic

/-- The vehicle that is seen at each point. -/
structure Occupancy (α : Type) where
  slowest : Std.HashMap PointId (Snapshot α)

namespace Occupancy

variable {α : Type} [Scalar α]

/-- An empty road. -/
def empty : Occupancy α := ⟨∅⟩

/-- Which of two vehicles at one point is seen. -/
def slower (seen other : Snapshot α) : Snapshot α :=
  if other.speed < seen.speed then other else seen

/-- Adds a vehicle. -/
def add (o : Occupancy α) (vehicle : Snapshot α) : Occupancy α :=
  let seen := match o.slowest[vehicle.point]? with
    | some seen => slower seen vehicle
    | none => vehicle
  ⟨o.slowest.insert vehicle.point seen⟩

/-- The occupancy of the road by a list of vehicles. -/
def ofList (vehicles : List (Snapshot α)) : Occupancy α := vehicles.foldl add empty

/-- The vehicle that is seen at a point. -/
def get? (o : Occupancy α) (point : PointId) : Option (Snapshot α) := o.slowest[point]?

end Occupancy

/-- What vehicles look out for. -/
structure Surroundings (α : Type) where
  vehicles : Occupancy α
  players : List (PlayerSnapshot α)

/-- A road without anything to look out for. -/
def Surroundings.empty {α : Type} : Surroundings α := ⟨⟨∅⟩, []⟩

end RoadTraffic
