import RoadTraffic.Decimal.Text
import RoadTraffic.Millis
import RoadTraffic.Slot.Key

/-!
# Reports about cars

What is sent to the clients about a car, of a player or of the traffic, and what vehicles know of
each other.
-/

namespace RoadTraffic

/-- Lights, indicators and horn of a car, one bit each. -/
structure Flags where
  bits : UInt32
  deriving DecidableEq, Repr, Inhabited

namespace Flags

/-- No flag. -/
def empty : Flags := ⟨0⟩

/-- The headlights are on. -/
def lights : Flags := ⟨0x20⟩

/-- The horn sounds. -/
def horn : Flags := ⟨0x40⟩

/-- The hazard lights flash. -/
def hazards : Flags := ⟨0x2000⟩

/-- The left indicator flashes. -/
def indicateLeft : Flags := ⟨0x4000⟩

/-- The right indicator flashes. -/
def indicateRight : Flags := ⟨0x8000⟩

/-- The flags that are set in either. -/
def union (a b : Flags) : Flags := ⟨a.bits ||| b.bits⟩

/-- The flags of `a` that are not set in `b`. -/
def remove (a b : Flags) : Flags := ⟨a.bits &&& ~~~b.bits⟩

/-- Whether all flags of `b` are set in `a`. -/
def contains (a b : Flags) : Bool := a.bits &&& b.bits == b.bits

end Flags

/-- What is reported about a car. -/
structure Status (α : Type) where
  timestamp : Millis
  position : Vec3 α
  /-- Yaw, pitch and roll in radians. -/
  rotation : Vec3 α
  velocity : Vec3 α
  /-- The angular speed of each tyre in rad/s. -/
  tyreSpeed : α
  engineRpm : Nat
  gear : Nat
  /-- The angle of the steering wheel; `straight` is the middle. -/
  steerAngle : Nat
  /-- The angle of the front wheels; `straight` is the middle. -/
  wheelAngle : Nat
  flags : Flags
  color : Nat
  deriving DecidableEq

namespace Status

/-- The middle of the steering angles. -/
def straight : Nat := 127

variable {α : Type} [Scalar α]

/-- A car that was never heard of. -/
def unknown : Status α where
  timestamp := 0
  position := .zero
  rotation := .zero
  velocity := .zero
  tyreSpeed := 0
  engineRpm := 0
  gear := 1
  steerAngle := straight
  wheelAngle := straight
  flags := .empty
  color := 0

instance : Inhabited (Status α) := ⟨unknown⟩

end Status

/-- What the other vehicles see of a vehicle on the road. -/
structure Snapshot (α : Type) where
  id : VehicleId
  point : PointId
  position : Vec3 α
  speed : α
  targetSpeed : α
  /-- The distance from the vehicle's origin to its rear bumper. -/
  rearLength : α
  safetyDistanceSquared : α
  deriving DecidableEq

/-- What vehicles see of a player. -/
structure PlayerSnapshot (α : Type) where
  slot : SlotKey
  position : Vec3 α
  velocity : Vec3 α

end RoadTraffic
