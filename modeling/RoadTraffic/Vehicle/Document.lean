import RoadTraffic.Roads.Document
import RoadTraffic.Settings.Document
import RoadTraffic.Vehicle.Basic

/-!
# Cars as documents

The reports about the cars of players, and what there is to tell about a vehicle. Angles are rounded
to nine places.
-/

namespace RoadTraffic

namespace Json

/-- The report of a player's car. -/
def asStatus (j : Json) : Option (Status Float) := do
  let d : Status Float := .unknown
  match j with
  | .null => return d
  | .obj _ =>
    return { d with
      position := ← orDefault asVector d.position (j.get "position")
      velocity := ← orDefault asVector d.velocity (j.get "velocity")
      rotation := ← orDefault asVector d.rotation (j.get "rotation")
      timestamp := ← orDefault asNat d.timestamp (j.get "timestamp")
      engineRpm := ← orDefault (asNatBelow (Nat.pow 2 16)) d.engineRpm (j.get "engine_rpm")
      gear := ← orDefault (asNatBelow 256) d.gear (j.get "gear")
      flags := ⟨UInt32.ofNat (← orDefault (asNatBelow (Nat.pow 2 32)) 0 (j.get "flags"))⟩ }
  | _ => none

/-- An angle, rounded to nine places. -/
def ofAngle (x : Float) : Json := ofFloat (Float.round (x * 1e9) / 1e9)

/-- A report about a car. -/
def ofStatus (s : Status Float) : Json := .obj [
  ("timestamp", ofNat s.timestamp), ("position", ofVector s.position),
  ("rotation", .arr [ofAngle s.rotation.x, ofAngle s.rotation.y, ofFloat s.rotation.z]),
  ("velocity", ofVector s.velocity),
  ("tyre_angular_speed", .arr (List.replicate 4 (ofFloat s.tyreSpeed))),
  ("engine_rpm", ofNat s.engineRpm), ("gear", ofNat s.gear), ("steer_angle", ofNat s.steerAngle),
  ("wheel_angle", ofNat s.wheelAngle), ("flags", ofNat s.flags.bits.toNat),
  ("color_variant", ofNat s.color)]

/-- What vehicles see of a vehicle. -/
def ofSnapshot (s : Snapshot Float) : Json := .obj [
  ("slot", ofNat s.id.slot.number), ("current_point", ofPointId s.point),
  ("position", ofVector s.position), ("current_speed", ofFloat s.speed),
  ("target_speed", ofFloat s.targetSpeed), ("length_post", ofFloat s.rearLength),
  ("safety_distance_squared", ofFloat s.safetyDistanceSquared)]

variable {ρ : Type}

/-- A vehicle in brief. -/
def ofVehicle (v : Vehicle Float ρ) : Json := .obj [
  ("initialized", .bool v.placed), ("point", ofPointId v.point), ("progress", ofFloat v.progress),
  ("speed", ofFloat v.speed.current), ("target", ofFloat v.speed.target),
  ("acc", ofFloat v.speed.rate), ("max", ofFloat v.maxSpeed), ("position", ofVector v.position),
  ("flags", ofNat v.status.flags.bits.toNat)]

/-- A vehicle in full. -/
def ofVehicleState (v : Vehicle Float ρ) : Json := .obj [
  ("initialized", .bool v.placed), ("point", ofPointId v.point), ("progress", ofFloat v.progress),
  ("speed", ofFloat v.speed.current), ("target", ofFloat v.speed.target),
  ("acc", ofFloat v.speed.rate), ("max", ofFloat v.maxSpeed),
  ("initial_max", ofFloat v.initialMaxSpeed), ("protection_ends", ofNat v.protectedUntil),
  ("safety_distance_squared", ofFloat v.safetyDistanceSquared),
  ("indicator", ofIndicator v.signal.indicator), ("slot", ofNat v.slot.number),
  ("status", ofStatus v.status)]

end Json

end RoadTraffic
