import RoadTraffic.Vehicle.Status

/-!
# Slot events

What the connections report: a player takes a slot, leaves it, or tells where the car is.
-/

namespace RoadTraffic

/-- A report about the player of a slot. -/
inductive SlotEvent (α : Type) where
  | connected (slot : SlotKey)
  | disconnected (slot : SlotKey)
  | moved (slot : SlotKey) (status : Status α) (timestamp : Millis)

namespace SlotEvent

/-- The slot that an event is about. -/
def slot {α : Type} : SlotEvent α → SlotKey
  | connected slot => slot
  | disconnected slot => slot
  | moved slot _ _ => slot

/-- The numbers of a vector in brackets. -/
def vectorText (v : Vec3 Float) : String :=
  "[" ++ Decimal.exactText v.x ++ ", " ++ Decimal.exactText v.y ++ ", "
    ++ Decimal.exactText v.z ++ "]"

/-- A status with all its fields. -/
def statusText (s : Status Float) : String :=
  let tyre := Decimal.exactText s.tyreSpeed
  "CarStatus \x7b timestamp: " ++ toString s.timestamp
    ++ ", position: Point3 " ++ vectorText s.position
    ++ ", rotation: Vector3 " ++ vectorText s.rotation
    ++ ", velocity: Vector3 " ++ vectorText s.velocity
    ++ ", tyre_angular_speed: [" ++ tyre ++ ", " ++ tyre ++ ", " ++ tyre ++ ", " ++ tyre ++ "]"
    ++ ", engine_rpm: " ++ toString s.engineRpm
    ++ ", gear: " ++ toString s.gear
    ++ ", steer_angle: " ++ toString s.steerAngle
    ++ ", wheel_angle: " ++ toString s.wheelAngle
    ++ ", flags: StatusFlags(" ++ toString s.flags.bits
    ++ "), color_variant: " ++ toString s.color ++ " \x7d"

/-- An event with all that it tells. -/
def text : SlotEvent Float → String
  | connected slot => "Connected(" ++ slot.label ++ ")"
  | disconnected slot => "Disconnected(" ++ slot.label ++ ")"
  | moved slot status timestamp =>
    "PositionUpdate \x7b slot: " ++ slot.label ++ ", status: " ++ statusText status
      ++ ", timestamp: " ++ toString timestamp ++ " \x7d"

end SlotEvent

end RoadTraffic
