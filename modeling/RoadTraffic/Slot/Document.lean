import RoadTraffic.Slot.Basic
import RoadTraffic.Vehicle.Document

/-!
# Slots as documents

The names of the modes, and what there is to tell about the player in a slot.
-/

namespace RoadTraffic

namespace Json

/-- The mode of a name. -/
def asMode (j : Json) : Option ControlMode := do
  match ← asString j with
  | "None" => return .players
  | "Auto" => return .shared
  | "Fixed" => return .traffic
  | _ => none

/-- The name of a mode. -/
def ofMode : ControlMode → Json
  | .players => .str "None"
  | .shared => .str "Auto"
  | .traffic => .str "Fixed"

/-- A player. -/
def ofPlayer (p : Player Float) : Json := .obj [
  ("status", ofStatus p.status), ("last_active", ofNat p.lastActive),
  ("first_update", .bool p.hasReported)]

end Json

end RoadTraffic
