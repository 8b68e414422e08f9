import RoadTraffic.Vec3

/-!
# The overlay

Shapes in space that show where and why vehicles appeared.
-/

namespace RoadTraffic

/-- A named shape. -/
inductive Shape (α : Type) where
  | line (name : String) (start finish : Vec3 α)
  | sphere (name : String) (centre : Vec3 α) (radius : α)
  deriving DecidableEq

end RoadTraffic
