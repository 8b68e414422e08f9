import RoadTraffic.Json.Decode
import RoadTraffic.Orchestrator.Overlay

/-!
# Overlays as documents

Shapes as objects that name their type. Numbers that are not finite are null here.
-/

namespace RoadTraffic

namespace Json

/-- A number of a shape, which is null unless it is finite. -/
def ofShapeFloat (x : Float) : Json := if x.isNaN || x.isInf then .null else ofFloat x

/-- A position of a shape. -/
def ofShapeVector (v : Vec3 Float) : Json :=
  .arr [ofShapeFloat v.x, ofShapeFloat v.y, ofShapeFloat v.z]

/-- A shape. -/
def ofShape : Shape Float → Json
  | .line name start finish => .obj [("type", .str "line"), ("name", .str name),
      ("p1", ofShapeVector start), ("p2", ofShapeVector finish)]
  | .sphere name centre radius => .obj [("type", .str "sphere"), ("name", .str name),
      ("centre", ofShapeVector centre), ("radius", ofShapeFloat radius)]

/-- The shapes of an overlay. -/
def ofOverlay (shapes : Array (Shape Float)) : Json := .arr (shapes.toList.map ofShape)

end Json

end RoadTraffic
