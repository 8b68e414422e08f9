import RoadTraffic.Json.Decode
import RoadTraffic.Roads.Builder
import RoadTraffic.Roads.Ring

/-!
# Roads as documents

The parts of a road network as JSON: the sites of a spline, the junctions, connections and lanes
that a document adds to it, and the points, junctions and splines themselves.
-/

namespace RoadTraffic

namespace Json

/-- A point by its index. -/
def asPointId (j : Json) : Option PointId := (asNatBelow (Nat.pow 2 32) j).map PointId.mk

/-- A junction by its index. -/
def asJunctionId (j : Json) : Option JunctionId := (asNatBelow (Nat.pow 2 32) j).map JunctionId.mk

/-- The index of a point. -/
def ofPointId (p : PointId) : Json := ofNat p.index

/-- The index of a junction. -/
def ofJunctionId (j : JunctionId) : Json := ofNat j.index

/-- The indicator of a name. -/
def asIndicator (j : Json) : Option Indicator := do
  match ← asString j with
  | "None" => return .off
  | "Left" => return .left
  | "Right" => return .right
  | _ => none

/-- The name of an indicator. -/
def ofIndicator : Indicator → Json
  | .off => .str "None"
  | .left => .str "Left"
  | .right => .str "Right"

/-- The sites of a spline: a list of them, a straight line, or a ring. -/
def asSites (j : Json) : Option (List (Site Float)) :=
  match j with
  | .arr items => items.mapM fun item => do
    match ← asList item with
    | [x, y, z] => return .level ⟨← asFloat x, ← asFloat y, ← asFloat z⟩
    | [x, y, z, camber] => return ⟨⟨← asFloat x, ← asFloat y, ← asFloat z⟩, ← asFloat camber⟩
    | _ => none
  | j =>
    match j.get "line", j.get "ring" with
    | .arr [x, y, z, dx, dy, dz, n], _ => do
      return Site.line ⟨← asFloat x, ← asFloat y, ← asFloat z⟩
        ⟨← asFloat dx, ← asFloat dy, ← asFloat dz⟩ (← asNat n)
    | _, .arr [outer, spacing, inset] => do
      return Site.ring (← asFloat outer) (← asFloat spacing) (← asFloat inset)
    | _, _ => none

/-- A junction with its ends as indices. -/
def asJunction (j : Json) : Option (Junction Float) := do
  return {
    id := ← orDefault asJunctionId ⟨0⟩ (j.get "id")
    start := ← asPointId (j.get "start")
    finish := ← asPointId (j.get "end")
    probability := ← asFloat (j.get "probability")
    whenTaken := ← orDefault asIndicator .off (j.get "indicate_when_taken")
    whenPassed := ← orDefault asIndicator .off (j.get "indicate_when_not_taken")
    distanceBefore := ← orDefault asFloat 0 (j.get "indicate_distance_pre")
    distanceAfter := ← orDefault asFloat 0 (j.get "indicate_distance_post") }

/-- A junction with its ends as references. -/
def asJunctionEntry (j : Json) : Option (JunctionEntry Float) := do
  let j ← asObject j
  return {
    start := ← asString (j.get "start")
    finish := ← asString (j.get "end")
    junction := {
      id := ⟨0⟩
      start := ⟨0⟩
      finish := ⟨0⟩
      probability := ← asNumber (j.get "probability")
      whenTaken := ← fieldOr j "indicate_when_taken" asIndicator .off
      whenPassed := ← fieldOr j "indicate_when_not_taken" asIndicator .off
      distanceBefore := ← fieldOr j "indicate_distance_pre" asNumber 0
      distanceAfter := ← fieldOr j "indicate_distance_post" asNumber 0 } }

/-- A pair of references under two names. -/
def asPair (first second : String) (j : Json) : Option PairEntry := do
  let j ← asObject j
  return ⟨← asString (j.get first), ← asString (j.get second)⟩

/-- A document of junctions, connections and lane links. -/
def asDocument (j : Json) : Option (RoadDocument Float) := do
  let j ← asObject j
  return {
    junctions := ← fieldOr j "junctions" (asListOf asJunctionEntry) []
    connections := ← fieldOr j "connections" (asListOf (asPair "from" "to")) []
    lanes := ← fieldOr j "lanes" (asListOf (asPair "left" "right")) [] }

/-- A point of a finished graph. Its length and the speed in its bend are not part of it. -/
def asPoint (j : Json) : Option (RoadPoint Float) := do
  let bare : RoadPoint Float := .unlinked (← asPointId (j.get "id")) (← asVector (j.get "position"))
  return { bare with
    next := ← optional asPointId (j.get "next")
    previous := ← optional asPointId (j.get "previous")
    left := ← optional asPointId (j.get "left")
    right := ← optional asPointId (j.get "right")
    branch := ← optional asJunctionId (j.get "junction_start")
    merge := ← optional asJunctionId (j.get "junction_end")
    radius := ← orDefault asFloat bare.radius (j.get "radius")
    camber := ← orDefault asFloat bare.camber (j.get "camber") }

/-- A spline of a finished graph. -/
def asSpline (j : Json) : Option Spline := do
  return {
    name := ← asString (j.get "name")
    points := ← asListOf asPointId (j.get "points")
    closed := ← asFlag (j.get "closed") }

/-- The parts of a finished graph. -/
structure RoadParts where
  points : List (RoadPoint Float)
  junctions : List (Junction Float)
  splines : List Spline

/-- A finished graph. -/
def asParts (j : Json) : Option RoadParts := do
  return {
    points := ← orDefault (asListOf asPoint) [] (j.get "points")
    junctions := ← orDefault (asListOf asJunction) [] (j.get "junctions")
    splines := ← orDefault (asListOf asSpline) [] (j.get "splines") }

/-- A point of the map. -/
def ofPoint (p : RoadPoint Float) : Json := .obj [
  ("id", ofPointId p.id), ("position", ofVector p.position), ("next", ofOption ofPointId p.next),
  ("previous", ofOption ofPointId p.previous), ("left", ofOption ofPointId p.left),
  ("right", ofOption ofPointId p.right), ("junction_start", ofOption ofJunctionId p.branch),
  ("junction_end", ofOption ofJunctionId p.merge), ("radius", ofFloat p.radius),
  ("max_cornering_speed", ofFloat p.corneringSpeed), ("camber", ofFloat p.camber),
  ("length", ofFloat p.length)]

/-- A junction. -/
def ofJunction (j : Junction Float) : Json := .obj [
  ("id", ofJunctionId j.id), ("start", ofPointId j.start), ("end", ofPointId j.finish),
  ("probability", ofFloat j.probability), ("indicate_when_taken", ofIndicator j.whenTaken),
  ("indicate_when_not_taken", ofIndicator j.whenPassed),
  ("indicate_distance_pre", ofFloat j.distanceBefore),
  ("indicate_distance_post", ofFloat j.distanceAfter)]

/-- A spline. -/
def ofSpline (s : Spline) : Json := .obj [
  ("name", .str s.name), ("points", .arr (s.points.map ofPointId)), ("closed", .bool s.closed)]

end Json

end RoadTraffic
