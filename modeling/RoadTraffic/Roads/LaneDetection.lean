import RoadTraffic.Journal.Basic
import RoadTraffic.Roads.Map
import RoadTraffic.Settings.Basic

/-!
# Adjacent lanes

Finds the lanes beside each other by looking a lane width to the left and to the right of every
point. The point nearest to such a place is a neighbour if it is another point, lies within the
detection radius of the place and carries traffic the same way.

All points are looked at on the map as it was before; only the links that are missing are filled
in, so that the order of the points does not matter.
-/

namespace RoadTraffic

/-- How lanes beside each other are recognised. -/
structure LaneDetector (α : Type) where
  laneWidth : α
  radius : α
  /-- Whether oncoming lanes count as neighbours. -/
  twoWay : Bool

/-- What lies beside a point. -/
inductive Beside where
  | nothing
  | lane (id : PointId)
  | opposing (id : PointId)
  deriving DecidableEq, Repr

/-- The lane to be linked. -/
def Beside.link : Beside → Option PointId
  | lane id => some id
  | _ => none

/-- The lane that is passed over because it is oncoming. -/
def Beside.passedOver : Beside → Option PointId
  | opposing id => some id
  | _ => none

namespace LaneDetector

variable {α : Type} [Scalar α]

/-- A detector for lanes of a width. The lanes have to be wider than the radius, so that no point is
found beside itself. -/
def make (laneWidth radius : α) (twoWay : Bool) : Except (SettingsError α) (LaneDetector α) := do
  if radius ≤ 0 then throw (.notPositive .laneRadius radius)
  if laneWidth < Settings.minWidthFactor * radius then throw (.narrowLanes laneWidth radius)
  return ⟨laneWidth, radius, twoWay⟩

/-- The detector that the settings describe. -/
def ofSettings (s : Settings α) : Except (SettingsError α) (LaneDetector α) :=
  make s.laneWidth s.laneRadius s.twoWay

/-- The place `offset` to the left of a point. -/
def placeBeside (m : RoadMap α) (p : RoadPoint α) (offset : α) : Vec3 α :=
  p.position + (m.forward p.id).leftward.scale offset

/-- What lies `offset` to the left of a point. -/
def look (d : LaneDetector α) (m : RoadMap α) (p : RoadPoint α) (offset : α) : Beside :=
  match m.nearest? (placeBeside m p offset) with
  | none => .nothing
  | some (id, distanceSquared) =>
    if id = p.id ∨ d.radius * d.radius < distanceSquared then .nothing
    else if m.sameDirection p.id id || d.twoWay then .lane id
    else .opposing id

/-- What lies to the left and to the right of a point, as far as there are no links yet. The last
point of a lane has no direction to look along. -/
def lookAround (d : LaneDetector α) (m : RoadMap α) (p : RoadPoint α) : Beside × Beside :=
  if p.next.isNone then (.nothing, .nothing)
  else
    ( if p.left.isNone then d.look m p (1 * d.laneWidth) else .nothing,
      if p.right.isNone then d.look m p (-1 * d.laneWidth) else .nothing )

/-- The lanes passed over, in the order of their texts. -/
def opposingNotices (m : RoadMap α) (found : List (Beside × Beside)) : List (Notice α) :=
  let pairs := (m.points.toList.zip found).flatMap fun (p, left, right) =>
    [left, right].filterMap fun side => side.passedOver.map fun id => (id, p.id)
  let sorted := pairs.mergeSort fun a b =>
    ¬ Notice.opposingLaneText b.1 b.2 < Notice.opposingLaneText a.1 a.2
  sorted.map fun (id, p) => .opposingLane id p

/-- The number of links found. -/
def countLinks (links : List (Option PointId × Option PointId)) : Nat :=
  (links.map fun (left, right) => left.isSome.toNat + right.isSome.toNat).foldr (· + ·) 0

/-- Fills in the lane links of a map and answers their number. -/
def detect (d : LaneDetector α) (m : RoadMap α) : Logged α (Nat × RoadMap α) := do
  let found := m.points.toList.map (d.lookAround m)
  (opposingNotices m found).forM note
  let links := found.map fun (left, right) => (left.link, right.link)
  let added := countLinks links
  note (.linkedLanes added m.size)
  return (added, m.addLaneLinks links)

end LaneDetector

end RoadTraffic
