import RoadTraffic.Vec3

/-!
# The parts of the road graph

Points are chained into lanes by `next` and `previous`, neighbouring lanes are linked by `left` and
`right`, and junctions lead from one point to another. Points and junctions are named by their
index in the map's arrays.
-/

namespace RoadTraffic

/-- The index of a point in the map. -/
structure PointId where
  index : Nat
  deriving DecidableEq, Hashable, Repr, Inhabited

/-- The index of a junction in the map. -/
structure JunctionId where
  index : Nat
  deriving DecidableEq, Hashable, Repr, Inhabited

/-- How a point is named in messages. -/
def PointId.label (p : PointId) : String := "#" ++ toString p.index

/-- How a junction is named in messages. -/
def JunctionId.label (j : JunctionId) : String := "J" ++ toString j.index

/-- Which turn indicator a vehicle shows. -/
inductive Indicator where
  | off
  | left
  | right
  deriving DecidableEq, Repr, Inhabited

/-- A point of a lane. -/
structure RoadPoint (α : Type) where
  id : PointId
  position : Vec3 α
  /-- The next point along the lane. -/
  next : Option PointId
  /-- The previous point along the lane. -/
  previous : Option PointId
  /-- The point beside this one on the lane to the left. -/
  left : Option PointId
  /-- The point beside this one on the lane to the right. -/
  right : Option PointId
  /-- The junction that branches off here. -/
  branch : Option JunctionId
  /-- The junction that merges in here. -/
  merge : Option JunctionId
  /-- The radius of the bend in m. -/
  radius : α
  /-- The speed in m/s at which the bend uses up all grip. -/
  corneringSpeed : α
  /-- The sideways slope of the road in radians. -/
  camber : α
  /-- The distance to the next point in m, zero at the end of a lane. -/
  length : α

/-- A point on a straight road without any links. -/
def RoadPoint.unlinked {α : Type} [Scalar α] (id : PointId) (position : Vec3 α) : RoadPoint α where
  id
  position
  next := none
  previous := none
  left := none
  right := none
  branch := none
  merge := none
  radius := Scalar.infinity
  corneringSpeed := Scalar.infinity
  camber := 0
  length := 0

instance {α : Type} [Scalar α] : Inhabited (RoadPoint α) := ⟨.unlinked default .zero⟩

/-- The points that a point names, in the order in which they are checked. -/
def RoadPoint.links {α : Type} (p : RoadPoint α) : List PointId :=
  [p.next, p.previous, p.left, p.right].filterMap fun link => link

/-- A way from one point to another that a vehicle takes at random. -/
structure Junction (α : Type) where
  id : JunctionId
  /-- Where vehicles leave their lane. -/
  start : PointId
  /-- Where vehicles arrive. -/
  finish : PointId
  /-- How likely a vehicle takes the junction. -/
  probability : α
  /-- What a vehicle that takes the junction indicates. -/
  whenTaken : Indicator
  /-- What a vehicle that passes the junction by indicates. -/
  whenPassed : Indicator
  /-- How far before the start vehicles begin to indicate, in m. -/
  distanceBefore : α
  /-- How far behind the exit vehicles stop indicating, in m. -/
  distanceAfter : α

/-- A junction that nothing is said about but its ends and its probability. -/
def Junction.plain {α : Type} [Scalar α] (start finish : PointId) (probability : α) :
    Junction α where
  id := ⟨0⟩
  start
  finish
  probability
  whenTaken := .off
  whenPassed := .off
  distanceBefore := 0
  distanceAfter := 0

instance {α : Type} [Scalar α] : Inhabited (Junction α) := ⟨.plain default default 0⟩

/-- A named lane. -/
structure Spline where
  name : String
  /-- The points in driving order. -/
  points : List PointId
  /-- Whether the last point leads back to the first one. -/
  closed : Bool
  deriving DecidableEq, Inhabited

end RoadTraffic
