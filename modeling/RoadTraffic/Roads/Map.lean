import RoadTraffic.Fault
import RoadTraffic.Roads.NearestTree
import RoadTraffic.Roads.Reference
import RoadTraffic.Roads.Validation

/-!
# The road map

A validated graph with a search tree over its points. Points and junctions are looked up by index;
a look-up outside the map gives an unlinked point, and callers that may be handed any index ask
`demandPoint` or `demandJunction` first.

`lanes` lists the lanes beside a point that carry traffic the same way, from left to right. It puts
up with any links: it always contains the point itself and never more than `maxLanes` points.
-/

namespace RoadTraffic

/-- A road graph. -/
structure RoadMap (α : Type) where
  points : Array (RoadPoint α)
  junctions : Array (Junction α)
  splines : List Spline
  tree : NearestTree α

namespace RoadMap

variable {α : Type} [Scalar α]

/-- The map of a well-formed graph. -/
def ofParts (points : Array (RoadPoint α)) (junctions : Array (Junction α))
    (splines : List Spline) : Except (MapError α) (RoadMap α) := do
  Validation.check points junctions splines
  return {
    points, junctions, splines
    tree := .ofSites (points.toList.map fun p => (p.position, p.id)) }

/-- The number of points. -/
def size (m : RoadMap α) : Nat := m.points.size

/-- A point of the map. -/
def point (m : RoadMap α) (id : PointId) : RoadPoint α := m.points.getD id.index default

/-- A junction of the map. -/
def junction (m : RoadMap α) (id : JunctionId) : Junction α := m.junctions.getD id.index default

/-- A point that has to be on the map. -/
def demandPoint (m : RoadMap α) (id : PointId) : Except Fault (RoadPoint α) :=
  match m.points[id.index]? with
  | some p => .ok p
  | none => .error (.missingPoint id.index)

/-- A junction that has to be on the map. -/
def demandJunction (m : RoadMap α) (id : JunctionId) : Except Fault (Junction α) :=
  match m.junctions[id.index]? with
  | some j => .ok j
  | none => .error (.missingJunction id.index)

/-- The spline of a name. -/
def spline? (m : RoadMap α) (name : String) : Option Spline := m.splines.find? (·.name == name)

/-- The point that a reference names. -/
def resolve (m : RoadMap α) (reference : String) : Except (MapError α) PointId :=
  Reference.resolve m.splines reference

/-- Where vehicles restart that ran off the graph: the first point of the first spline. -/
def origin (m : RoadMap α) : PointId :=
  match m.splines with
  | { points := id :: _, .. } :: _ => id
  | _ => ⟨0⟩

/-- The point nearest to a position and the square of its distance. -/
def nearest? (m : RoadMap α) (position : Vec3 α) : Option (PointId × α) :=
  m.tree.nearest? position

/-- The distance between two points of the map. -/
def distance (m : RoadMap α) (a b : PointId) : α :=
  (m.point a).position.distance (m.point b).position

/-- The direction of travel at a point: towards its next point, or away from its previous one at
the end of a lane, or none. -/
def forward (m : RoadMap α) (id : PointId) : Vec3 α :=
  let p := m.point id
  match p.next, p.previous with
  | some next, _ => ((m.point next).position - p.position).direction
  | none, some previous => (p.position - (m.point previous).position).direction
  | none, none => .zero

/-- Whether traffic at two points travels the same general way. -/
def sameDirection (m : RoadMap α) (a b : PointId) : Bool :=
  decide (0 < (m.forward a).dot (m.forward b))

/-- The largest number of lanes beside each other that are told apart. -/
def maxLanes : Nat := 8

/-- The last point on the way to the left of `id` that travels the same way, at most `steps` lanes
from `current`. -/
def leftmost (m : RoadMap α) (id : PointId) : Nat → PointId → PointId
  | 0, current => current
  | steps + 1, current =>
    match (m.point current).left with
    | none => current
    | some left =>
      if left = id ∨ !m.sameDirection id left then current else leftmost m id steps left

/-- The points from `current` to the right that travel the same way as `id` and are not among
`found`, which they are added to. -/
def rightward (m : RoadMap α) (id : PointId) : Nat → Option PointId → List PointId → List PointId
  | 0, _, found => found
  | _ + 1, none, found => found
  | room + 1, some lane, found =>
    if lane ∈ found ∨ !m.sameDirection id lane then found
    else rightward m id room (m.point lane).right (found ++ [lane])

/-- The lanes at a point that carry traffic the same way, from left to right. -/
def lanes (m : RoadMap α) (id : PointId) : List PointId :=
  let row := m.rightward id maxLanes (some (m.leftmost id maxLanes id)) []
  if id ∈ row then row else [id]

/-- The map with lane links filled in where there are none. -/
def addLaneLinks (m : RoadMap α) (links : List (Option PointId × Option PointId)) : RoadMap α :=
  let fill (p : RoadPoint α) (link : Option PointId × Option PointId) : RoadPoint α :=
    { p with left := p.left.or link.1, right := p.right.or link.2 }
  { m with points := (m.points.toList.zipWith fill links).toArray }

end RoadMap

end RoadTraffic
