import RoadTraffic.Geometry
import RoadTraffic.Roads.Map

/-!
# Building a map

A graph that grows by splines, junctions, connections and lane links until it is turned into a map.
An operation that fails leaves the graph as it was; a document of several entries keeps what its
entries did up to the failing one.

What the operations check is what the map demands, so that every graph that has a spline can be
built.
-/

namespace RoadTraffic

/-- A position that a spline passes through, and the sideways slope of the road there. -/
structure Site (α : Type) where
  position : Vec3 α
  camber : α

/-- A graph under construction. -/
structure RoadBuilder (α : Type) where
  points : Array (RoadPoint α)
  junctions : Array (Junction α)
  splines : List Spline

/-- A junction in a document, with its ends as references. The identity of `junction` and its ends
are replaced when it is added. -/
structure JunctionEntry (α : Type) where
  start : String
  finish : String
  junction : Junction α

/-- A pair of points in a document, as references. -/
structure PairEntry where
  first : String
  second : String

/-- A document of junctions, connections from a first point to a second one, and lane links from
the left lane to the right one. -/
structure RoadDocument (α : Type) where
  junctions : List (JunctionEntry α)
  connections : List PairEntry
  lanes : List PairEntry

/-- An operation on a graph under construction: it answers or fails, and leaves a graph behind. -/
abbrev Building (α β : Type) := ExceptT (MapError α) (StateM (RoadBuilder α)) β

namespace RoadBuilder

variable {α : Type} [Scalar α]

/-- The graph without points. -/
def empty : RoadBuilder α := ⟨#[], #[], []⟩

instance : Inhabited (RoadBuilder α) := ⟨empty⟩

/-- The point at place `index` of a chain of `count` points that begins at `first`. -/
def chained (first count index : Nat) (closed : Bool) (site : Site α) : RoadPoint α :=
  let previous :=
    if 0 < index then some ⟨first + index - 1⟩
    else if closed then some ⟨first + count - 1⟩ else none
  let next :=
    if index + 1 < count then some ⟨first + index + 1⟩
    else if closed then some ⟨first⟩ else none
  { RoadPoint.unlinked ⟨first + index⟩ site.position with
    previous, next, camber := site.camber }

/-- Adds a spline through the given sites and answers its first point. -/
def addSpline (name : String) (sites : List (Site α)) (closed : Bool) : Building α PointId := do
  let b ← get
  if b.splines.any (·.name == name) then throw (.duplicateSpline name)
  if sites.length < 2 then throw (.shortSpline name)
  let first := b.points.size
  let chain : List (RoadPoint α) := sites.mapIdx fun i site =>
    chained first sites.length i closed site
  let spline : Spline := ⟨name, chain.map (·.id), closed⟩
  set { b with points := b.points ++ chain.toArray, splines := b.splines ++ [spline] }
  return ⟨first⟩

/-- The point that a reference names. -/
def resolve (reference : String) : Building α PointId := do
  let b ← get
  (Reference.resolve b.splines reference : Except (MapError α) PointId)

/-- Changes the point of an index. -/
def modifyPoint (b : RoadBuilder α) (id : PointId) (f : RoadPoint α → RoadPoint α) :
    RoadBuilder α :=
  { b with points := b.points.modify id.index f }

/-- The point of an index that the graph has. -/
def point (b : RoadBuilder α) (id : PointId) : RoadPoint α := b.points.getD id.index default

/-- Adds a junction and answers its index. -/
def addJunction (junction : Junction α) : Building α JunctionId := do
  let b ← get
  let id : JunctionId := ⟨b.junctions.size⟩
  unless Validation.isProbability junction.probability do
    throw (.badProbability id junction.probability)
  if b.points.size ≤ junction.start.index ∨ b.points.size ≤ junction.finish.index then
    throw (.badJunction id)
  if (b.point junction.start).branch.isSome then throw (.junctionConflict junction.start)
  if (b.point junction.finish).merge.isSome then throw (.junctionConflict junction.finish)
  let b := b.modifyPoint junction.start ({ · with branch := some id })
  let b := b.modifyPoint junction.finish ({ · with merge := some id })
  set { b with junctions := b.junctions.push { junction with id } }
  return id

/-- Refuses a link between points that are not both there. -/
def checkLink (b : RoadBuilder α) (first second : PointId) : Except (MapError α) Unit :=
  if b.points.size ≤ first.index then .error (.danglingLink second first)
  else if b.points.size ≤ second.index then .error (.danglingLink first second)
  else .ok ()

/-- Lets the lane that ends at `first` go on with the lane that begins at `second`. -/
def connect (first second : PointId) : Building α Unit := do
  let b ← get
  b.checkLink first second
  if (b.point first).next.isSome then throw (.alreadyConnected first)
  if (b.point second).previous.isSome then throw (.alreadyConnected second)
  let b := b.modifyPoint first ({ · with next := some second })
  set (b.modifyPoint second ({ · with previous := some first }))

/-- Records that the lane of `left` lies to the left of that of `right`. -/
def linkLanes (left right : PointId) : Building α Unit := do
  let b ← get
  b.checkLink left right
  let b := b.modifyPoint left ({ · with right := some right })
  set (b.modifyPoint right ({ · with left := some left }))

/-- Resolves both references of a pair. -/
def resolvePair (pair : PairEntry) : Building α (PointId × PointId) := do
  let first ← resolve pair.first
  let second ← resolve pair.second
  return (first, second)

/-- Adds a junction of a document. -/
def addJunctionEntry (entry : JunctionEntry α) : Building α Unit := do
  let (start, finish) ← resolvePair ⟨entry.start, entry.finish⟩
  discard <| addJunction { entry.junction with start, finish }

/-- Adds the entries of a document: connections first, then lane links, then junctions. -/
def addDocument (document : RoadDocument α) : Building α Unit := do
  document.connections.forM fun pair => do
    let (first, second) ← resolvePair pair
    connect first second
  document.lanes.forM fun pair => do
    let (left, right) ← resolvePair pair
    linkLanes left right
  document.junctions.forM addJunctionEntry

/-- The position of a point that a link names, if the graph has it. -/
def position? (b : RoadBuilder α) (link : Option PointId) : Option (Vec3 α) :=
  link.bind fun id => (b.points[id.index]?).map (·.position)

/-- A point with its length and its bend, which are told by its neighbours along the lane. -/
def measured (b : RoadBuilder α) (p : RoadPoint α) : RoadPoint α :=
  let previous := b.position? p.previous
  let next := b.position? p.next
  let length := match next with
    | some n => n.distance p.position
    | none => 0
  let radius := match previous, next with
    | some q, some n => circumradius q p.position n
    | _, _ => Scalar.infinity
  { p with length, radius, corneringSpeed := RoadTraffic.corneringSpeed radius 1 }

/-- The map of the graph. -/
def build (b : RoadBuilder α) : Except (MapError α) (RoadMap α) :=
  RoadMap.ofParts (b.points.map b.measured) b.junctions b.splines

end RoadBuilder

end RoadTraffic
