import RoadTraffic.Roads.Error

/-!
# Well-formed graphs

The four checks that a list of points, junctions and splines has to pass before it is a map, in the
order in which they are made: indices, links, junctions, splines. Each check relies on the ones
before it.
-/

namespace RoadTraffic

namespace Validation

variable {α : Type}

/-- Refuses an index that is out of bounds or was met before, for the points from place `index` on.
`seen` marks the indices met so far. -/
def checkDistinct (seen : Array Bool) (index : Nat) : List (RoadPoint α) → Except (MapError α) Unit
  | [] => .ok ()
  | p :: rest =>
    match seen[p.id.index]? with
    | none => .error (.sparsePoint index p.id)
    | some true => .error (.duplicatePoint p.id)
    | some false => checkDistinct (seen.set! p.id.index true) (index + 1) rest

/-- Refuses a point whose index is not its place, for the points from place `index` on. -/
def checkPlaces (index : Nat) : List (RoadPoint α) → Except (MapError α) Unit
  | [] => .ok ()
  | p :: rest =>
    if p.id.index = index then checkPlaces (index + 1) rest else .error (.sparsePoint index p.id)

/-- Every point has its own place as its index. -/
def checkIds (points : Array (RoadPoint α)) : Except (MapError α) Unit := do
  checkDistinct (Array.replicate points.size false) 0 points.toList
  checkPlaces 0 points.toList

/-- The links of a point stay within the map, and its neighbours along the lane lead back to it. -/
def checkPoint (points : Array (RoadPoint α)) (p : RoadPoint α) : Except (MapError α) Unit := do
  if let some target := p.links.find? (points.size ≤ ·.index) then
    throw (.danglingLink p.id target)
  if let some next := p.next then
    unless (points[next.index]?).bind (·.previous) = some p.id do throw (.brokenChain p.id)
  if let some previous := p.previous then
    unless (points[previous.index]?).bind (·.next) = some p.id do throw (.brokenChain previous)

/-- Every point passes `checkPoint`. -/
def checkLinks (points : Array (RoadPoint α)) : Except (MapError α) Unit :=
  points.toList.forM (checkPoint points)

/-- The junctions that start and end at each point. -/
structure JunctionEnds where
  starts : Array (Option JunctionId)
  finishes : Array (Option JunctionId)

/-- Whether a probability is one. -/
def isProbability [Scalar α] (p : α) : Prop := 0 ≤ p ∧ p ≤ 1

instance [Scalar α] (p : α) : Decidable (isProbability p) :=
  inferInstanceAs (Decidable (0 ≤ p ∧ p ≤ 1))

/-- Refuses a junction that is misplaced, leads out of the map, is not a matter of chance or shares
an end with an earlier one, for the junctions from place `index` on. -/
def gatherEnds [Scalar α] (ends : JunctionEnds) (index : Nat) :
    List (Junction α) → Except (MapError α) JunctionEnds
  | [] => .ok ends
  | j :: rest =>
    if j.id.index ≠ index ∨ ends.starts.size ≤ j.start.index ∨
        ends.starts.size ≤ j.finish.index then
      .error (.badJunction j.id)
    else if ¬ isProbability j.probability then .error (.badProbability j.id j.probability)
    else if (ends.starts.getD j.start.index none).isSome then .error (.junctionConflict j.start)
    else if (ends.finishes.getD j.finish.index none).isSome then
      .error (.junctionConflict j.finish)
    else
      gatherEnds
        { starts := ends.starts.set! j.start.index (some j.id)
          finishes := ends.finishes.set! j.finish.index (some j.id) }
        (index + 1) rest

/-- A point names exactly the junctions that start and end at it. -/
def checkEnds (ends : JunctionEnds) (p : RoadPoint α) : Except (MapError α) Unit :=
  if p.branch = ends.starts.getD p.id.index none ∧ p.merge = ends.finishes.getD p.id.index none then
    .ok ()
  else .error (.junctionConflict p.id)

/-- The junctions and the points agree. -/
def checkJunctions [Scalar α] (points : Array (RoadPoint α)) (junctions : Array (Junction α)) :
    Except (MapError α) Unit := do
  let nowhere := Array.replicate points.size (none : Option JunctionId)
  let ends ← gatherEnds ⟨nowhere, nowhere⟩ 0 junctions.toList
  points.toList.forM (checkEnds ends)

/-- Refuses a name met before and a point outside the map. `names` holds the names met so far. -/
def checkSplines (points : Array (RoadPoint α)) (names : List String) :
    List Spline → Except (MapError α) Unit
  | [] => .ok ()
  | s :: rest =>
    if s.name ∈ names then .error (.duplicateSpline s.name)
    else
      match s.points.find? (points.size ≤ ·.index) with
      | some target => .error (.danglingLink (s.points.headD target) target)
      | none => checkSplines points (s.name :: names) rest

/-- All checks. -/
def check [Scalar α] (points : Array (RoadPoint α)) (junctions : Array (Junction α))
    (splines : List Spline) : Except (MapError α) Unit := do
  if points.isEmpty then throw .empty
  checkIds points
  checkLinks points
  checkJunctions points junctions
  checkSplines points [] splines

end Validation

end RoadTraffic
