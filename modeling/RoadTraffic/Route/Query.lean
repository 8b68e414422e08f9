import RoadTraffic.Route.Walker

/-!
# Questions to a walker

Walks from points that need not be on the map. A walk of no steps does not look at the map; any
other one begins with a look at its first point. The points after that are links of the map.
-/

namespace RoadTraffic

namespace Walker

variable {ρ : Type} [RandomSource ρ] {α : Type} [Scalar α]

/-- The point `n` steps ahead of a point that need not be on the map. -/
def nextFrom (m : RoadMap α) (id : PointId) (n : Nat) (w : Walker ρ) :
    Except Fault (Option PointId × Walker ρ) := do
  if n ≠ 0 then discard <| m.demandPoint id
  return w.next m id n

/-- The point `n` steps back from a point that need not be on the map. -/
def previousFrom (m : RoadMap α) (id : PointId) (n : Nat) (w : Walker ρ) :
    Except Fault (Option PointId × Walker ρ) := do
  if n ≠ 0 then discard <| m.demandPoint id
  return w.previous m id n

/-- The point a signed number of steps from a point that need not be on the map. -/
def traverseFrom (m : RoadMap α) (id : PointId) (steps : Int) (w : Walker ρ) :
    Except Fault (Option PointId × Walker ρ) := do
  if steps ≠ 0 then discard <| m.demandPoint id
  return w.traverse m id steps

/-- Whether the walker takes a junction that need not be on the map. -/
def takesAny (m : RoadMap α) (j : JunctionId) (w : Walker ρ) : Except Fault (Bool × Walker ρ) := do
  discard <| m.demandJunction j
  return w.takes m j

/-- The points reached by up to `n` steps, with a last `none` if the way ends before. -/
def points (step : PointId → Walker ρ → Option PointId × Walker ρ) :
    Nat → PointId → Walker ρ → List (Option PointId) × Walker ρ
  | 0, _, w => ([], w)
  | n + 1, id, w =>
    match step id w with
    | (none, w) => ([none], w)
    | (some id, w) =>
      let (rest, w) := points step n id w
      (some id :: rest, w)

/-- The points of a walk ahead from a point that need not be on the map. -/
def pathFrom (m : RoadMap α) (id : PointId) (n : Nat) (w : Walker ρ) :
    Except Fault (List (Option PointId) × Walker ρ) := do
  if n ≠ 0 then discard <| m.demandPoint id
  return points (tryNext m) n id w

/-- The points of a walk back from a point that need not be on the map. -/
def pathBackFrom (m : RoadMap α) (id : PointId) (n : Nat) (w : Walker ρ) :
    Except Fault (List (Option PointId) × Walker ρ) := do
  if n ≠ 0 then discard <| m.demandPoint id
  return points (tryPrevious m) n id w

end Walker

end RoadTraffic
